import StepScript.Board.Drawing
import StepScript.Board.Guard
import StepScript.Board.Square
import StepScript.Board.Turtle
import StepScript.Command.Arguments
import StepScript.Command.Check
import StepScript.Command.Folder
import StepScript.Command.Perform
import StepScript.Command.Simulate
import StepScript.Config.Basic
import StepScript.Config.Schema
import StepScript.Config.Validation
import StepScript.Error
import StepScript.Game.Basic
import StepScript.Game.Generator
import StepScript.Json.Basic
import StepScript.Json.Decode
import StepScript.Json.Run
import StepScript.Json.Tree
import StepScript.Main
import StepScript.Number.Binary64
import StepScript.Number.Geometry
import StepScript.Number.Layout
import StepScript.Number.Literal
import StepScript.Number.Rounding
import StepScript.Number.Shortest
import StepScript.Panel.Basic
import StepScript.Run.Notice
import StepScript.Run.Outcome
import StepScript.Run.Pacing
import StepScript.Run.Session
import StepScript.Run.Simulator
import StepScript.Run.World
import StepScript.Script.Basic
import StepScript.Script.InPlace
import StepScript.Script.Line
import StepScript.Script.Operand
import StepScript.Text.CaseTable
import StepScript.Text.GlyphTable
import StepScript.Text.Padding
import StepScript.Text.Quoted
import StepScript.Text.UpperCase
import StepScript.Text.WhiteSpace
import StepScript.Time.Clock
import StepScript.Time.Duration
import StepScript.View.Framed
import StepScript.View.Recording
import StepScript.View.Terminal
import StepScript.Yaml.Cursor
import StepScript.Yaml.Flaw
import StepScript.Yaml.Lexer
import StepScript.Yaml.Node
import StepScript.Yaml.Resolve
import StepScript.Yaml.Scalar
import StepScript.Yaml.Tag
import StepScript.Yaml.Token
import StepScript.Proofs.Board.Drawn
import StepScript.Proofs.Board.FromHome
import StepScript.Proofs.Board.Moves
import StepScript.Proofs.Board.OnBoard
import StepScript.Proofs.Board.Redirected
import StepScript.Proofs.Command.Checked
import StepScript.Proofs.Command.ExitStatus
import StepScript.Proofs.Command.Options
import StepScript.Proofs.Command.Overlooked
import StepScript.Proofs.Command.Settled
import StepScript.Proofs.Command.Stage
import StepScript.Proofs.Config.Accepted
import StepScript.Proofs.Config.Fields
import StepScript.Proofs.Game.Acceptance
import StepScript.Proofs.Game.Apples
import StepScript.Proofs.Game.Cycle
import StepScript.Proofs.Game.Machine
import StepScript.Proofs.Game.Placement
import StepScript.Proofs.Game.PlaySession
import StepScript.Proofs.Game.Search
import StepScript.Proofs.Game.Uniform
import StepScript.Proofs.Number.Exact
import StepScript.Proofs.Number.Nearest
import StepScript.Proofs.Number.Order
import StepScript.Proofs.Number.Sign
import StepScript.Proofs.Panel.Composition
import StepScript.Proofs.Panel.Runs
import StepScript.Proofs.Panel.Settings
import StepScript.Proofs.Run.Alike
import StepScript.Proofs.Run.Blocking
import StepScript.Proofs.Run.Bookkeeping
import StepScript.Proofs.Run.Cancellation
import StepScript.Proofs.Run.Entered
import StepScript.Proofs.Run.FreshStart
import StepScript.Proofs.Run.IdleLine
import StepScript.Proofs.Run.Immunity
import StepScript.Proofs.Run.Machine
import StepScript.Proofs.Run.Progress
import StepScript.Proofs.Run.Renewal
import StepScript.Proofs.Run.Renumbered
import StepScript.Proofs.Run.Report
import StepScript.Proofs.Run.Sources
import StepScript.Proofs.Run.Stops
import StepScript.Proofs.Run.Transcript
import StepScript.Proofs.Run.Turns
import StepScript.Proofs.Script.Insertion
import StepScript.Proofs.Script.Layout
import StepScript.Proofs.Script.Lines
import StepScript.Proofs.Script.Spelling
import StepScript.Proofs.Text.Words
import StepScript.Proofs.Time.Tempo
import StepScript.Proofs.View.Frames
import StepScript.Proofs.View.Shown
import StepScript.Proofs.View.Story
import StepScript.Proofs.Number.Grammar
import StepScript.Proofs.Number.Longest
import StepScript.Proofs.Script.Digits
import StepScript.Proofs.Script.Integers
import StepScript.Proofs.Script.Radices
import StepScript.Proofs.Panel.Operands
