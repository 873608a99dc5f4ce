import StepScript.Json.Basic
import StepScript.Board.Turtle
import StepScript.Panel.Basic
import StepScript.View.Recording
set_option autoImplicit false

/-!
# JSON: worlds, events and frames

How the state of a run is written: poses, worlds, outcomes, notices, events and frames.  Variants
with members are records with a tag among them; pauses are whole milliseconds, rounded down and cut
at 64 bits.
-/

namespace StepScript

instance : ToJson Pose where
  toJson p := .record [("x", .float p.x), ("y", .float p.y), ("heading", .float p.heading)]

instance : ToJson Square where
  toJson s := .record [("x", toJson s.x), ("y", toJson s.y)]

instance : ToJson Guard where
  toJson g := .record [("grid_size", toJson g.gridSize), ("epsilon", .float g.epsilon)]

instance : ToJson Turtle where
  toJson t := .record
    [("pose", toJson t.pose), ("guard", toJson t.guard),
      ("target", (t.target.map toJson).getD .null), ("win_radius", .float t.winRadius)]

instance : ToJson Panel where
  toJson p := .record [("leds", .list (p.states.map .bool))]

instance : ToJson LampColor where
  toJson c := .text c.name

namespace Verdict

/-- Name of a verdict. -/
def name : Verdict → String
  | .win => "win"
  | .lose => "lose"

end Verdict

instance : ToJson Verdict where
  toJson v := .text v.name

namespace Outcome

/-- Tag of an outcome. -/
def tag : Outcome → String
  | .completed => "completed"
  | .won => "won"
  | .lost => "lost"
  | .aborted _ => "aborted"
  | .cancelled => "cancelled"

end Outcome

instance : ToJson Outcome where
  toJson o := .record <|
    ("outcome", .text o.tag) ::
      match o with
      | .aborted line => [("line", .nat line)]
      | _ => []

instance : ToJson Notice where
  toJson
    | .invalidMove line x y => .record
        [("kind", .text "invalid_move"), ("line", .nat line), ("x", .float x), ("y", .float y)]
    | .won => .record [("kind", .text "won")]
    | .lost => .record [("kind", .text "lost")]
    | .gameStarted target => .record
        [("kind", .text "game_started"), ("target", toJson target)]

instance : ToJson Step where
  toJson
    | .pause d => .record
        [("kind", .text "pause"), ("ms", .nat (min (d.nanos / 1000000) (UInt64.size - 1)))]
    | .finished o => .record [("kind", .text "finished"), ("outcome", toJson o)]
    | .idle => .record [("kind", .text "idle")]

instance {W : Type} [ToJson W] : ToJson (Event W) where
  toJson
    | .render w => .record [("event", .text "render"), ("world", toJson w)]
    | .active line on => .record
        [("event", .text "active"), ("line", .nat line), ("active", .bool on)]
    | .failed line => .record [("event", .text "failed"), ("line", .nat line)]
    | .notice n => .record
        [("event", .text "notice"), ("notice", toJson n), ("message", .text n.message)]

instance {W : Type} [ToJson W] : ToJson (Recording W) where
  toJson r := .record [("events", .list (r.events.map toJson))]

instance {W : Type} [ToJson W] : ToJson (Frame W) where
  toJson f := .record [("step", toJson f.step), ("events", .list (f.events.map toJson))]

end StepScript
