import StepScript.Panel.Basic
import StepScript.Proofs.Run.Alike
import StepScript.Proofs.Script.Spelling
set_option autoImplicit false

/-!
# Runs: the sources of lines have no part in a run

A world reads the tokens of a line and nothing else of it, so it does not tell lines with the same
tokens apart.  Scripts of such lines act alike, and whoever respells the texts that a simulator or a
game is asked to run, with the same words on each line, sees no difference in any reply, event or
world; states are the same once the sources are taken off the lines that they hold.

Main statements: `World.ReadsTokens.respects`; `Simulator.responses_respelled` and
`Game.responses_respelled`, for requests one after the other; and `interchangeable_of_sameWords`.
-/

namespace StepScript

open Machine

/-! ## Lines and scripts -/

/-- Two lines that differ in their sources at most. -/
def Line.SameTokens (l l' : Line) : Prop := l.sourceless = l'.sourceless

theorem Script.alike_iff_sourceless_eq (s s' : Script) :
    s.Alike Line.SameTokens s' ↔ s.sourceless = s'.sourceless := by
  rw [Script.sourceless, Script.sourceless, Script.mk.injEq, ← List.forall₂_eq_eq_eq,
    List.forall₂_map_left_iff, List.forall₂_map_right_iff]
  rfl

theorem Script.Alike.sourceless_eq {s s' : Script} (h : s.Alike Line.SameTokens s') :
    s.sourceless = s'.sourceless :=
  (alike_iff_sourceless_eq s s').mp h

/-- Texts with the same words make scripts that are alike. -/
theorem SameWords.alike {a b : String} (h : SameWords a b) :
    (Script.parse a).Alike Line.SameTokens (Script.parse b) :=
  (Script.alike_iff_sourceless_eq _ _).mpr h.sourceless_eq

/-! ## Worlds -/

/-- A world that reads nothing but tokens. -/
structure World.ReadsTokens (W : Type) [World W] : Prop where
  decode : ∀ l : Line, World.decode (W := W) l.sourceless = World.decode l
  begin : ∀ (w : W) (script : Script), World.begin? w script.sourceless = World.begin? w script

/-- The turtle reads the name of a command and its number, and begins whatever the script. -/
theorem Turtle.readsTokens : World.ReadsTokens Turtle where
  decode _ := rfl
  begin _ _ := rfl

/-- The panel looks at a whole script as well, but only for tokens. -/
theorem Panel.readsTokens : World.ReadsTokens Panel where
  decode _ := rfl
  begin p script := by
    rw [world_begin?, world_begin?, script.isBlank_sourceless]

section World

variable {W : Type} [World W] (hreads : World.ReadsTokens W)
include hreads

theorem Passage.ofLine_sourceless (w : W) (l : Line) :
    Passage.ofLine w l.sourceless = Passage.ofLine w l := by
  have hblank : l.sourceless.isBlank = l.isBlank := rfl
  rw [Passage.ofLine, hblank, hreads.decode, Passage.ofLine]

/-- So such a world does not tell lines with the same tokens apart. -/
theorem World.ReadsTokens.respects : World.Respects W Line.SameTokens where
  refl _ := rfl
  line {l l'} h w := by
    rw [← Passage.ofLine_sourceless hreads w l, h, Passage.ofLine_sourceless hreads]
  begin {s s'} h w := by rw [← hreads.begin w s, h.sourceless_eq, hreads.begin]

end World

/-! ## States -/

/-- The same session on the script without sources. -/
def Session.sourceless (s : Session) : Session := { s with script := s.script.sourceless }

/-- The same simulator without the sources of its session. -/
def Simulator.sourceless {W : Type} (s : Simulator W) : Simulator W :=
  { s with session := s.session.map Session.sourceless }

/-- The same game without the sources of its session. -/
def Game.sourceless (g : Game) : Game := g.withSimulator g.simulator.sourceless

theorem Session.Alike.sourceless_eq {s s' : Session} (h : s.Alike Line.SameTokens s') :
    s.sourceless = s'.sourceless := by
  cases h with
  | mk h => rw [Session.sourceless, Session.sourceless, h.sourceless_eq]

theorem Simulator.Alike.sourceless_eq {W : Type} {s s' : Simulator W}
    (h : s.Alike Line.SameTokens s') : s.sourceless = s'.sourceless := by
  cases h with
  | free w p n => rfl
  | held h w p n =>
      simp only [Simulator.sourceless, Option.map_some, h.sourceless_eq]

theorem Game.Alike.sourceless_eq {g g' : Game} (h : g.Alike Line.SameTokens g') :
    g.sourceless = g'.sourceless := by
  cases h with
  | mk h seed generator =>
      exact congrArg (fun s => (⟨s, seed, generator⟩ : Game)) h.sourceless_eq

/-! ## Histories -/

/-- The same request, with another text of the same words if it is a run. -/
inductive Request.Respelled : Request → Request → Prop where
  | same (r : Request) : Request.Respelled r r
  | run {a b : String} (h : SameWords a b) : Request.Respelled (.run a) (.run b)

/-- The same request, with another text of the same words if it is a run. -/
inductive GameRequest.Respelled : GameRequest → GameRequest → Prop where
  | play : GameRequest.Respelled .play .play
  | plain {r r' : Request} (h : r.Respelled r') : GameRequest.Respelled (.plain r) (.plain r')

theorem Request.Respelled.alike {r r' : Request} (h : r.Respelled r') :
    r.Alike Line.SameTokens r' := by
  cases h with
  | same => exact .same r
  | run h => exact .run h.alike

theorem GameRequest.Respelled.alike {r r' : GameRequest} (h : r.Respelled r') :
    r.Alike Line.SameTokens r' := by
  cases h with
  | play => exact .play
  | plain h => exact .plain h.alike

/-- **Respelled requests** to a simulator get the same replies, show the same events and leave the
same states, but for the sources of the session held. -/
theorem Simulator.responses_respelled {W : Type} [World W] (hreads : World.ReadsTokens W)
    (s : Simulator W) {rs rs' : List Request} (hrs : List.Forall₂ Request.Respelled rs rs') :
    responses sourceless s rs = responses sourceless s rs' :=
  s.responses_of_alike hreads.respects (fun _ _ hs => hs.sourceless_eq)
    (hrs.imp fun _ _ => Request.Respelled.alike)

theorem Game.responses_respelled (g : Game) {rs rs' : List GameRequest}
    (hrs : List.Forall₂ GameRequest.Respelled rs rs') :
    responses sourceless g rs = responses sourceless g rs' :=
  g.responses_of_alike Turtle.readsTokens.respects (fun _ _ hg => hg.sourceless_eq)
    (hrs.imp fun _ _ => GameRequest.Respelled.alike)

/-- Any list of requests is a respelling of itself. -/
theorem Request.respelled_refl (rs : List Request) : List.Forall₂ Request.Respelled rs rs :=
  List.forall₂_same.mpr fun r _ => .same r

theorem GameRequest.respelled_refl (rs : List GameRequest) :
    List.Forall₂ GameRequest.Respelled rs rs := by
  refine List.forall₂_same.mpr ?_
  intro r _
  cases r with
  | play => exact .play
  | plain r => exact .plain (.same r)

/-! ## Texts -/

/-- Texts that a simulator's runs do not tell apart: asked to run the one or the other in any state,
it gives the same replies to that and to all later requests, shows the same events and goes through
the same states, sources aside; and a run to the end comes out the same. -/
structure Simulator.RunsAlike (W : Type) [World W] (a b : String) : Prop where
  responses : ∀ (s : Simulator W) (rs : List Request),
    responses sourceless s (.run a :: rs) = responses sourceless s (.run b :: rs)
  blocking : ∀ {V : Type} [View V W] (s : Simulator W) (v : V) (clock : Clock),
    s.runBlocking a v clock = s.runBlocking b v clock

/-- Texts that games do not tell apart. -/
structure Game.RunsAlike (a b : String) : Prop where
  responses : ∀ (g : Game) (rs : List GameRequest),
    responses sourceless g (.plain (.run a) :: rs) = responses sourceless g (.plain (.run b) :: rs)
  blocking : ∀ {V : Type} [View V Turtle] (g : Game) (v : V) (clock : Clock),
    g.runBlocking a v clock = g.runBlocking b v clock

/-- Texts that can stand in for each other: line by line they have the same tokens and the same
commands, and no run tells them apart. -/
structure Interchangeable (a b : String) : Prop where
  tokens : ∀ i, ((Script.parse a).line? i).map Line.tokens =
    ((Script.parse b).line? i).map Line.tokens
  turtleCommands : ∀ i, ((Script.parse a).line? i).map TurtleCommand.ofLine =
    ((Script.parse b).line? i).map TurtleCommand.ofLine
  panelCommands : ∀ i, ((Script.parse a).line? i).map PanelCommand.ofLine =
    ((Script.parse b).line? i).map PanelCommand.ofLine
  turtle : Simulator.RunsAlike Turtle a b
  panel : Simulator.RunsAlike Panel a b
  game : Game.RunsAlike a b

theorem Simulator.runsAlike_of_sameWords {W : Type} [World W] (hreads : World.ReadsTokens W)
    {a b : String} (h : SameWords a b) : RunsAlike W a b where
  responses s rs := s.responses_respelled hreads (.cons (.run h) (Request.respelled_refl rs))
  blocking s := s.runBlocking_of_alike hreads.respects h.alike

theorem Game.runsAlike_of_sameWords {a b : String} (h : SameWords a b) : RunsAlike a b where
  responses g rs := g.responses_respelled (.cons (.plain (.run h)) (GameRequest.respelled_refl rs))
  blocking g := g.runBlocking_of_alike Turtle.readsTokens.respects h.alike

/-- **Letter case and layout make no difference.**  Texts with as many line feeds and with the same
words on each line, up to ASCII case, have the same tokens and the same commands line by line, and are
run alike by turtle simulators, panel simulators and games. -/
theorem interchangeable_of_sameWords {a b : String} (h : SameWords a b) : Interchangeable a b where
  tokens := h.line?_map_eq fun _ => rfl
  turtleCommands := h.line?_map_eq Turtle.readsTokens.decode
  panelCommands := h.line?_map_eq Panel.readsTokens.decode
  turtle := Simulator.runsAlike_of_sameWords Turtle.readsTokens h
  panel := Simulator.runsAlike_of_sameWords Panel.readsTokens h
  game := Game.runsAlike_of_sameWords h

/-- A script shouted, with a hexadecimal mark, an exponent, and white space of four kinds. -/
theorem interchangeable_of_shouted :
    SameWords "anda 0x1f 1e1\r\n\ntrás 2" "\tANDA\u00a00X1F  1E1\n \nTRáS\u30002 " ∧
      Interchangeable "anda 0x1f 1e1\r\n\ntrás 2" "\tANDA\u00a00X1F  1E1\n \nTRáS\u30002 " :=
  ⟨by decide +kernel, interchangeable_of_sameWords (by decide +kernel)⟩

end StepScript
