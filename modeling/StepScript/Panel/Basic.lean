import StepScript.Run.World
set_option autoImplicit false

/-!
# The panel of lamps

Three lamps with the numbers 1 to 3.  A lamp stays as it is from one run to the next; only a reset
turns the panel off.
-/

namespace StepScript

/-- A difference, if it is not negative. -/
def difference? (m n : Nat) : Option Nat := if n ≤ m then some (m - n) else none

/-- The lamps by colour. -/
inductive LampColor where
  | yellow
  | green
  | red
  deriving DecidableEq, Repr

namespace LampColor

/-- The colours in the order of their numbers. -/
def all : List LampColor := [.yellow, .green, .red]

/-- Colour of the lamp with a number.  The numbers start at one, the indices at zero. -/
def ofId? (id : Int) : Option LampColor := do
  let number ← id.toNat?
  let index ← difference? number 1
  all[index]?

/-- The colours by number. -/
theorem ofId?_eq (id : Int) :
    ofId? id =
      if id = 1 then some .yellow
      else if id = 2 then some .green
      else if id = 3 then some .red
      else none := by
  match id with
  | .negSucc n => rfl
  | .ofNat 0 => rfl
  | .ofNat 1 => rfl
  | .ofNat 2 => rfl
  | .ofNat 3 => rfl
  | .ofNat (n + 4) =>
      have hbeyond : 3 < Int.ofNat (n + 4) := by
        rw [Int.ofNat_eq_natCast]
        omega
      rw [if_neg (by omega), if_neg (by omega), if_neg (by omega)]
      rfl

theorem ofId?_eq_none_iff (id : Int) : ofId? id = none ↔ id < 1 ∨ 3 < id := by
  rw [ofId?_eq]
  grind

theorem eq_of_ofId? {id : Int} {c : LampColor} (h : ofId? id = some c) :
    (id = 1 ∧ c = .yellow) ∨ (id = 2 ∧ c = .green) ∨ (id = 3 ∧ c = .red) := by
  rw [ofId?_eq] at h
  grind

theorem ofId?_injective {id id' : Int} {c : LampColor} (h : ofId? id = some c)
    (h' : ofId? id' = some c) : id = id' := by
  have hid := eq_of_ofId? h
  have hid' := eq_of_ofId? h'
  grind

/-- Name of a colour. -/
def name : LampColor → String
  | .yellow => "yellow"
  | .green => "green"
  | .red => "red"

end LampColor

/-- An instruction for the panel. -/
inductive PanelCommand where
  /-- Switches the lamp with a number, which need not exist. -/
  | switch (lamp : Int) (on : Bool)
  /-- A switch with operands that cannot be read, or with a state other than 0 and 1. -/
  | invalid
  /-- Pauses; for no time of its own when the operand cannot be read. -/
  | wait (d : Option Duration)
  | clear
  | noop
  deriving DecidableEq, Repr

/-- Seconds as a pause; a negative number is no time, and what is not a number is no pause. -/
def waitDuration? (seconds : Float) : Option Duration :=
  if seconds.isNaN then none
  else if seconds < 0.0 then some .zero
  else Duration.ofSeconds? seconds

namespace PanelCommand

/-- Reads a line. -/
def ofLine (l : Line) : PanelCommand :=
  match l.command? with
  | none => .noop
  | some name =>
      if name = "ACIONAR" then
        match l.integer? 1, l.integer? 2 with
        | some lamp, some state =>
            if state = 0 then .switch lamp false
            else if state = 1 then .switch lamp true
            else .invalid
        | _, _ => .invalid
      else if name = "ESPERAR" then .wait ((l.float? 1).bind waitDuration?)
      else if name = "LIMPAR" then .clear
      else .noop

/-- A command in a listing. -/
def text : PanelCommand → String
  | .switch lamp on =>
      "Switch \x7b led: " ++ toString lamp ++ ", on: " ++ (if on then "true" else "false") ++
        " \x7d"
  | .invalid => "Invalid"
  | .wait none => "Wait(None)"
  | .wait (some d) => "Wait(Some(" ++ d.text ++ "))"
  | .clear => "Clear"
  | .noop => "Noop"

/-- Whether the panel knows a command. -/
def isRecognized : PanelCommand → Bool
  | .noop | .invalid => false
  | _ => true

end PanelCommand

/-- The states of the lamps. -/
structure Panel where
  yellow : Bool
  green : Bool
  red : Bool
  deriving DecidableEq, Repr, Inhabited

namespace Panel

/-- All lamps off. -/
def off : Panel := ⟨false, false, false⟩

/-- State of a lamp. -/
def lamp (p : Panel) : LampColor → Bool
  | .yellow => p.yellow
  | .green => p.green
  | .red => p.red

/-- Switches a lamp. -/
def setLamp (p : Panel) (c : LampColor) (on : Bool) : Panel :=
  match c with
  | .yellow => { p with yellow := on }
  | .green => { p with green := on }
  | .red => { p with red := on }

theorem lamp_setLamp (p : Panel) (c c' : LampColor) (on : Bool) :
    (p.setLamp c on).lamp c' = if c' = c then on else p.lamp c' := by
  cases c <;> cases c' <;> rfl

/-- The states in the order of the numbers. -/
def states (p : Panel) : List Bool := LampColor.all.map p.lamp

/-- Index of the lamp with a number, if there is one. -/
def index? (id : Int) : Option Nat := (LampColor.ofId? id).bind fun _ => (id - 1).toNat?

/-- The index of a lamp is that of its colour. -/
theorem color_of_index? (id : Int) :
    ((index? id).bind fun i => LampColor.all[i]?) = LampColor.ofId? id := by
  unfold index?
  cases hcolor : LampColor.ofId? id with
  | none => rfl
  | some c =>
      obtain ⟨rfl, rfl⟩ | ⟨rfl, rfl⟩ | ⟨rfl, rfl⟩ := LampColor.eq_of_ofId? hcolor <;> rfl

/-- Switches the lamp with a number, and says whether there is one. -/
def switch (id : Int) (on : Bool) : StateM Panel Bool := do
  match (index? id).bind fun i => LampColor.all[i]? with
  | none => return false
  | some c =>
      modify fun p => p.setLamp c on
      return true

/-- The panel with a lamp switched, if there is one with the number. -/
def set? (p : Panel) (id : Int) (on : Bool) : Option Panel := granted? (switch id on) p

/-- State of the lamp with a number; one that does not exist is off. -/
def isOn (p : Panel) (id : Int) : Bool := ((index? id).bind fun i => p.states[i]?).getD false

theorem switch_eq (id : Int) (on : Bool) (p : Panel) :
    switch id on p =
      match LampColor.ofId? id with
      | none => (false, p)
      | some c => (true, p.setLamp c on) := by
  rw [switch, color_of_index?]
  cases LampColor.ofId? id <;> rfl

/-- **A switch writes at one index** of the states, that of the lamp, or nowhere. -/
theorem states_switch (id : Int) (on : Bool) (p : Panel) :
    (switch id on p).2.states =
      match index? id with
      | none => p.states
      | some i => p.states.set i on := by
  rw [switch_eq, index?]
  cases hcolor : LampColor.ofId? id with
  | none => rfl
  | some c =>
      obtain ⟨rfl, rfl⟩ | ⟨rfl, rfl⟩ | ⟨rfl, rfl⟩ := LampColor.eq_of_ofId? hcolor <;> rfl

theorem set?_eq (p : Panel) (id : Int) (on : Bool) :
    p.set? id on = (LampColor.ofId? id).map fun c => p.setLamp c on := by
  rw [set?, granted?, switch_eq]
  cases LampColor.ofId? id <;> rfl

theorem isOn_eq (p : Panel) (id : Int) :
    p.isOn id = ((LampColor.ofId? id).map p.lamp).getD false := by
  rw [← color_of_index?, isOn]
  cases index? id with
  | none => rfl
  | some i => simp only [Option.bind_some, states, List.getElem?_map]

theorem isOn_of_some {id : Int} {c : LampColor} (h : LampColor.ofId? id = some c) (p : Panel) :
    p.isOn id = p.lamp c := by
  rw [isOn_eq, h]
  rfl

/-- Number of lamps that are on. -/
def litCount (p : Panel) : Nat := p.states.count true

/-- Applies a command; none fails. -/
def apply (p : Panel) : PanelCommand → Panel × Effect
  | .switch lamp on =>
      match p.set? lamp on with
      | some p => (p, .changed)
      | none => (p, .idle)
  | .clear => (off, .changed)
  | .wait (some d) => (p, .wait d)
  | .wait none => (p, .idle)
  | .invalid => (p, .idle)
  | .noop => (p, .idle)

theorem apply_switch_of_some {lamp : Int} {c : LampColor} (h : LampColor.ofId? lamp = some c)
    (p : Panel) (on : Bool) : p.apply (.switch lamp on) = (p.setLamp c on, .changed) := by
  simp only [apply, set?_eq, h, Option.map_some]

theorem apply_switch_of_none {lamp : Int} (h : LampColor.ofId? lamp = none) (p : Panel)
    (on : Bool) : p.apply (.switch lamp on) = (p, .idle) := by
  simp only [apply, set?_eq, h, Option.map_none]

/-- Applies a command in place. -/
def act : PanelCommand → EStateM InvalidMove Panel Effect
  | .switch lamp on => do
      let switched ← modifyGet (switch lamp on).run
      return if switched then .changed else .idle
  | .clear => do
      set off
      return .changed
  | .wait (some d) => return .wait d
  | .wait none => return .idle
  | .invalid => return .idle
  | .noop => return .idle

/-- A command in place is the command applied, and never fails. -/
theorem act_eq (c : PanelCommand) (p : Panel) : act c p = .ok (p.apply c).2 (p.apply c).1 := by
  cases c with
  | switch lamp on =>
      have hact : act (.switch lamp on) p =
          .ok (if (switch lamp on p).1 then .changed else .idle) (switch lamp on p).2 := rfl
      rw [hact, switch_eq]
      cases hcolor : LampColor.ofId? lamp with
      | none => rw [apply_switch_of_none hcolor]; rfl
      | some c => rw [apply_switch_of_some hcolor]; rfl
  | wait d => cases d <;> rfl
  | clear => rfl
  | invalid => rfl
  | noop => rfl

instance : World Panel where
  Command := PanelCommand
  decode := PanelCommand.ofLine
  act := act
  reset _ := off
  prepare script := return !script.isBlank
  close := return none
  act_error c p e p' h := by
    rw [act_eq] at h
    cases h
  prepare_refused script p p' h := (Prod.mk.inj h).2.symm
  close_unjudged p p' h := (Prod.mk.inj h).2.symm

/-- A panel as a world applies commands as the panel does. -/
@[simp] theorem world_apply (p : Panel) (c : PanelCommand) : World.apply p c = .ok (p.apply c) := by
  simp only [World.apply, World.act, act_eq]

theorem world_apply_decode (p : Panel) (l : Line) :
    World.apply p (World.decode l) = .ok (p.apply (PanelCommand.ofLine l)) := p.world_apply _

@[simp] theorem world_begin? (p : Panel) (script : Script) :
    World.begin? p script = if script.isBlank then none else some p := by
  have hprepare : World.prepare script p = (!script.isBlank, p) := rfl
  rw [World.begin?, granted?, hprepare]
  cases script.isBlank <;> rfl

/-- One lamp of the drawing. -/
def drawLamp (p : Panel) (index : Nat) (c : LampColor) : String :=
  toString (index + 1) ++ " " ++ (if p.lamp c then "●" else "○") ++ " " ++ c.name

/-- The lamps in one line. -/
def draw (p : Panel) : String :=
  "  ".intercalate (LampColor.all.mapIdx p.drawLamp)

end Panel

end StepScript
