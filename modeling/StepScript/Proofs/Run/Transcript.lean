import StepScript.Run.World
import StepScript.Run.Notice
import StepScript.Run.Pacing
set_option autoImplicit false

/-!
# Runs: transcripts

A transcript is what a run amounts to when nothing interrupts it.  It is computed line by line, with
neither sessions nor phases: each line acts on the world that the line before it left, the first line
that fails is the last one, and the world is judged only if no line failed.

Main statements: `length_ofLines` says how many lines a run enters, `getElem?_ofLines` that each of
them is read in the world that the lines before it left, and `of_failure?` what the first line to
fail leaves; `ofLines_append_of_failed` and `ofLines_append_of_not_failed` read lines in two parts.
-/

namespace StepScript

/-- What one line did. -/
inductive Passage (W : Type) where
  /-- There was nothing on the line. -/
  | blank
  /-- The command of the line left this world, with this effect. -/
  | done (world : W) (effect : Effect)
  /-- The command of the line asked for an invalid move. -/
  | failed (e : InvalidMove)

namespace Passage

variable {W : Type}

/-- Whether the line failed. -/
def isFailed : Passage W → Bool
  | .failed _ => true
  | _ => false

/-- The world after a line that found `w`. -/
def worldAfter (w : W) : Passage W → W
  | .done w' _ => w'
  | _ => w

/-- The pause on a line. -/
def pause (p : Pacing) : Passage W → Duration
  | .blank => .ofMillis p.blank
  | .done _ .idle => .ofMillis p.idle
  | .done _ .changed => .ofMillis p.effect
  | .done _ (.wait d) => d
  | .failed _ => .ofMillis p.error

/-- What a line shows up to its pause. -/
def entered (line : Nat) : Passage W → List (Event W)
  | .done w .changed => [.active line true, .render w]
  | .failed e => [.active line true, .notice (.ofInvalidMove line e), .failed line]
  | _ => [.active line true]

/-- What a line shows in all; one that failed stays active. -/
def events (line : Nat) (p : Passage W) : List (Event W) :=
  p.entered line ++ if p.isFailed then [] else [.active line false]

/-- The first of several lines that failed. -/
def failure? (ps : List (Passage W)) : Option Nat := ps.findIdx? isFailed

/-- The world after several lines. -/
def lastWorld (w : W) (ps : List (Passage W)) : W := ps.foldl worldAfter w

/-- What several lines show, the first of them with the number `line`. -/
def eventsFrom (line : Nat) (ps : List (Passage W)) : List (Event W) :=
  (ps.zipIdx line).flatMap fun (p, line) => p.events line

@[simp] theorem failure?_nil : failure? ([] : List (Passage W)) = none := rfl

theorem failure?_cons_of_failed {p : Passage W} (h : p.isFailed = true) (ps : List (Passage W)) :
    failure? (p :: ps) = some 0 := by
  simp [failure?, List.findIdx?_cons, h]

theorem failure?_cons_of_not_failed {p : Passage W} (h : p.isFailed = false)
    (ps : List (Passage W)) : failure? (p :: ps) = (failure? ps).map (· + 1) := by
  simp [failure?, List.findIdx?_cons, h]

@[simp] theorem lastWorld_nil (w : W) : lastWorld w [] = w := rfl

@[simp] theorem lastWorld_cons (w : W) (p : Passage W) (ps : List (Passage W)) :
    lastWorld w (p :: ps) = lastWorld (p.worldAfter w) ps := rfl

@[simp] theorem eventsFrom_nil (line : Nat) : eventsFrom line ([] : List (Passage W)) = [] := rfl

@[simp] theorem eventsFrom_cons (line : Nat) (p : Passage W) (ps : List (Passage W)) :
    eventsFrom line (p :: ps) = p.events line ++ eventsFrom (line + 1) ps := by
  simp [eventsFrom, List.zipIdx_cons]

theorem eventsFrom_append (line : Nat) (ps qs : List (Passage W)) :
    eventsFrom line (ps ++ qs) = eventsFrom line ps ++ eventsFrom (line + ps.length) qs := by
  simp [eventsFrom, List.zipIdx_append]

theorem lastWorld_append (w : W) (ps qs : List (Passage W)) :
    lastWorld w (ps ++ qs) = lastWorld (lastWorld w ps) qs := by
  simp [lastWorld]

theorem failure?_append_of_none {ps : List (Passage W)} (h : failure? ps = none)
    (qs : List (Passage W)) : failure? (ps ++ qs) = (failure? qs).map (· + ps.length) := by
  rw [failure?, List.findIdx?_append, show ps.findIdx? isFailed = none from h, Option.none_or]
  rfl

section World

variable [World W]

/-- What a line does to a world. -/
def ofLine (w : W) (l : Line) : Passage W :=
  if l.isBlank then .blank
  else
    match World.apply w (World.decode l) with
    | .error e => .failed e
    | .ok (w', effect) => .done w' effect

theorem ofLine_of_blank {l : Line} (hblank : l.isBlank = true) (w : W) : ofLine w l = .blank := by
  rw [ofLine, if_pos hblank]

theorem ofLine_of_ok {l : Line} (hinked : l.isBlank = false) {w w' : W} {effect : Effect}
    (h : World.apply w (World.decode l) = .ok (w', effect)) : ofLine w l = .done w' effect := by
  rw [ofLine, if_neg (by simp [hinked]), h]

/-- What lines do in turn, up to the first that fails. -/
def ofLines : W → List Line → List (Passage W)
  | _, [] => []
  | w, l :: ls =>
      let p := ofLine w l
      p :: if p.isFailed then [] else ofLines (p.worldAfter w) ls

@[simp] theorem ofLines_nil (w : W) : ofLines w [] = [] := rfl

theorem ofLines_cons_of_failed {w : W} {l : Line} (h : (ofLine w l).isFailed = true)
    (ls : List Line) : ofLines w (l :: ls) = [ofLine w l] := by
  simp [ofLines, h]

theorem ofLines_cons_of_not_failed {w : W} {l : Line} (h : (ofLine w l).isFailed = false)
    (ls : List Line) :
    ofLines w (l :: ls) = ofLine w l :: ofLines ((ofLine w l).worldAfter w) ls := by
  simp [ofLines, h]

/-- Lines that fail leave none of those after them to run. -/
theorem ofLines_append_of_failed {w : W} {a : List Line} {k : Nat}
    (h : failure? (ofLines w a) = some k) (b : List Line) : ofLines w (a ++ b) = ofLines w a := by
  induction a generalizing w k with
  | nil => cases h
  | cons l a ih =>
      cases hp : (ofLine w l).isFailed with
      | true => rw [List.cons_append, ofLines_cons_of_failed hp, ofLines_cons_of_failed hp]
      | false =>
          rw [ofLines_cons_of_not_failed hp, failure?_cons_of_not_failed hp,
            Option.map_eq_some_iff] at h
          obtain ⟨k', hrest, -⟩ := h
          rw [List.cons_append, ofLines_cons_of_not_failed hp, ofLines_cons_of_not_failed hp,
            ih hrest]

/-- Lines that do not fail leave their world to those after them. -/
theorem ofLines_append_of_not_failed {w : W} {a : List Line} (h : failure? (ofLines w a) = none)
    (b : List Line) :
    ofLines w (a ++ b) = ofLines w a ++ ofLines (lastWorld w (ofLines w a)) b := by
  induction a generalizing w with
  | nil => rfl
  | cons l a ih =>
      cases hp : (ofLine w l).isFailed with
      | true =>
          rw [ofLines_cons_of_failed hp, failure?_cons_of_failed hp] at h
          cases h
      | false =>
          rw [ofLines_cons_of_not_failed hp, failure?_cons_of_not_failed hp,
            Option.map_eq_none_iff] at h
          rw [List.cons_append, ofLines_cons_of_not_failed hp, ofLines_cons_of_not_failed hp, ih h,
            lastWorld_cons, List.cons_append]

/-- A run enters every line up to the first that fails, and all of them when none does. -/
theorem length_ofLines (w : W) (ls : List Line) :
    (ofLines w ls).length = ((failure? (ofLines w ls)).map (· + 1)).getD ls.length := by
  induction ls generalizing w with
  | nil => rfl
  | cons l ls ih =>
      cases hp : (ofLine w l).isFailed with
      | true =>
          rw [ofLines_cons_of_failed hp, failure?_cons_of_failed hp]
          rfl
      | false =>
          rw [ofLines_cons_of_not_failed hp, failure?_cons_of_not_failed hp, List.length_cons, ih]
          cases failure? (ofLines ((ofLine w l).worldAfter w) ls) <;> rfl

theorem length_ofLines_of_reached {w : W} {ls : List Line} (h : failure? (ofLines w ls) = none) :
    (ofLines w ls).length = ls.length := by
  rw [length_ofLines, h]
  rfl

/-- A run enters no more lines than there are. -/
theorem length_ofLines_le (w : W) (ls : List Line) : (ofLines w ls).length ≤ ls.length := by
  induction ls generalizing w with
  | nil => exact Nat.le_refl 0
  | cons l ls ih =>
      rw [ofLines, List.length_cons, List.length_cons]
      split
      · exact Nat.succ_le_succ (Nat.zero_le _)
      · exact Nat.succ_le_succ (ih _)

/-- Each line entered is read in the world that the lines before it left. -/
theorem getElem?_ofLines {w : W} {ls : List Line} {i : Nat} {p : Passage W}
    (h : (ofLines w ls)[i]? = some p) :
    ∃ l, ls[i]? = some l ∧ p = ofLine (lastWorld w ((ofLines w ls).take i)) l := by
  induction ls generalizing w i with
  | nil => simp at h
  | cons l ls ih =>
      cases hp : (ofLine w l).isFailed with
      | true =>
          rw [ofLines_cons_of_failed hp] at h ⊢
          cases i with
          | zero => exact ⟨l, rfl, by simpa using h.symm⟩
          | succ i => simp at h
      | false =>
          rw [ofLines_cons_of_not_failed hp] at h ⊢
          cases i with
          | zero => exact ⟨l, rfl, by simpa using h.symm⟩
          | succ i => simpa using ih (by simpa using h)

/-- The first line to fail is read in the world that the lines before it left, and leaves it so. -/
theorem of_failure? {w : W} {ls : List Line} {k : Nat} (h : failure? (ofLines w ls) = some k) :
    ∃ l e, ls[k]? = some l ∧ ofLine (lastWorld w ((ofLines w ls).take k)) l = .failed e ∧
      lastWorld w (ofLines w ls) = lastWorld w ((ofLines w ls).take k) := by
  have hlength := length_ofLines w ls
  rw [h, Option.map_some, Option.getD_some] at hlength
  obtain ⟨p, hp⟩ : ∃ p, (ofLines w ls)[k]? = some p :=
    ⟨_, List.getElem?_eq_getElem (by omega)⟩
  obtain ⟨l, hl, hread⟩ := getElem?_ofLines hp
  have hfailed : p.isFailed = true := by
    obtain ⟨hlt, hk, -⟩ := List.findIdx?_eq_some_iff_getElem.mp h
    rw [List.getElem?_eq_getElem hlt, Option.some.injEq] at hp
    rwa [← hp]
  cases p with
  | blank => cases hfailed
  | done w' effect => cases hfailed
  | failed e =>
      have hsplit : ofLines w ls = (ofLines w ls).take k ++ [.failed e] := by
        have htake := List.take_add_one (l := ofLines w ls) (i := k)
        rwa [hp, ← hlength, List.take_length] at htake
      refine ⟨l, e, hl, hread.symm, ?_⟩
      calc lastWorld w (ofLines w ls)
          = lastWorld w ((ofLines w ls).take k ++ [.failed e]) := congrArg (lastWorld w) hsplit
        _ = lastWorld w ((ofLines w ls).take k) := by simp [lastWorld, worldAfter]

theorem lt_of_failure? {w : W} {ls : List Line} {k : Nat} (h : failure? (ofLines w ls) = some k) :
    k < ls.length := by
  obtain ⟨l, -, hl, -⟩ := of_failure? h
  exact (List.getElem?_eq_some_iff.mp hl).1

end World

end Passage

/-- How a run ends, and what the end shows. -/
structure Ending (W : Type) where
  outcome : Outcome
  world : W
  events : List (Event W)

/-- The end of a run that leaves `w` after its lines: the failed line if there is one, and otherwise
the judgement of the world, which is announced and shown. -/
def Ending.of {W : Type} [World W] (failure? : Option Nat) (w : W) : Ending W :=
  match failure? with
  | some line => ⟨.aborted line, w, []⟩
  | none =>
      match World.conclude? w with
      | none => ⟨.completed, w, []⟩
      | some (verdict, w') =>
          ⟨.ofVerdict verdict, w', [.notice (.ofVerdict verdict), .render w']⟩

/-- All lines ran exactly when none failed. -/
theorem Ending.ranToEnd_of {W : Type} [World W] (failure? : Option Nat) (w : W) :
    (Ending.of failure? w).outcome.ranToEnd = failure?.isNone := by
  cases failure? with
  | some line => rfl
  | none =>
      simp only [Ending.of]
      split
      · rfl
      · rename_i verdict _ _
        cases verdict <;> rfl

/-- The pause before the first line or after the last one; no pause at all if it takes no time. -/
def Pacing.gap (millis : UInt64) : List Duration :=
  if (Duration.ofMillis millis).isZero then [] else [.ofMillis millis]

theorem Pacing.gap_of_isZero {millis : UInt64} (h : (Duration.ofMillis millis).isZero = true) :
    Pacing.gap millis = [] := by
  simp [Pacing.gap, h]

theorem Pacing.gap_of_not_isZero {millis : UInt64}
    (h : (Duration.ofMillis millis).isZero = false) :
    Pacing.gap millis = [.ofMillis millis] := by
  simp [Pacing.gap, h]

/-- What a run amounts to. -/
structure Transcript (W : Type) where
  outcome : Outcome
  world : W
  pauses : List Duration
  events : List (Event W)

/-- The transcript of a script that finds the world `w`. -/
def Script.transcript {W : Type} [World W] (s : Script) (p : Pacing) (w : W) : Transcript W :=
  let passages := Passage.ofLines w s.lines
  let ending := Ending.of (Passage.failure? passages) (Passage.lastWorld w passages)
  { outcome := ending.outcome
    world := ending.world
    pauses := Pacing.gap p.settle ++ passages.map (Passage.pause p) ++ Pacing.gap p.tail
    events := .render w :: Passage.eventsFrom 0 passages ++ ending.events }

end StepScript
