import StepScript.Panel.Basic
import StepScript.Proofs.Board.OnBoard
import StepScript.Proofs.Game.Machine
import StepScript.Proofs.Run.Bookkeeping
import StepScript.Proofs.Run.Cancellation
set_option autoImplicit false

/-!
# Runs: renewal

A reset leaves a session that waits to be reported cancelled, and nothing else of what has been:
after that report, or after the next run in its place, a simulator is a new one in all but the number
of its runs.  The number has no part in what a simulator does.  It is that of the tokens given out,
so tokens are counted from there on, and those given out before name no run.

Main statement: `reset_renews`, for turtle simulators, panel simulators and games.
-/

namespace StepScript

open Machine

/-! ## Following -/

/-- For ever, the state `age s` does what `s` does. -/
def Machine.Follows {S R W : Type} [Machine S R W] (age : S → S) (since : R → R) (s : S) : Prop :=
  ∀ rs : List R, (history (age s) rs).map Exchange.response =
    (history s (rs.map since)).map fun e => e.response.map age

/-- It is enough that it does so with each request, as long as `P` holds, which requests keep. -/
theorem Machine.follows_of_perform {S R W : Type} [Machine S R W] {age : S → S} {since : R → R}
    {P : S → Prop} (hkeep : ∀ s r, P s → P (perform s r).state)
    (hstep : ∀ s r, P s → perform (age s) r = (perform s (since r)).map age) {s : S} (hs : P s) :
    Follows age since s := by
  intro rs
  induction rs generalizing s with
  | nil => rfl
  | cons r rs ih =>
      have hrest := ih (hkeep s (since r) hs)
      simp only [List.map_cons, history_cons, hstep s r hs]
      rw [← hrest]
      rfl

/-! ## Age -/

/-- The same simulator after `k` more runs. -/
def Simulator.aged {W : Type} (k : Nat) (s : Simulator W) : Simulator W :=
  { s with accepted := k + s.accepted }

/-- The same request with its token counted from the run `k` on. -/
def Request.since (k : Nat) : Request → Request
  | .cancel t => .cancel ⟨t.run - k⟩
  | r => r

/-- Without a run so far there is no session. -/
def Simulator.Numbered {W : Type} (s : Simulator W) : Prop := s.accepted = 0 → s.session = none

namespace Simulator

variable {W : Type}

/-- The last run has kept its place. -/
theorem Numbered.cancel_aged {s : Simulator W} (h : s.Numbered) (k : Nat) (t : CancelToken) :
    (s.aged k).cancel t = (s.cancel ⟨t.run - k⟩).aged k := by
  by_cases hnone : s.accepted = 0
  · -- There is no session to cancel.
    rw [cancel_of_none _ (show (s.aged k).session = none from h hnone), cancel_of_none _ (h hnone)]
  · have hlast : t.run = k + s.accepted ↔ t.run - k = s.accepted := by omega
    simp only [cancel, aged, hlast]
    split
    · rfl
    · rfl

variable [World W]

theorem run?_aged (s : Simulator W) (k : Nat) (text : String) :
    (s.aged k).run? text = (s.run? text).map (aged k) := by
  have hsame : (s.aged k).isRunning = s.isRunning := rfl
  cases hrunning : s.isRunning with
  | true =>
      rw [run?_of_running hrunning, run?_of_running (hsame.trans hrunning)]
      rfl
  | false =>
      rw [run?_of_free hrunning, run?_of_free (hsame.trans hrunning)]
      simp [aged, Option.map_map, Function.comp_def, Nat.add_assoc]

/-- **Age makes no difference** to what a simulator does with a request. -/
theorem Numbered.perform_aged {s : Simulator W} (h : s.Numbered) (k : Nat) (r : Request) :
    (s.aged k).perform r = (s.perform (r.since k)).map (aged k) := by
  cases r with
  | run text =>
      simp only [Request.since, perform, start_eq, run?_aged]
      cases s.run? text <;> rfl
  | advance =>
      obtain ⟨w, p, session, n⟩ := s
      cases session <;> rfl
  | reset => rfl
  | setPacing p => rfl
  | cancel t => exact congrArg (Response.mk .done []) (h.cancel_aged k t)

end Simulator

theorem Host.numbered_perform {M R W : Type} [World W] [Host M R W] (m : M) (r : R)
    (h : (Host.simulator m).Numbered) :
    (Host.simulator (Machine.perform m r).state).Numbered := by
  intro hzero
  cases Host.moves m r with
  | kept _ _ hheld hnumber _ =>
      rw [h (hnumber.symm.trans hzero)] at hheld
      exact Option.not_isSome_iff_eq_none.mp (by simp [hheld])
  | started _ _ _ hnumber _ => omega
  | ended _ _ hnone _ => exact hnone

/-- The same game after `k` more runs. -/
def Game.aged (k : Nat) (g : Game) : Game := g.withSimulator (g.simulator.aged k)

/-- The same request with its token counted from the run `k` on. -/
def GameRequest.since (k : Nat) : GameRequest → GameRequest
  | .play => .play
  | .plain r => .plain (r.since k)

theorem Game.perform_aged {g : Game} (h : g.simulator.Numbered) (k : Nat) (r : GameRequest) :
    (g.aged k).perform r = (g.perform (r.since k)).map (aged k) := by
  cases r with
  | play => rfl
  | plain r =>
      rw [GameRequest.since, perform_plain, perform_plain]
      change ((g.simulator.aged k).perform r).map _ = _
      rw [h.perform_aged]
      rfl

theorem Simulator.Numbered.follows {W : Type} [World W] {s : Simulator W} (h : s.Numbered)
    (k : Nat) : Follows (aged k) (Request.since k) s :=
  follows_of_perform Host.numbered_perform (fun _ r h => h.perform_aged k r) h

theorem Game.follows {g : Game} (h : g.simulator.Numbered) (k : Nat) :
    Follows (aged k) (GameRequest.since k) g :=
  follows_of_perform (P := fun g => g.simulator.Numbered) Host.numbered_perform
    (fun _ r h => perform_aged h k r) h

/-! ## Resets -/

section Host

variable {M R W : Type} [World W] [Host M R W]

/-- A reset makes the host `m` again what `fresh` is, in all but its age. -/
structure Host.Renewed (age : M → M) (since : R → R) (fresh m : M) : Prop where
  /-- The first world is shown, and nothing else, and no run is active. -/
  reset : (Machine.perform m (Host.plain M .reset)).reply = .done ∧
    (Machine.perform m (Host.plain M .reset)).events = [.render (Host.simulator fresh).world] ∧
    (Host.simulator (Machine.perform m (Host.plain M .reset)).state).isRunning = false
  /-- An advance then reports the session held before, if there was one. -/
  advance :
    Machine.perform (Machine.perform m (Host.plain M .reset)).state (Host.plain M .advance) =
      ⟨.step (if (Host.simulator m).session.isSome then .finished .cancelled else .idle), [],
        age fresh⟩
  /-- A run in its place is accepted just when `fresh` accepts it, and leaves the same. -/
  run : ∀ text,
    let renewed := Machine.perform (Machine.perform m (Host.plain M .reset)).state
      (Host.plain M (.run text))
    let started := Machine.perform fresh (Host.plain M (.run text))
    renewed.reply = started.reply ∧ renewed.events = started.events ∧
      (started.reply = .accepted → renewed.state = age started.state)
  /-- What is left has the future of `fresh`, or of the run that `fresh` has started. -/
  future : Machine.Follows age since fresh ∧ ∀ text,
    Machine.Follows age since (Machine.perform fresh (Host.plain M (.run text))).state

end Host

namespace Simulator

variable {W : Type} [World W]

/-- What a reset leaves. -/
def renewal (s : Simulator W) : Simulator W :=
  { s with world := World.reset s.world, session := s.session.map Session.cancel }

theorem isRunning_renewal (s : Simulator W) : s.renewal.isRunning = false := by
  cases hheld : s.session <;> simp [renewal, isRunning, hheld, Session.isActive, Session.cancel]

/-- The session held before is reported, if there was one, and then nothing is left of it. -/
theorem perform_advance_renewal {s : Simulator W} (hopen : s.SessionOpen) :
    s.renewal.perform .advance =
      ⟨.step (if s.session.isSome then .finished .cancelled else .idle), [],
        (Simulator.new (World.reset s.world) s.pacing).aged s.accepted⟩ :=
  perform_advance_of_cancel hopen rfl

/-- A run in the place of that session starts as it would on its own. -/
theorem run?_renewal (s : Simulator W) (text : String) :
    s.renewal.run? text =
      ((Simulator.new (World.reset s.world) s.pacing).run? text).map (aged s.accepted) := by
  rw [← run?_aged, run?_of_free s.isRunning_renewal, run?_of_free rfl]
  rfl

theorem perform_run_renewal (s : Simulator W) (text : String) :
    let renewed := s.renewal.perform (.run text)
    let started := (Simulator.new (World.reset s.world) s.pacing).perform (.run text)
    renewed.reply = started.reply ∧ renewed.events = started.events ∧
      (started.reply = .accepted → renewed.state = started.state.aged s.accepted) := by
  have hrenewed := s.run?_renewal text
  cases hrun : (Simulator.new (World.reset s.world) s.pacing).run? text with
  | none =>
      rw [hrun] at hrenewed
      rw [perform_run_of_none hrun, perform_run_of_none hrenewed]
      exact ⟨rfl, rfl, nofun⟩
  | some started =>
      rw [hrun] at hrenewed
      rw [perform_run_of_some hrun, perform_run_of_some hrenewed]
      exact ⟨rfl, rfl, fun _ => rfl⟩

/-- A reset renews a simulator. -/
theorem renewed {s : Simulator W} (hopen : s.SessionOpen) :
    Host.Renewed (aged s.accepted) (Request.since s.accepted)
      (.new (World.reset s.world) s.pacing) s where
  reset := ⟨rfl, rfl, s.isRunning_renewal⟩
  advance := perform_advance_renewal hopen
  run := s.perform_run_renewal
  future := by
    have hnumbered : (Simulator.new (World.reset s.world) s.pacing).Numbered := fun _ => rfl
    refine ⟨hnumbered.follows _, fun text => ?_⟩
    exact Numbered.follows (Host.numbered_perform (M := Simulator W)
      (.new (World.reset s.world) s.pacing) (Request.run text) hnumbered) _

end Simulator

/-! ## Games -/

namespace Game

/-- A reset renews a game; the generator stays. -/
theorem renewed {g : Game} (hopen : g.simulator.SessionOpen) :
    Host.Renewed (aged g.simulator.accepted) (GameRequest.since g.simulator.accepted)
      (g.withSimulator (.new g.simulator.world.reset g.simulator.pacing)) g where
  reset := ⟨rfl, rfl, g.simulator.isRunning_renewal⟩
  advance := by
    change (g.withSimulator g.simulator.renewal).perform (.plain .advance) = _
    rw [perform_plain]
    change (g.simulator.renewal.perform .advance).map _ = _
    rw [Simulator.perform_advance_renewal hopen]
    rfl
  run text := by
    let first : Simulator Turtle := .new g.simulator.world.reset g.simulator.pacing
    have hrenewed := (g.withSimulator g.simulator.renewal).perform_plain (.run text)
    have hstarted := (g.withSimulator first).perform_plain (.run text)
    obtain ⟨hreply, hevents, hstate⟩ := g.simulator.perform_run_renewal text
    intro renewed started
    rw [show renewed = _ from hrenewed, show started = _ from hstarted]
    exact ⟨hreply, hevents, fun haccepted => congrArg g.withSimulator (hstate haccepted)⟩
  future := by
    have hnumbered : (Simulator.new g.simulator.world.reset g.simulator.pacing).Numbered :=
      fun _ => rfl
    refine ⟨follows hnumbered _, fun text => follows ?_ _⟩
    exact Host.numbered_perform (M := Game) _ (GameRequest.plain (.run text)) hnumbered

end Game

/-- The generator after so many targets have been drawn for a board of the size. -/
def Generator.afterTargets (size : UInt32) : Nat → Generator → Generator
  | 0, g => g
  | n + 1, g => afterTargets size n (drawTarget size g).2

/-- The generator of a game has drawn one target for each play, and its seed stays. -/
theorem Game.generator_after {guard : Guard} {radius : Float} {g : Game}
    (h : g.simulator.world.OnBoard guard radius) (rs : List GameRequest) :
    (after g rs).generator = Generator.afterTargets guard.gridSize (rs.count .play) g.generator ∧
      (after g rs).seed = g.seed := by
  induction rs generalizing g with
  | nil => exact ⟨rfl, rfl⟩
  | cons r rs ih =>
      have hrest := ih (onBoard_perform g r h)
      cases r with
      | play =>
          rw [List.count_cons_self, Generator.afterTargets, ← h.guard_eq]
          rw [← h.guard_eq] at hrest
          exact hrest
      | plain r =>
          have hother : GameRequest.plain r ≠ .play := nofun
          have hperform : Machine.perform g (GameRequest.plain r) = _ := g.perform_plain r
          rw [List.count_cons_of_ne hother, after_cons]
          rw [hperform] at hrest ⊢
          exact hrest

/-- **A reset renews** a turtle simulator, a panel simulator or a game, in every state that it can
reach: it is again what it was when it was new, but for the pacing of the next run, the number of
the runs so far, and the targets that its generator has drawn. -/
theorem reset_renews :
    (∀ (g : Guard) (radius : Float) (p : Pacing) (rs : List Request),
      let s := after (Simulator.new (Turtle.new g radius) p) rs
      Host.Renewed (Simulator.aged s.accepted) (Request.since s.accepted)
        (.new (Turtle.new g radius) s.pacing) s) ∧
      (∀ (p : Pacing) (rs : List Request),
        let s := after (Simulator.new Panel.off p) rs
        Host.Renewed (Simulator.aged s.accepted) (Request.since s.accepted)
          (.new Panel.off s.pacing) s) ∧
      ∀ (c : Config) (rs : List GameRequest),
        let m := after (Game.ofConfig c) rs
        Host.Renewed (Game.aged m.simulator.accepted) (GameRequest.since m.simulator.accepted)
          { Game.ofConfig { c with pacing := some m.simulator.pacing } with
            generator :=
              Generator.afterTargets c.board.gridSize (rs.count .play) (.ofSeed c.seed) } m := by
  refine ⟨?_, ?_, ?_⟩
  · intro g radius p rs s
    have hopen : s.SessionOpen :=
      Host.sessionOpen_after (m := Simulator.new (Turtle.new g radius) p) rfl rs
    have hfirst : World.reset s.world = Turtle.new g radius :=
      (Simulator.onBoard_after g radius p rs).reset_eq
    rw [← hfirst]
    exact Simulator.renewed hopen
  · intro p rs s
    exact Simulator.renewed (Host.sessionOpen_after (m := Simulator.new Panel.off p) rfl rs)
  · intro c rs m
    have hopen : m.simulator.SessionOpen :=
      Host.sessionOpen_after (m := Game.ofConfig c) rfl rs
    obtain ⟨hgenerator, hseed⟩ := Game.generator_after (Game.onBoard_after c []) rs
    have hfresh : m.withSimulator (.new m.simulator.world.reset m.simulator.pacing) =
        { Game.ofConfig { c with pacing := some m.simulator.pacing } with
          generator :=
            Generator.afterTargets c.board.gridSize (rs.count .play) (.ofSeed c.seed) } := by
      rw [show m.simulator.world.reset = _ from (Game.onBoard_after c rs).reset_eq,
        Game.withSimulator, show m.generator = _ from hgenerator, show m.seed = _ from hseed]
      rfl
    rw [← hfresh]
    exact Game.renewed hopen

end StepScript
