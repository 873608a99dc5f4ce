import StepScript.Proofs.Run.Turns
import StepScript.Run.Simulator
set_option autoImplicit false

/-!
# Runs: machines

A machine takes requests one after the other and answers each with a reply, with the events that it
shows, and with its next state.  A history keeps every request together with the state that it found
and the response to it.

A simulator is a machine, and so is a session on its own next to a world.  A host is a machine around
a simulator: it passes the simulator's requests on, and whatever else it is asked to do restarts the
simulator.

Main statements: `perform_run_cases`, `perform_run_accepted_iff` and `perform_advance_cases`, all that
a run request and an advance can do to a simulator; `after_induction`, `forall_history` and
`history_induction`, by which what one request keeps holds in every state and of every history;
`countP_balance`, by which accounts that balance over each exchange balance over a history.
-/

namespace StepScript

/-! ## Requests and histories -/

/-- What a machine answers to a request. -/
inductive Reply where
  /-- A run was started. -/
  | accepted
  /-- A run was dropped. -/
  | refused
  | step (s : Step)
  /-- A play session was opened. -/
  | placed (target : Square)
  /-- There is nothing to answer. -/
  | done
  deriving DecidableEq, Repr

/-- Whether a reply reports the end of a run. -/
def Reply.isFinished : Reply → Bool
  | .step (.finished _) => true
  | _ => false

/-- A reply with the events that came with it and the state after it. -/
structure Response (S W : Type) where
  reply : Reply
  events : List (Event W)
  state : S

/-- The same response, seen from a part of the state. -/
def Response.map {S T W : Type} (f : S → T) (r : Response S W) : Response T W :=
  ⟨r.reply, r.events, f r.state⟩

/-- The response to a run request that gives this answer and leaves this state. -/
def Response.ofStart {S W : Type} (left : Bool × S) : Response S W :=
  ⟨if left.1 then .accepted else .refused, [], left.2⟩

/-- A request, the state that it found, and the response to it. -/
structure Exchange (S R W : Type) where
  before : S
  request : R
  response : Response S W

/-- Whatever answers requests. -/
class Machine (S : Type) (R W : outParam Type) where
  perform : S → R → Response S W

namespace Machine

variable {S R W : Type} [Machine S R W]

/-- The state after several requests. -/
def after (s : S) (rs : List R) : S := rs.foldl (fun s r => (perform s r).state) s

/-- Several requests, each with the response to it. -/
def history : S → List R → List (Exchange S R W)
  | _, [] => []
  | s, r :: rs => ⟨s, r, perform s r⟩ :: history (perform s r).state rs

@[simp] theorem after_nil (s : S) : after s ([] : List R) = s := rfl

@[simp] theorem after_cons (s : S) (r : R) (rs : List R) :
    after s (r :: rs) = after (perform s r).state rs := rfl

theorem after_append (s : S) (a b : List R) : after s (a ++ b) = after (after s a) b := by
  simp [after]

@[simp] theorem history_nil (s : S) : history s ([] : List R) = [] := rfl

@[simp] theorem history_cons (s : S) (r : R) (rs : List R) :
    history s (r :: rs) = ⟨s, r, perform s r⟩ :: history (perform s r).state rs := rfl

@[simp] theorem length_history (s : S) (rs : List R) : (history s rs).length = rs.length := by
  induction rs generalizing s with
  | nil => rfl
  | cons r rs ih => simp [ih]

@[simp] theorem map_request_history (s : S) (rs : List R) :
    (history s rs).map Exchange.request = rs := by
  induction rs generalizing s with
  | nil => rfl
  | cons r rs ih => simp [ih]

theorem history_append (s : S) (a b : List R) :
    history s (a ++ b) = history s a ++ history (after s a) b := by
  induction a generalizing s with
  | nil => rfl
  | cons r a ih => simp [ih]

/-- What every request keeps holds after all of them. -/
theorem after_induction {P : S → Prop} (hstep : ∀ s r, P s → P (perform s r).state) {s : S}
    (hs : P s) (rs : List R) : P (after s rs) := by
  induction rs generalizing s with
  | nil => exact hs
  | cons r rs ih => exact ih (hstep s r hs)

/-- What every request keeps holds in the state that each exchange found. -/
theorem forall_history {P : S → Prop} (hstep : ∀ s r, P s → P (perform s r).state) {s : S}
    (hs : P s) (rs : List R) :
    ∀ e ∈ history s rs, P e.before ∧ e.response = perform e.before e.request := by
  induction rs generalizing s with
  | nil => simp
  | cons r rs ih =>
      intro e he
      rw [history_cons, List.mem_cons] at he
      rcases he with rfl | he
      · exact ⟨hs, rfl⟩
      · exact ih (hstep s r hs) e he

/-- What every request keeps of the history so far and of the state holds after all of them. -/
theorem history_induction {P : List (Exchange S R W) → S → Prop}
    (hstep : ∀ h s r, P h s → P (h ++ [⟨s, r, perform s r⟩]) (perform s r).state) {s : S}
    (hs : P [] s) (rs : List R) : P (history s rs) (after s rs) := by
  -- The history so far is what the induction goes over; it starts empty.
  have hgeneral : ∀ (h : List (Exchange S R W)) (s : S) (rs : List R), P h s →
      P (h ++ history s rs) (after s rs) := by
    intro h s rs
    induction rs generalizing h s with
    | nil => simp
    | cons r rs ih =>
        intro hs
        have hrest := ih _ _ (hstep h s r hs)
        rwa [List.append_assoc] at hrest
  exact hgeneral [] s rs hs

/-- What comes in with each exchange goes out with it or is there after it; so it is with a history. -/
theorem countP_balance {P : S → Prop} (gained lost taken : Exchange S R W → Bool) (stock : S → Nat)
    (hkeep : ∀ s r, P s → P (perform s r).state)
    (hstep : ∀ s r, P s → (if gained ⟨s, r, perform s r⟩ then 1 else 0) + stock s =
      (if lost ⟨s, r, perform s r⟩ then 1 else 0) + (if taken ⟨s, r, perform s r⟩ then 1 else 0) +
        stock (perform s r).state) {s : S} (hs : P s) (rs : List R) :
    (history s rs).countP gained + stock s =
      (history s rs).countP lost + (history s rs).countP taken + stock (after s rs) := by
  induction rs generalizing s with
  | nil => simp
  | cons r rs ih =>
      have hfirst := hstep s r hs
      have hrest := ih (hkeep s r hs)
      simp only [history_cons, List.countP_cons, after_cons]
      omega

end Machine

/-- The responses to several requests, each with what `f` sees of the state after it. -/
def Machine.responses {S R W T : Type} [Machine S R W] (f : S → T) (s : S) (rs : List R) :
    List (Response T W) :=
  (history s rs).map fun e => e.response.map f

/-! ## Simulators -/

/-- A request to a simulator. -/
inductive Request where
  | run (text : String)
  | advance
  | reset
  | setPacing (p : Pacing)
  | cancel (t : CancelToken)
  deriving DecidableEq, Repr

/-- Whether a request neither advances nor resets; nothing is shown then. -/
def Request.isAside : Request → Bool
  | .advance | .reset => false
  | _ => true

namespace Simulator

variable {W V : Type} [World W] [View V W]

/-- A simulator's response to a request, its events recorded. -/
def perform (s : Simulator W) : Request → Response (Simulator W) W
  | .run text => .ofStart (start text s)
  | .advance =>
      let p := s.advance (Recording.empty : Recording W)
      ⟨.step p.step, p.view.events, p.simulator⟩
  | .reset =>
      let (s, r) := s.reset (Recording.empty : Recording W)
      ⟨.done, r.events, s⟩
  | .setPacing p => ⟨.done, [], s.setPacing p⟩
  | .cancel t => ⟨.done, [], s.cancel t⟩

instance : Machine (Simulator W) Request W := ⟨perform⟩

theorem run?_eq_some_iff (s : Simulator W) (text : String) (started : Simulator W) :
    s.run? text = some started ↔
      s.isRunning = false ∧ ∃ w, World.begin? s.world (Script.parse text) = some w ∧
        started = { s with
          world := w, session := some (.new (Script.parse text) s.pacing)
          accepted := s.accepted + 1 } := by
  cases hrunning : s.isRunning with
  | true => simp [run?_of_running hrunning]
  | false =>
      simp only [run?_of_free hrunning, Option.map_eq_some_iff, true_and]
      exact exists_congr fun w => and_congr_right' eq_comm

theorem perform_run_of_some {s started : Simulator W} {text : String}
    (h : s.run? text = some started) : s.perform (.run text) = ⟨.accepted, [], started⟩ := by
  rw [perform, start_eq, h]
  rfl

theorem perform_run_of_none {s : Simulator W} {text : String} (h : s.run? text = none) :
    s.perform (.run text) = ⟨.refused, [], s⟩ := by
  rw [perform, start_eq, h]
  rfl

/-- All that a run request can be: refused without a trace, or the start of a session. -/
theorem perform_run_cases (s : Simulator W) (text : String) :
    s.perform (.run text) = ⟨.refused, [], s⟩ ∨
      ∃ w, World.begin? s.world (Script.parse text) = some w ∧
        s.perform (.run text) = ⟨.accepted, [], { s with
          world := w, session := some (.new (Script.parse text) s.pacing)
          accepted := s.accepted + 1 }⟩ := by
  cases hrun : s.run? text with
  | none => exact .inl (perform_run_of_none hrun)
  | some started =>
      have hperform := perform_run_of_some hrun
      obtain ⟨-, w, hbegun, rfl⟩ := (run?_eq_some_iff s text started).mp hrun
      exact .inr ⟨w, hbegun, hperform⟩

/-- A run is started exactly when none is active and the world takes the script. -/
theorem perform_run_accepted_iff (s : Simulator W) (text : String) :
    (s.perform (.run text)).reply = .accepted ↔
      s.isRunning = false ∧ (World.begin? s.world (Script.parse text)).isSome = true := by
  have hiff := run?_eq_some_iff s text
  cases hrun : s.run? text with
  | none =>
      rw [perform_run_of_none hrun]
      refine ⟨fun h => (by cases h), ?_⟩
      rintro ⟨hfree, hbegun⟩
      obtain ⟨w, hw⟩ := Option.isSome_iff_exists.mp hbegun
      have hsome := (hiff _).mpr ⟨hfree, w, hw, rfl⟩
      rw [hrun] at hsome
      cases hsome
  | some started =>
      rw [perform_run_of_some hrun]
      obtain ⟨hfree, w, hw, -⟩ := (hiff started).mp hrun
      exact ⟨fun _ => ⟨hfree, Option.isSome_iff_exists.mpr ⟨w, hw⟩⟩, fun _ => rfl⟩

theorem perform_advance_of_none {s : Simulator W} (hnone : s.session = none) :
    s.perform .advance = ⟨.step .idle, [], s⟩ := by
  simp only [perform, advance, hnone, Recording.empty]

theorem perform_advance_of_pause {s : Simulator W} {session session' : Session} {d : Duration}
    {w : W} {r : Recording W} (hheld : s.session = some session)
    (hturn : session.advance s.world (Recording.empty : Recording W) =
      ⟨.pause d, session', w, r⟩) :
    s.perform .advance =
      ⟨.step (.pause d), r.events, { s with world := w, session := some session' }⟩ := by
  simp only [perform, advance, hheld, hturn]

theorem perform_advance_of_finished {s : Simulator W} {session session' : Session} {o : Outcome}
    {w : W} {r : Recording W} (hheld : s.session = some session)
    (hturn : session.advance s.world (Recording.empty : Recording W) =
      ⟨.finished o, session', w, r⟩) :
    s.perform .advance =
      ⟨.step (.finished o), r.events, { s with world := w, session := none }⟩ := by
  simp only [perform, advance, hheld, hturn]

/-- A cancelled session is dropped, and nothing else happens. -/
theorem perform_advance_of_cancelled {s : Simulator W} {session : Session}
    (hheld : s.session = some session) (hopen : session.isDone = false)
    (hcancelled : session.cancelled = true) :
    s.perform .advance = ⟨.step (.finished .cancelled), [], { s with session := none }⟩ :=
  perform_advance_of_finished hheld (session.advance_of_cancelled hopen hcancelled s.world _)

/-- All that an advance can be: idle, a pause of the session held, or its end. -/
theorem perform_advance_cases (s : Simulator W) :
    (s.session = none ∧ s.perform .advance = ⟨.step .idle, [], s⟩) ∨
    (∃ session d session' w r, s.session = some session ∧
      session.advance s.world (Recording.empty : Recording W) = ⟨.pause d, session', w, r⟩ ∧
      session.Continues session' ∧ session'.isDone = false ∧
      s.perform .advance =
        ⟨.step (.pause d), r.events, { s with world := w, session := some session' }⟩) ∨
    (∃ session o session' w r, s.session = some session ∧
      session.advance s.world (Recording.empty : Recording W) = ⟨.finished o, session', w, r⟩ ∧
      session'.phase = .done o ∧
      s.perform .advance =
        ⟨.step (.finished o), r.events, { s with world := w, session := none }⟩) := by
  cases hheld : s.session with
  | none => exact .inl ⟨rfl, perform_advance_of_none hheld⟩
  | some session =>
      have hregular := session.regular_advance s.world (Recording.empty : Recording W)
      cases hturn : session.advance s.world (Recording.empty : Recording W) with
      | mk step session' w r =>
          rw [hturn] at hregular
          cases hregular with
          | pause hcontinues hopen =>
              exact .inr (.inl ⟨session, _, session', w, r, rfl, hturn, hcontinues, hopen,
                perform_advance_of_pause hheld hturn⟩)
          | finished _ hphase =>
              exact .inr (.inr ⟨session, _, session', w, r, rfl, hturn, hphase,
                perform_advance_of_finished hheld hturn⟩)

/-- An advance shows any view the events of the response. -/
theorem advance_eq_perform (s : Simulator W) (v : V) :
    ∃ step, s.perform .advance =
        ⟨.step step, (s.perform .advance).events, (s.perform .advance).state⟩ ∧
      s.advance v = ⟨step, (s.perform .advance).state,
        View.replay v (s.perform .advance).events⟩ := by
  cases hheld : s.session with
  | none =>
      rw [perform_advance_of_none hheld]
      exact ⟨.idle, rfl, by simp only [advance, hheld, View.replay_nil]⟩
  | some session =>
      have honto := session.advance_onto s.world v []
      refine ⟨(s.advance (Recording.empty : Recording W)).step, rfl, ?_⟩
      simp only [perform, advance, hheld]
      rw [show session.advance s.world v = _ from honto]
      rfl

end Simulator

theorem Simulator.isRunning_iff {W : Type} (s : Simulator W) :
    s.isRunning = true ↔
      ∃ session, s.session = some session ∧ session.isDone = false ∧ session.cancelled = false := by
  cases hheld : s.session with
  | none => simp [isRunning, hheld]
  | some session => simp [isRunning, hheld, Session.isActive_iff]

/-! ## Hosts -/

/-- A simulator restarted with another world: reset, then shown again with `w` in its place. -/
def Simulator.restart {W : Type} [World W] (s : Simulator W) (target : Square) (w : W) :
    Response (Simulator W) W :=
  ⟨.placed target,
    [.render (World.reset s.world), .render w, .notice (.gameStarted target)],
    { s with world := w, session := s.session.map Session.cancel }⟩

/-- A machine around a simulator.  Requests to the simulator are passed on; any other request
restarts it. -/
class Host (M : Type) (R W : outParam Type) [World W] extends Machine M R W where
  simulator : M → Simulator W
  put : M → Simulator W → M
  plain : Request → R
  simulator_put : ∀ m s, simulator (put m s) = s
  put_simulator : ∀ m, put m (simulator m) = m
  perform_plain : ∀ m r, perform m (plain r) = ((simulator m).perform r).map (put m)
  perform_other : ∀ m r, (∃ q, r = plain q) ∨
    ∃ target w, (perform m r).map simulator = (simulator m).restart target w

/-- What a request that restarts the simulator shows and leaves. -/
theorem Host.of_restart {M R W : Type} [World W] [Host M R W] {m : M} {r : R} {target : Square}
    {w : W} (hrestart : (Machine.perform m r).map Host.simulator =
      (Host.simulator m).restart target w) :
    (Machine.perform m r).events = ((Host.simulator m).restart target w).events ∧
      Host.simulator (Machine.perform m r).state =
        ((Host.simulator m).restart target w).state :=
  ⟨congrArg Response.events hrestart, congrArg Response.state hrestart⟩

instance {W : Type} [World W] : Host (Simulator W) Request W where
  simulator s := s
  put _ s := s
  plain r := r
  simulator_put _ _ := rfl
  put_simulator _ := rfl
  perform_plain _ _ := rfl
  perform_other _ r := .inl ⟨r, rfl⟩

end StepScript
