import StepScript.Proofs.Game.Machine
set_option autoImplicit false

/-!
# Runs: bookkeeping

Running, held and ended are three things.  A session that was cancelled is not running any more, but
it is held until an advance reports its end or an accepted run takes its place.

Main statement: `books_balance`, for simulators and for the game.  Every accepted run is reported
once, or replaced once after it was cancelled, or is still held.
-/

namespace StepScript

open Machine

/-! ## Movements of sessions -/

/-- The session held is not done. -/
def Simulator.SessionOpen {W : Type} (s : Simulator W) : Prop :=
  ∀ session, s.session = some session → session.isDone = false

/-- Asking a session to end does not end it. -/
theorem Simulator.SessionOpen.cancel {W : Type} {s s' : Simulator W} (hopen : s.SessionOpen)
    (hsession : s'.session = s.session.map Session.cancel) : s'.SessionOpen := by
  intro session hheld
  rw [hsession, Option.map_eq_some_iff] at hheld
  obtain ⟨before, hbefore, rfl⟩ := hheld
  exact hopen before hbefore

/-- A session that is open but not active was cancelled. -/
theorem Simulator.SessionOpen.cancelled_of_not_isRunning {W : Type} {s : Simulator W}
    (hopen : s.SessionOpen) (hfree : s.isRunning = false) {session : Session}
    (hheld : s.session = some session) : session.cancelled = true := by
  cases hcancelled : session.cancelled with
  | true => rfl
  | false =>
      have hrunning := s.isRunning_iff.mpr ⟨session, hheld, hopen session hheld, hcancelled⟩
      rw [hfree] at hrunning
      cases hrunning

/-- All that a request can do with the session of a simulator: leave it in its place, start one, or
report its end. -/
inductive Simulator.Moves {W : Type} (s : Simulator W) (reply : Reply) (s' : Simulator W) : Prop where
  | kept (hreply : reply ≠ .accepted) (hpending : reply.isFinished = false)
      (hheld : s'.session.isSome = s.session.isSome) (hnumber : s'.accepted = s.accepted)
      (hopen : s.SessionOpen → s'.SessionOpen)
  | started (hreply : reply = .accepted) (hfree : s.isRunning = false)
      (hheld : s'.session.isSome = true) (hnumber : s'.accepted = s.accepted + 1)
      (hopen : s'.SessionOpen)
  | ended (hreply : reply.isFinished = true) (hheld : s.session.isSome = true)
      (hnone : s'.session = none) (hnumber : s'.accepted = s.accepted)

namespace Simulator

variable {W : Type} [World W]

theorem moves_perform (s : Simulator W) (r : Request) :
    s.Moves (s.perform r).reply (s.perform r).state := by
  cases r with
  | run text =>
      cases hrun : s.run? text with
      | none =>
          rw [perform_run_of_none hrun]
          exact .kept nofun rfl rfl rfl id
      | some started =>
          rw [perform_run_of_some hrun]
          obtain ⟨hfree, w, -, rfl⟩ := (run?_eq_some_iff s text started).mp hrun
          refine .started rfl hfree rfl rfl ?_
          rintro session ⟨⟩
          rfl
  | advance =>
      rcases s.perform_advance_cases with ⟨-, hperform⟩ |
        ⟨session, d, session', w, r, hheld, -, -, hopen', hperform⟩ |
        ⟨session, o, session', w, r, hheld, -, -, hperform⟩
      · rw [hperform]
        exact .kept nofun rfl rfl rfl id
      · rw [hperform]
        refine .kept nofun rfl (by rw [hheld]; rfl) rfl ?_
        rintro - held ⟨⟩
        exact hopen'
      · rw [hperform]
        exact .ended rfl (by rw [hheld]; rfl) rfl rfl
  | reset => exact .kept nofun rfl Option.isSome_map rfl fun hopen => hopen.cancel rfl
  | setPacing p => exact .kept nofun rfl rfl rfl id
  | cancel t =>
      change s.Moves .done (s.cancel t)
      rw [Simulator.cancel]
      split
      · exact .kept nofun rfl Option.isSome_map rfl fun hopen => hopen.cancel rfl
      · exact .kept nofun rfl rfl rfl id

/-- Once its session has been cancelled, a simulator reports that and holds none. -/
theorem perform_advance_of_cancel {s s' : Simulator W} (hopen : s.SessionOpen)
    (hsession : s'.session = s.session.map Session.cancel) :
    s'.perform .advance =
      ⟨.step (if s.session.isSome then .finished .cancelled else .idle), [],
        { s' with session := none }⟩ := by
  cases hheld : s.session with
  | none =>
      rw [hheld] at hsession
      rw [perform_advance_of_none hsession]
      obtain ⟨w, p, session, n⟩ := s'
      obtain rfl : session = none := hsession
      rfl
  | some session =>
      rw [hheld] at hsession
      exact perform_advance_of_cancelled hsession (hopen session hheld) rfl

theorem moves_restart (s : Simulator W) (target : Square) (w : W) :
    s.Moves (s.restart target w).reply (s.restart target w).state :=
  .kept nofun rfl Option.isSome_map rfl fun hopen => hopen.cancel rfl

end Simulator

section Host

variable {M R W : Type} [World W] [Host M R W]

/-- Whatever a host is asked, its simulator makes one of the moves. -/
theorem Host.moves (m : M) (r : R) :
    (Host.simulator m).Moves (Machine.perform m r).reply
      (Host.simulator (Machine.perform m r).state) := by
  rcases Host.perform_other m r with ⟨q, rfl⟩ | ⟨target, w, hrestart⟩
  · rw [Host.perform_plain, Response.map, Host.simulator_put]
    exact (Host.simulator m).moves_perform q
  · have hmoves := (Host.simulator m).moves_restart target w
    rwa [← hrestart] at hmoves

theorem Host.sessionOpen_perform (m : M) (r : R) (hopen : (Host.simulator m).SessionOpen) :
    (Host.simulator (Machine.perform m r).state).SessionOpen := by
  cases Host.moves m r with
  | kept _ _ _ _ hopen' => exact hopen' hopen
  | started _ _ _ _ hopen' => exact hopen'
  | ended _ _ hnone _ =>
      intro session hheld
      rw [hnone] at hheld
      cases hheld

theorem Host.sessionOpen_after {m : M} (hnone : (Host.simulator m).session = none) (rs : List R) :
    (Host.simulator (after m rs)).SessionOpen := by
  refine after_induction (P := fun m : M => (Host.simulator m).SessionOpen)
    Host.sessionOpen_perform ?_ rs
  intro session hheld
  rw [hnone] at hheld
  cases hheld

/-! ## Accounts -/

/-- Whether a session is held with a token of this kind. -/
def Host.holds (p : CancelToken → Bool) (m : M) : Bool := (Host.simulator m).token?.any p

theorem Host.holds_eq (p : CancelToken → Bool) (m : M) :
    Host.holds p m =
      ((Host.simulator m).session.isSome && p ⟨(Host.simulator m).accepted⟩) := by
  unfold Host.holds Simulator.token?
  cases (Host.simulator m).session <;> rfl

/-- Whether a run was accepted, and given a token of this kind. -/
def Exchange.starts (p : CancelToken → Bool) (e : Exchange M R W) : Bool :=
  e.response.reply = .accepted && Host.holds p e.response.state

/-- Whether the end of a session with a token of this kind was reported. -/
def Exchange.ends (p : CancelToken → Bool) (e : Exchange M R W) : Bool :=
  e.response.reply.isFinished && Host.holds p e.before

/-- Whether an accepted run replaced a session with a token of this kind. -/
def Exchange.replaces (p : CancelToken → Bool) (e : Exchange M R W) : Bool :=
  e.response.reply = .accepted && Host.holds p e.before

/-- A session started or held is reported, replaced or held. -/
theorem Host.balance_perform (p : CancelToken → Bool) (m : M) (r : R) :
    (if (⟨m, r, Machine.perform m r⟩ : Exchange M R W).starts p then 1 else 0) +
        (if Host.holds p m then 1 else 0) =
      (if (⟨m, r, Machine.perform m r⟩ : Exchange M R W).ends p then 1 else 0) +
        (if (⟨m, r, Machine.perform m r⟩ : Exchange M R W).replaces p then 1 else 0) +
        (if Host.holds p (Machine.perform m r).state then 1 else 0) := by
  simp only [Exchange.starts, Exchange.ends, Exchange.replaces, Host.holds_eq]
  cases Host.moves m r with
  | kept hreply hpending hheld hnumber _ => simp [hreply, hpending, hheld, hnumber]
  | started hreply _ hheld _ _ => simp [hreply, hheld, Reply.isFinished, Nat.add_comm]
  | ended hreply hheld hnone _ =>
      have hother : (Machine.perform m r).reply ≠ .accepted := by
        intro haccepted
        rw [haccepted] at hreply
        cases hreply
      simp [hreply, hother, hheld, hnone]

/-- No token is given out twice: the tokens up to the last one have been given out, and an accepted
run gets the next. -/
theorem Host.fresh_perform (t : CancelToken) (m : M) (r : R) :
    (if (⟨m, r, Machine.perform m r⟩ : Exchange M R W).starts (· = t) then 1 else 0) +
        (if t.run ≤ (Host.simulator m).accepted then 1 else 0) =
      if t.run ≤ (Host.simulator (Machine.perform m r).state).accepted then 1 else 0 := by
  simp only [Exchange.starts, Host.holds_eq]
  cases Host.moves m r with
  | kept hreply _ _ hnumber _ => simp [hreply, hnumber]
  | started hreply _ hheld hnumber _ =>
      have htoken : (⟨(Host.simulator m).accepted + 1⟩ : CancelToken) = t ↔
          t.run = (Host.simulator m).accepted + 1 := by
        cases t
        simp [eq_comm]
      simp only [hreply, hheld, hnumber, htoken, decide_true, Bool.true_and, decide_eq_true_eq]
      split <;> split <;> split <;> omega
  | ended _ _ hnone hnumber => simp [hnone, hnumber]

/-- No token is given out to two accepted runs. -/
theorem Host.countP_starts_le_one (t : CancelToken) (m : M) (rs : List R) :
    (history m rs).countP (·.starts (· = t)) ≤ 1 := by
  have hbalance := Machine.countP_balance (P := fun _ => True) (·.starts (· = t)) (fun _ => false)
    (fun _ => false) (fun m : M => if t.run ≤ (Host.simulator m).accepted then 1 else 0)
    (fun _ _ _ => trivial) (fun m r _ => by simpa using Host.fresh_perform t m r) (s := m)
    trivial rs
  simp only [List.countP_false, Function.const_apply] at hbalance
  split at hbalance <;> split at hbalance <;> omega

/-- A run is accepted only when none is running, and then it is held. -/
theorem Host.of_accepted {m : M} {r : R} (haccepted : (Machine.perform m r).reply = .accepted) :
    (Host.simulator m).isRunning = false ∧
      (Host.simulator (Machine.perform m r).state).session.isSome = true := by
  cases Host.moves m r with
  | kept hreply _ _ _ _ => exact absurd haccepted hreply
  | started _ hfree hheld _ _ => exact ⟨hfree, hheld⟩
  | ended hreply _ _ _ =>
      rw [haccepted] at hreply
      cases hreply

/-- Only the end of a session that is held is reported. -/
theorem Host.held_of_isFinished {m : M} {r : R}
    (hfinished : (Machine.perform m r).reply.isFinished = true) :
    (Host.simulator m).session.isSome = true := by
  cases Host.moves m r with
  | kept _ hpending _ _ _ =>
      rw [hfinished] at hpending
      cases hpending
  | started hreply _ _ _ _ =>
      rw [hreply] at hfinished
      cases hfinished
  | ended _ hheld _ _ => exact hheld

/-- Every accepted run starts a session. -/
theorem Host.starts_any (m : M) (r : R) :
    (⟨m, r, Machine.perform m r⟩ : Exchange M R W).starts (fun _ => true) =
      decide ((Machine.perform m r).reply = .accepted) := by
  by_cases hreply : (Machine.perform m r).reply = .accepted
  · simp [Exchange.starts, Host.holds_eq, hreply, (Host.of_accepted hreply).2]
  · simp [Exchange.starts, hreply]

/-- Every end that is reported is the end of a session. -/
theorem Host.ends_any (m : M) (r : R) :
    (⟨m, r, Machine.perform m r⟩ : Exchange M R W).ends (fun _ => true) =
      (Machine.perform m r).reply.isFinished := by
  cases hreply : (Machine.perform m r).reply.isFinished with
  | true => simp [Exchange.ends, Host.holds_eq, hreply, Host.held_of_isFinished hreply]
  | false => simp [Exchange.ends, hreply]

end Host

/-! ## The books -/

section Books

variable {M R W : Type} [World W] [Host M R W]

/-- What a host that is in the state `m` does with its session. -/
structure Host.Orderly (m : M) : Prop where
  /-- A session that is held has not ended. -/
  session_open : (Host.simulator m).SessionOpen
  /-- Running is: held and not cancelled. -/
  running_iff : (Host.simulator m).isRunning = true ↔
    ∃ session, (Host.simulator m).session = some session ∧ session.cancelled = false
  /-- An advance is idle just when no session is held. -/
  idle_iff : (Machine.perform m (Host.plain M .advance)).reply = .step .idle ↔
    (Host.simulator m).session = none
  /-- An idle advance shows nothing and changes nothing. -/
  idle : (Host.simulator m).session = none →
    Machine.perform m (Host.plain M .advance) = ⟨.step .idle, [], m⟩
  /-- A run is accepted just when none is running and the world takes the script. -/
  accepted_iff : ∀ text, (Machine.perform m (Host.plain M (.run text))).reply = .accepted ↔
    (Host.simulator m).isRunning = false ∧
      (World.begin? (Host.simulator m).world (Script.parse text)).isSome = true
  /-- A run that is not accepted is refused, shows nothing and changes nothing. -/
  refused : ∀ text, (Machine.perform m (Host.plain M (.run text))).reply ≠ .accepted →
    Machine.perform m (Host.plain M (.run text)) = ⟨.refused, [], m⟩

/-- What becomes of the accepted runs of a host that is in the state `m` after the history `h`. -/
structure Host.Accounted (h : List (Exchange M R W)) (m : M) : Prop where
  /-- Each accepted run was reported, or replaced, or is held. -/
  total : h.countP (·.response.reply = .accepted) =
    h.countP (·.response.reply.isFinished) +
      h.countP (fun e => e.response.reply = .accepted && (Host.simulator e.before).session.isSome) +
      if (Host.simulator m).session.isSome then 1 else 0
  /-- A run that replaces a session finds it cancelled. -/
  replaced : ∀ e ∈ h, e.response.reply = .accepted →
    ∀ session, (Host.simulator e.before).session = some session → session.cancelled = true
  /-- The same for each run, known by its token. -/
  each : ∀ t, h.countP (·.starts (· = t)) =
    h.countP (·.ends (· = t)) + h.countP (·.replaces (· = t)) +
      if Host.holds (· = t) m then 1 else 0
  /-- Each accepted run has a token, which no other one has. -/
  token : ∀ e ∈ h, e.response.reply = .accepted →
    ∃ t, (Host.simulator e.response.state).token? = some t ∧ h.countP (·.starts (· = t)) = 1
  /-- No end is reported twice. -/
  once : ∀ t, h.countP (·.ends (· = t)) ≤ 1
  /-- A run that was not reported is held, or it was cancelled and then replaced. -/
  unreported : ∀ t, h.countP (·.starts (· = t)) = 1 → h.countP (·.ends (· = t)) = 0 →
    Host.holds (· = t) m = true ∨
      ∃ e ∈ h, e.replaces (· = t) = true ∧
        ∃ session, (Host.simulator e.before).session = some session ∧ session.cancelled = true

/-- A host whose session is open is orderly. -/
theorem Host.orderly {m : M} (hopen : (Host.simulator m).SessionOpen) : Host.Orderly m where
  session_open := hopen
  running_iff := by
    rw [Simulator.isRunning_iff]
    constructor
    · rintro ⟨session, hheld, -, hlive⟩
      exact ⟨session, hheld, hlive⟩
    · rintro ⟨session, hheld, hlive⟩
      exact ⟨session, hheld, hopen session hheld, hlive⟩
  idle_iff := by
    rw [Host.perform_plain]
    rcases (Host.simulator m).perform_advance_cases with ⟨hnone, hperform⟩ |
      ⟨session, d, session', w, r, hheld, -, -, -, hperform⟩ |
      ⟨session, o, session', w, r, hheld, -, -, hperform⟩
    · simp [hperform, hnone, Response.map]
    · simp [hperform, hheld, Response.map]
    · simp [hperform, hheld, Response.map]
  idle hnone := by
    rw [Host.perform_plain, Simulator.perform_advance_of_none hnone, Response.map,
      Host.put_simulator]
  accepted_iff text := by
    rw [Host.perform_plain]
    exact (Host.simulator m).perform_run_accepted_iff text
  refused text hreply := by
    rw [Host.perform_plain] at hreply ⊢
    cases hrun : (Host.simulator m).run? text with
    | none => rw [Simulator.perform_run_of_none hrun, Response.map, Host.put_simulator]
    | some started =>
        rw [Simulator.perform_run_of_some hrun] at hreply
        exact absurd rfl hreply

section Accounts

variable {m : M} (hnone : (Host.simulator m).session = none) (rs : List R)
include hnone

/-- Each exchange of a history finds the session open. -/
theorem Host.forall_exchange : ∀ e ∈ history m rs, (Host.simulator e.before).SessionOpen ∧
    e.response = Machine.perform e.before e.request := by
  refine forall_history Host.sessionOpen_perform ?_ rs
  intro session hheld
  rw [hnone] at hheld
  cases hheld

/-- All that was started was reported, or replaced, or is held. -/
theorem Host.countP_starts (p : CancelToken → Bool) :
    (history m rs).countP (·.starts p) =
      (history m rs).countP (·.ends p) + (history m rs).countP (·.replaces p) +
        if Host.holds p (after m rs) then 1 else 0 := by
  have hsum := Machine.countP_balance (P := fun _ => True) _ _ _ _ (fun _ _ _ => trivial)
    (fun m r _ => Host.balance_perform p m r) (s := m) trivial rs
  rwa [Host.holds_eq p m, hnone, Option.isSome_none, Bool.false_and, if_neg Bool.false_ne_true,
    Nat.add_zero] at hsum

theorem Host.countP_accepted :
    (history m rs).countP (·.response.reply = .accepted) =
      (history m rs).countP (·.response.reply.isFinished) +
        (history m rs).countP (fun e =>
          e.response.reply = .accepted && (Host.simulator e.before).session.isSome) +
        if (Host.simulator (after m rs)).session.isSome then 1 else 0 := by
  have hstarts : (history m rs).countP (·.starts fun _ => true) =
      (history m rs).countP (·.response.reply = .accepted) := by
    refine List.countP_congr fun e he => ?_
    have hany := Host.starts_any e.before e.request
    rw [← (Host.forall_exchange hnone rs e he).2] at hany
    exact iff_of_eq (congrArg (· = true) hany)
  have hends : (history m rs).countP (·.ends fun _ => true) =
      (history m rs).countP (·.response.reply.isFinished) := by
    refine List.countP_congr fun e he => ?_
    have hany := Host.ends_any e.before e.request
    rw [← (Host.forall_exchange hnone rs e he).2] at hany
    exact iff_of_eq (congrArg (· = true) hany)
  have hsum := Host.countP_starts hnone rs fun _ => true
  rw [hstarts, hends] at hsum
  simpa only [Exchange.replaces, Host.holds_eq, Bool.and_true] using hsum

/-- A run that replaces a session finds it cancelled. -/
theorem Host.cancelled_of_accepted {e : Exchange M R W} (he : e ∈ history m rs)
    (hreply : e.response.reply = .accepted) {session : Session}
    (hheld : (Host.simulator e.before).session = some session) : session.cancelled = true := by
  obtain ⟨hopen, hresponse⟩ := Host.forall_exchange hnone rs e he
  rw [hresponse] at hreply
  exact hopen.cancelled_of_not_isRunning (Host.of_accepted hreply).1 hheld

/-- An accepted run has a token of its own. -/
theorem Host.token_of_accepted {e : Exchange M R W} (he : e ∈ history m rs)
    (hreply : e.response.reply = .accepted) :
    ∃ t, (Host.simulator e.response.state).token? = some t ∧
      (history m rs).countP (·.starts (· = t)) = 1 := by
  have hresponse := (Host.forall_exchange hnone rs e he).2
  have hheld := (Host.of_accepted (by rwa [← hresponse])).2
  rw [← hresponse] at hheld
  let t : CancelToken := ⟨(Host.simulator e.response.state).accepted⟩
  refine ⟨t, ?_, Nat.le_antisymm (Host.countP_starts_le_one t m rs) ?_⟩
  · obtain ⟨session, hsession⟩ := Option.isSome_iff_exists.mp hheld
    rw [Simulator.token?, hsession, Option.map_some]
  · refine List.countP_pos_iff.mpr ⟨e, he, ?_⟩
    simp [Exchange.starts, Host.holds_eq, hreply, hheld, t]

/-- A run that was not reported is held, or it was cancelled and then replaced. -/
theorem Host.held_or_replaced {t : CancelToken}
    (hstarted : (history m rs).countP (·.starts (· = t)) = 1)
    (hunreported : (history m rs).countP (·.ends (· = t)) = 0) :
    Host.holds (· = t) (after m rs) = true ∨
      ∃ e ∈ history m rs, e.replaces (· = t) = true ∧
        ∃ session, (Host.simulator e.before).session = some session ∧
          session.cancelled = true := by
  have hsum := Host.countP_starts hnone rs (· = t)
  cases hholds : Host.holds (· = t) (after m rs) with
  | true => exact .inl rfl
  | false =>
      rw [hstarted, hunreported, hholds, if_neg Bool.false_ne_true] at hsum
      obtain ⟨e, he, hreplaces⟩ := List.countP_pos_iff.mp
        (show 0 < (history m rs).countP (·.replaces (· = t)) by omega)
      have hparts := hreplaces
      simp only [Exchange.replaces, Host.holds_eq, Bool.and_eq_true, decide_eq_true_eq,
        Option.isSome_iff_exists] at hparts
      obtain ⟨hreply, ⟨session, hheld⟩, -⟩ := hparts
      exact .inr ⟨e, he, hreplaces, session, hheld,
        Host.cancelled_of_accepted hnone rs he hreply hheld⟩

/-- The accounts of a host that held no session at first. -/
theorem Host.accounted : Host.Accounted (history m rs) (after m rs) where
  total := Host.countP_accepted hnone rs
  replaced _ he hreply _ hheld := Host.cancelled_of_accepted hnone rs he hreply hheld
  each t := Host.countP_starts hnone rs (· = t)
  token _ he hreply := Host.token_of_accepted hnone rs he hreply
  once t := by
    have hsum := Host.countP_starts hnone rs (· = t)
    have hle := Host.countP_starts_le_one t m rs
    omega
  unreported _ hstarted hunreported := Host.held_or_replaced hnone rs hstarted hunreported

end Accounts

end Books

/-- **The books balance.**  Whatever a simulator or the game was asked, it is orderly: the session held
is open, it runs unless it was cancelled, an advance finds none just when none is held, and a run is
accepted just when none runs and the world takes the script.  And every accepted run is accounted for:
its end was reported, or it was cancelled and another run took its place, or it is held. -/
theorem books_balance :
    (∀ {W : Type} [World W] (w : W) (p : Pacing) (rs : List Request),
      Host.Orderly (after (Simulator.new w p) rs) ∧
        Host.Accounted (history (Simulator.new w p) rs) (after (Simulator.new w p) rs)) ∧
      ∀ (c : Config) (rs : List GameRequest),
        Host.Orderly (after (Game.ofConfig c) rs) ∧
          Host.Accounted (history (Game.ofConfig c) rs) (after (Game.ofConfig c) rs) := by
  constructor
  · intro W _ w p rs
    exact ⟨Host.orderly (Host.sessionOpen_after rfl rs), Host.accounted rfl rs⟩
  · intro c rs
    exact ⟨Host.orderly (Host.sessionOpen_after rfl rs), Host.accounted rfl rs⟩

/-- Of three accepted runs the first is cancelled and replaced, the second is reported and the third
is held. -/
example :
    let h := history (Simulator.new (Turtle.new ⟨8, 0.001⟩ 0.5) .turtle)
      [.run "ANDA 1", .cancel ⟨1⟩, .run "", .advance, .advance, .advance, .advance, .run "PULA"]
    (h.countP (·.response.reply = .accepted), h.countP (·.response.reply.isFinished),
      h.countP (·.replaces (· = ⟨1⟩))) = (3, 1, 1) := by
  decide +kernel

end StepScript
