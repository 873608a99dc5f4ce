import StepScript.Board.Turtle
import StepScript.Proofs.Run.Machine
set_option autoImplicit false

/-!
# Runs: cancellation

Cancelling a run cuts it to what it has done so far and nothing more.  The run goes on advance by
advance up to the cut; the next advance reports it cancelled, shows nothing and leaves the world as
it is.  A run that has ended before is not touched.

Main statement: `cancel_cuts_history`, for a simulator whose token is used, and for a session on its
own.
-/

namespace StepScript

open Machine

/-- A session on its own, next to the world that it acts on. -/
structure Bench (W : Type) where
  session : Session
  world : W

/-- A request to a session on its own. -/
inductive BenchRequest where
  | advance
  | cancel
  deriving DecidableEq, Repr

namespace Bench

variable {W : Type} [World W]

/-- The response of a session on its own. -/
def perform (b : Bench W) : BenchRequest → Response (Bench W) W
  | .advance =>
      let t := b.session.advance b.world (Recording.empty : Recording W)
      ⟨.step t.step, t.view.events, ⟨t.session, t.world⟩⟩
  | .cancel => ⟨.done, [], { b with session := b.session.cancel }⟩

instance : Machine (Bench W) BenchRequest W := ⟨perform⟩

end Bench

/-- A state that a request leaves as it is, again and again. -/
theorem history_replicate_of_fixed {S R W : Type} [Machine S R W] {s : S} {r : R}
    {reply : Reply} (hfixed : perform s r = ⟨reply, [], s⟩) (n : Nat) :
    history s (List.replicate n r) = List.replicate n ⟨s, r, ⟨reply, [], s⟩⟩ := by
  induction n with
  | zero => rfl
  | succ n ih => rw [List.replicate_succ, history_cons, hfixed, ih, List.replicate_succ]

theorem after_replicate_of_fixed {S R W : Type} [Machine S R W] {s : S} {r : R}
    {reply : Reply} (hfixed : perform s r = ⟨reply, [], s⟩) (n : Nat) :
    after s (List.replicate n r) = s := by
  induction n with
  | zero => rfl
  | succ n ih => rw [List.replicate_succ, after_cons, hfixed, ih]

/-! ## Simulators -/

namespace Simulator

variable {W : Type} [World W]

/-- The run with this number is held, and neither done nor cancelled. -/
def Underway (n : Nat) (s : Simulator W) : Prop :=
  s.accepted = n ∧
    ∃ session, s.session = some session ∧ session.isDone = false ∧ session.cancelled = false

/-- The run with this number was the last one, and is over. -/
def Over (n : Nat) (s : Simulator W) : Prop := s.accepted = n ∧ s.session = none

theorem Underway.of_run? {s started : Simulator W} {text : String}
    (haccepted : s.run? text = some started) : Underway started.accepted started := by
  obtain ⟨-, w, -, rfl⟩ := (run?_eq_some_iff s text started).mp haccepted
  exact ⟨rfl, _, rfl, rfl, rfl⟩

/-- A run that is underway pauses or ends. -/
theorem Underway.advance {n : Nat} {s : Simulator W} (h : Underway n s) :
    ((s.perform .advance).reply.isFinished = false ∧ Underway n (s.perform .advance).state) ∨
      ((s.perform .advance).reply.isFinished = true ∧ Over n (s.perform .advance).state) := by
  obtain ⟨hn, session, hheld, -, hlive⟩ := h
  rcases s.perform_advance_cases with ⟨hnone, -⟩ |
    ⟨session₁, d, session', w, r, hheld₁, -, hcontinues, hopen', hperform⟩ |
    ⟨session₁, o, session', w, r, hheld₁, -, -, hperform⟩
  · rw [hheld] at hnone
    cases hnone
  · obtain rfl : session = session₁ := Option.some.inj (hheld.symm.trans hheld₁)
    rw [hperform]
    exact .inl ⟨rfl, hn, session', rfl, hopen', hcontinues.2.2.trans hlive⟩
  · rw [hperform]
    exact .inr ⟨rfl, hn, rfl⟩

theorem Over.advance {n : Nat} {s : Simulator W} (h : Over n s) :
    Machine.perform s Request.advance = ⟨.step .idle, [], s⟩ :=
  perform_advance_of_none h.2

/-- After some advances a run is underway, and no end was reported, or it is over and one was. -/
theorem Underway.advances {n : Nat} {s : Simulator W} (h : Underway n s) (j : Nat) :
    (Underway n (after s (List.replicate j Request.advance)) ∧
        ∀ e ∈ history s (List.replicate j Request.advance), e.response.reply.isFinished = false) ∨
      (Over n (after s (List.replicate j Request.advance)) ∧
        ∃ e ∈ history s (List.replicate j Request.advance), e.response.reply.isFinished = true) := by
  induction j generalizing s with
  | zero => exact .inl ⟨h, by simp⟩
  | succ j ih =>
      rw [List.replicate_succ, after_cons, history_cons]
      rcases h.advance with ⟨hreply, hunderway⟩ | ⟨hreply, hover⟩
      · rcases ih hunderway with ⟨hafter, hall⟩ | ⟨hafter, e, he, hend⟩
        · refine .inl ⟨hafter, ?_⟩
          intro e he
          rcases List.mem_cons.mp he with rfl | he
          · exact hreply
          · exact hall e he
        · exact .inr ⟨hafter, e, List.mem_cons_of_mem _ he, hend⟩
      · refine .inr ⟨?_, _, List.mem_cons_self, hreply⟩
        rw [show Machine.perform s Request.advance = s.perform .advance from rfl,
          after_replicate_of_fixed hover.advance]
        exact hover

/-- The token of the held run reaches it. -/
theorem Underway.cancel {n : Nat} {s : Simulator W} (h : Underway n s) :
    ∃ session, session.isDone = false ∧ session.cancelled = true ∧
      Machine.perform s (Request.cancel ⟨n⟩) =
        ⟨.done, [], { s with session := some session }⟩ := by
  obtain ⟨hn, session, hheld, hopen, -⟩ := h
  refine ⟨session.cancel, hopen, rfl, ?_⟩
  change s.perform (.cancel ⟨n⟩) = _
  rw [perform, Simulator.cancel, if_pos hn.symm, hheld]
  rfl

/-- A session that is cancelled already stays as it is. -/
theorem perform_cancel_of_cancelled {s : Simulator W} {session : Session} (t : CancelToken)
    (hheld : s.session = some session) (hcancelled : session.cancelled = true) :
    Machine.perform s (Request.cancel t) = ⟨.done, [], s⟩ := by
  have hagain : session.cancel = session := by
    cases session
    simp_all [Session.cancel]
  have hsame : s.cancel t = s := by
    rw [Simulator.cancel, hheld, Option.map_some, hagain, ← hheld]
    exact ite_self s
  change s.perform (.cancel t) = _
  rw [perform, hsame]

omit [World W] in
/-- There is nothing to cancel without a session. -/
theorem cancel_of_none {s : Simulator W} (t : CancelToken) (hnone : s.session = none) :
    s.cancel t = s := by
  rw [Simulator.cancel, hnone, Option.map_none, ← hnone]
  exact ite_self s

theorem perform_cancel_of_none {s : Simulator W} (t : CancelToken) (hnone : s.session = none) :
    Machine.perform s (Request.cancel t) = ⟨.done, [], s⟩ := by
  change s.perform (.cancel t) = _
  rw [perform, cancel_of_none t hnone]

/-- What is left of a run that is cancelled: its end is reported once, and then there is none. -/
theorem Underway.history_cut {n : Nat} {s : Simulator W} (h : Underway n s) (k m : Nat) :
    ∃ c e : Simulator W, c.isRunning = false ∧ c.world = s.world ∧ e.world = s.world ∧
      after s (List.replicate (k + 1) (Request.cancel ⟨n⟩)) = c ∧
      history s (List.replicate (k + 1) (Request.cancel ⟨n⟩)) =
        ⟨s, .cancel ⟨n⟩, ⟨.done, [], c⟩⟩ ::
          List.replicate k ⟨c, .cancel ⟨n⟩, ⟨.done, [], c⟩⟩ ∧
      history c (List.replicate (m + 1) Request.advance) =
        ⟨c, .advance, ⟨.step (.finished .cancelled), [], e⟩⟩ ::
          List.replicate m ⟨e, .advance, ⟨.step .idle, [], e⟩⟩ := by
  obtain ⟨session, hopen, hcancelled, hfirst⟩ := h.cancel
  let c : Simulator W := { s with session := some session }
  let e : Simulator W := { s with session := none }
  have hagain : Machine.perform c (Request.cancel ⟨n⟩) = ⟨.done, [], c⟩ :=
    perform_cancel_of_cancelled ⟨n⟩ rfl hcancelled
  have hend : Machine.perform c Request.advance = ⟨.step (.finished .cancelled), [], e⟩ :=
    perform_advance_of_cancelled rfl hopen hcancelled
  have hidle : Machine.perform e Request.advance = ⟨.step .idle, [], e⟩ :=
    perform_advance_of_none rfl
  refine ⟨c, e, ?_, rfl, rfl, ?_, ?_, ?_⟩
  · simp [c, isRunning, Session.isActive, hcancelled]
  · rw [List.replicate_succ, after_cons, hfirst, after_replicate_of_fixed hagain]
  · rw [List.replicate_succ, history_cons, hfirst, history_replicate_of_fixed hagain]
  · rw [List.replicate_succ, history_cons, hend, history_replicate_of_fixed hidle]

/-- A token held while a run is underway is the run's own, and no other token is given out. -/
theorem Underway.token_eq {n i : Nat} {s : Simulator W} {t : CancelToken} (h : Underway n s)
    (htoken : (after s (List.replicate i Request.advance)).token? = some t) : t = ⟨n⟩ := by
  rcases h.advances i with ⟨⟨hn, session, hheld, -⟩, -⟩ | ⟨⟨-, hnone⟩, -⟩
  · rw [token?, hheld, hn] at htoken
    exact (Option.some.inj htoken).symm
  · rw [token?, hnone] at htoken
    cases htoken

/-- Over is over: further requests to cancel and to advance change nothing. -/
theorem Over.history_cut {n : Nat} {s : Simulator W} (h : Over n s) (t : CancelToken) (k m : Nat) :
    after s (List.replicate k (Request.cancel t)) = s ∧
      history s (List.replicate k (Request.cancel t)) =
        List.replicate k ⟨s, .cancel t, ⟨.done, [], s⟩⟩ ∧
      history s (List.replicate m Request.advance) =
        List.replicate m ⟨s, .advance, ⟨.step .idle, [], s⟩⟩ :=
  have hcancel := perform_cancel_of_none t h.2
  ⟨after_replicate_of_fixed hcancel k, history_replicate_of_fixed hcancel k,
    history_replicate_of_fixed h.advance m⟩

end Simulator

/-! ## Sessions on their own -/

namespace Bench

variable {W : Type} [World W]

/-- The session is neither done nor cancelled. -/
def Underway (b : Bench W) : Prop := b.session.isDone = false ∧ b.session.cancelled = false

/-- A session that is underway pauses or ends. -/
theorem Underway.advance {b : Bench W} (h : Underway b) :
    ((Machine.perform b BenchRequest.advance).reply.isFinished = false ∧
        Underway (Machine.perform b BenchRequest.advance).state) ∨
      ∃ o, (Machine.perform b BenchRequest.advance).reply = .step (.finished o) ∧
        (Machine.perform b BenchRequest.advance).state.session.phase = .done o := by
  obtain ⟨-, hlive⟩ := h
  have hregular := b.session.regular_advance b.world (Recording.empty : Recording W)
  cases hturn : b.session.advance b.world (Recording.empty : Recording W) with
  | mk step session w r =>
      rw [hturn] at hregular
      have hperform : Machine.perform b BenchRequest.advance =
          ⟨.step step, r.events, ⟨session, w⟩⟩ := by
        change b.perform .advance = _
        rw [perform, hturn]
      rw [hperform]
      cases hregular with
      | pause hcontinues hopen => exact .inl ⟨rfl, hopen, hcontinues.2.2.trans hlive⟩
      | finished _ hphase => exact .inr ⟨_, rfl, hphase⟩

/-- A session that is done reports its outcome and stays as it is. -/
theorem perform_advance_of_done {b : Bench W} {o : Outcome} (hphase : b.session.phase = .done o) :
    Machine.perform b BenchRequest.advance = ⟨.step (.finished o), [], b⟩ := by
  change b.perform .advance = _
  rw [perform, Session.advance_of_done hphase]
  rfl

/-- After some advances a session is underway, and no end was reported, or it is done, and every end
reported is its outcome. -/
theorem Underway.advances {b : Bench W} (h : Underway b) (j : Nat) :
    (Underway (after b (List.replicate j BenchRequest.advance)) ∧
        ∀ e ∈ history b (List.replicate j BenchRequest.advance),
          e.response.reply.isFinished = false) ∨
      ∃ o, (after b (List.replicate j BenchRequest.advance)).session.phase = .done o ∧
        (∃ e ∈ history b (List.replicate j BenchRequest.advance),
          e.response.reply.isFinished = true) ∧
        ∀ e ∈ history b (List.replicate j BenchRequest.advance),
          e.response.reply.isFinished = true → e.response.reply = .step (.finished o) := by
  induction j generalizing b with
  | zero => exact .inl ⟨h, by simp⟩
  | succ j ih =>
      rw [List.replicate_succ, after_cons, history_cons]
      rcases h.advance with ⟨hreply, hunderway⟩ | ⟨o, hreply, hphase⟩
      · rcases ih hunderway with ⟨hafter, hall⟩ | ⟨o, hafter, ⟨e, he, hend⟩, hall⟩
        · refine .inl ⟨hafter, ?_⟩
          intro e he
          rcases List.mem_cons.mp he with rfl | he
          · exact hreply
          · exact hall e he
        · refine .inr ⟨o, hafter, ⟨e, List.mem_cons_of_mem _ he, hend⟩, ?_⟩
          intro e he hend
          rcases List.mem_cons.mp he with rfl | he
          · rw [hreply] at hend
            cases hend
          · exact hall e he hend
      · have hdone := perform_advance_of_done hphase
        rw [after_replicate_of_fixed hdone, history_replicate_of_fixed hdone]
        refine .inr ⟨o, hphase, ⟨_, List.mem_cons_self, by rw [hreply]; rfl⟩, ?_⟩
        intro e he _
        rcases List.mem_cons.mp he with rfl | he
        · exact hreply
        · rw [List.eq_of_mem_replicate he]

/-- A session that is cancelled again and again is cancelled. -/
theorem history_cancel (b : Bench W) (k : Nat) :
    after b (List.replicate (k + 1) BenchRequest.cancel) = { b with session := b.session.cancel } ∧
      history b (List.replicate (k + 1) BenchRequest.cancel) =
        ⟨b, .cancel, ⟨.done, [], { b with session := b.session.cancel }⟩⟩ ::
          List.replicate k ⟨{ b with session := b.session.cancel }, .cancel,
            ⟨.done, [], { b with session := b.session.cancel }⟩⟩ := by
  have hagain : Machine.perform { b with session := b.session.cancel } BenchRequest.cancel =
      ⟨.done, [], { b with session := b.session.cancel }⟩ := rfl
  constructor
  · rw [List.replicate_succ, after_cons]
    exact after_replicate_of_fixed hagain k
  · rw [List.replicate_succ, history_cons]
    exact congrArg _ (history_replicate_of_fixed hagain k)

/-- Once cancelled, a session that was underway reports nothing but that. -/
theorem Underway.history_cut {b : Bench W} (h : Underway b) (m : Nat) :
    ∃ e : Bench W, e.world = b.world ∧
      history ({ b with session := b.session.cancel } : Bench W)
          (List.replicate (m + 1) BenchRequest.advance) =
        ⟨{ b with session := b.session.cancel }, .advance, ⟨.step (.finished .cancelled), [], e⟩⟩ ::
          List.replicate m ⟨e, .advance, ⟨.step (.finished .cancelled), [], e⟩⟩ := by
  let e : Bench W := { b with session := { b.session.cancel with phase := .done .cancelled } }
  have hend : Machine.perform ({ b with session := b.session.cancel } : Bench W)
      BenchRequest.advance = ⟨.step (.finished .cancelled), [], e⟩ := by
    change perform { b with session := b.session.cancel } .advance = _
    rw [perform, Session.advance_of_cancelled (s := b.session.cancel) h.1 rfl]
    rfl
  refine ⟨e, rfl, ?_⟩
  rw [List.replicate_succ, history_cons, hend,
    history_replicate_of_fixed (perform_advance_of_done rfl)]

end Bench

/-! ## Cut histories -/

/-- The history that advances `j` times, then cancels `k + 1` times, then advances `m + 1` times. -/
def Machine.cutHistory {S R W : Type} [Machine S R W] (s : S) (advance cancel : R) (j k m : Nat) :
    List (Exchange S R W) :=
  history s (List.replicate j advance ++
    (List.replicate (k + 1) cancel ++ List.replicate (m + 1) advance))

section CutHistory

variable {S R W : Type} [Machine S R W] (s : S) (advance cancel : R) (j k m : Nat)

/-- Up to the cut a history is one of advances only. -/
theorem take_cutHistory (l : Nat) :
    (cutHistory s advance cancel j k m).take j =
      (history s (List.replicate (j + l) advance)).take j := by
  have hlength : (history s (List.replicate j advance)).length = j := by simp
  rw [cutHistory, history_append, List.take_left' hlength, ← List.replicate_append_replicate,
    history_append, List.take_left' hlength]

/-- From the cut on. -/
theorem drop_cutHistory :
    (cutHistory s advance cancel j k m).drop j =
      history (after s (List.replicate j advance)) (List.replicate (k + 1) cancel) ++
        history (after (after s (List.replicate j advance)) (List.replicate (k + 1) cancel))
          (List.replicate (m + 1) advance) := by
  have hlength : (history s (List.replicate j advance)).length = j := by simp
  rw [cutHistory, history_append, List.drop_left' hlength, history_append]

/-- After the requests to cancel. -/
theorem drop_cutHistory_add :
    (cutHistory s advance cancel j k m).drop (j + (k + 1)) =
      history (after (after s (List.replicate j advance)) (List.replicate (k + 1) cancel))
        (List.replicate (m + 1) advance) := by
  rw [← List.drop_drop, drop_cutHistory]
  exact List.drop_left' (by simp)

end CutHistory

variable {W : Type} [World W]

/-- Using the token `t` after `j` advances cuts the run of a simulator and does nothing more. -/
structure Simulator.CutsShort (s : Simulator W) (t : CancelToken) (j : Nat) : Prop where
  /-- Up to the cut the history is that of the run that is not cancelled. -/
  same_before : ∀ k l m,
    (cutHistory s .advance (.cancel t) j k m).take j =
      (history s (List.replicate (j + l) Request.advance)).take j
  /-- Cut before its end, the run is not active any more.  The next advance reports it cancelled, the
  others find no run, nothing is shown and the world stays. -/
  cut : (∀ e ∈ history s (List.replicate j Request.advance), e.response.reply.isFinished = false) →
    ∀ k m,
      (after s (List.replicate j .advance ++ List.replicate (k + 1) (.cancel t))).isRunning = false ∧
      ((cutHistory s .advance (.cancel t) j k m).drop (j + (k + 1))).map (·.response.reply) =
        .step (.finished .cancelled) :: List.replicate m (.step .idle) ∧
      ∀ e ∈ (cutHistory s .advance (.cancel t) j k m).drop j,
        e.response.events = [] ∧
          e.response.state.world = (after s (List.replicate j Request.advance)).world
  /-- Cut after its end, nothing is changed. -/
  late : (∃ e ∈ history s (List.replicate j Request.advance), e.response.reply.isFinished = true) →
    ∀ k m,
      ((cutHistory s .advance (.cancel t) j k m).drop (j + (k + 1))).map (·.response.reply) =
        List.replicate (m + 1) (.step .idle) ∧
      ∀ e ∈ (cutHistory s .advance (.cancel t) j k m).drop j,
        e.response.events = [] ∧ e.response.state = after s (List.replicate j Request.advance)

/-- Cancelling a session on its own after `j` advances cuts its run and does nothing more. -/
structure Bench.CutsShort (b : Bench W) (j : Nat) : Prop where
  /-- Up to the cut the history is that of the run that is not cancelled. -/
  same_before : ∀ k l m,
    (cutHistory b .advance .cancel j k m).take j =
      (history b (List.replicate (j + l) BenchRequest.advance)).take j
  /-- Cut before its end, the session is not active any more.  Every further advance reports it
  cancelled, nothing is shown and the world stays. -/
  cut : (∀ e ∈ history b (List.replicate j BenchRequest.advance),
      e.response.reply.isFinished = false) →
    ∀ k m,
      (after b (List.replicate j .advance ++
        List.replicate (k + 1) BenchRequest.cancel)).session.isActive = false ∧
      ((cutHistory b .advance .cancel j k m).drop (j + (k + 1))).map (·.response.reply) =
        List.replicate (m + 1) (.step (.finished .cancelled)) ∧
      ∀ e ∈ (cutHistory b .advance .cancel j k m).drop j,
        e.response.events = [] ∧
          e.response.state.world = (after b (List.replicate j BenchRequest.advance)).world
  /-- Cut after its end, the session keeps reporting its outcome. -/
  late : ∀ o, (∃ e ∈ history b (List.replicate j BenchRequest.advance),
      e.response.reply = .step (.finished o)) →
    ∀ k m,
      ((cutHistory b .advance .cancel j k m).drop (j + (k + 1))).map (·.response.reply) =
        List.replicate (m + 1) (.step (.finished o)) ∧
      ∀ e ∈ (cutHistory b .advance .cancel j k m).drop j,
        e.response.events = [] ∧
          e.response.state.world = (after b (List.replicate j BenchRequest.advance)).world

theorem Simulator.Underway.cutsShort {n : Nat} {s : Simulator W} (h : s.Underway n) (j : Nat) :
    s.CutsShort ⟨n⟩ j where
  same_before k l m := take_cutHistory s _ _ j k m l
  cut hunfinished k m := by
    rcases h.advances j with ⟨hunderway, -⟩ | ⟨-, e, he, hend⟩
    · obtain ⟨c, e, hstopped, hc, he, hafter, hcancels, hadvances⟩ := hunderway.history_cut k m
      rw [after_append, drop_cutHistory_add, drop_cutHistory, hafter, hcancels, hadvances]
      refine ⟨hstopped, by simp, ?_⟩
      intro x hx
      simp only [List.cons_append, List.mem_cons, List.mem_append, List.mem_replicate] at hx
      rcases hx with rfl | ⟨-, rfl⟩ | rfl | ⟨-, rfl⟩
      · exact ⟨rfl, hc⟩
      · exact ⟨rfl, hc⟩
      · exact ⟨rfl, he⟩
      · exact ⟨rfl, he⟩
    · rw [hunfinished e he] at hend
      cases hend
  late hfinished k m := by
    rcases h.advances j with ⟨-, hunfinished⟩ | ⟨hover, -⟩
    · obtain ⟨e, he, hend⟩ := hfinished
      rw [hunfinished e he] at hend
      cases hend
    · obtain ⟨hafter, hcancels, hadvances⟩ := hover.history_cut ⟨n⟩ (k + 1) (m + 1)
      rw [drop_cutHistory_add, drop_cutHistory, hafter, hcancels, hadvances]
      refine ⟨by simp, ?_⟩
      intro x hx
      simp only [List.mem_append, List.mem_replicate] at hx
      rcases hx with ⟨-, rfl⟩ | ⟨-, rfl⟩
      · exact ⟨rfl, rfl⟩
      · exact ⟨rfl, rfl⟩

theorem Bench.Underway.cutsShort {b : Bench W} (h : b.Underway) (j : Nat) : b.CutsShort j where
  same_before k l m := take_cutHistory b _ _ j k m l
  cut hunfinished k m := by
    rcases h.advances j with ⟨hunderway, -⟩ | ⟨o, -, ⟨e, he, hend⟩, -⟩
    · obtain ⟨hafter, hcancels⟩ :=
        history_cancel (after b (List.replicate j BenchRequest.advance)) k
      obtain ⟨e, he, hadvances⟩ := hunderway.history_cut m
      rw [after_append, drop_cutHistory_add, drop_cutHistory, hafter, hcancels, hadvances]
      refine ⟨by simp [Session.isActive, Session.cancel], by simp [List.replicate_succ], ?_⟩
      intro x hx
      simp only [List.cons_append, List.mem_cons, List.mem_append, List.mem_replicate] at hx
      rcases hx with rfl | ⟨-, rfl⟩ | rfl | ⟨-, rfl⟩
      · exact ⟨rfl, rfl⟩
      · exact ⟨rfl, rfl⟩
      · exact ⟨rfl, he⟩
      · exact ⟨rfl, he⟩
    · rw [hunfinished e he] at hend
      cases hend
  late o hfinished k m := by
    obtain ⟨x, hx, hreply⟩ := hfinished
    rcases h.advances j with ⟨-, hunfinished⟩ | ⟨o', hphase, -, hall⟩
    · have hend := hunfinished x hx
      rw [hreply] at hend
      cases hend
    · have ho : o' = o := by
        have hsame := hall x hx (by rw [hreply]; rfl)
        rw [hreply] at hsame
        cases hsame
        rfl
      subst ho
      obtain ⟨hafter, hcancels⟩ :=
        history_cancel (after b (List.replicate j BenchRequest.advance)) k
      rw [drop_cutHistory_add, drop_cutHistory, hafter, hcancels,
        history_replicate_of_fixed (perform_advance_of_done (by exact hphase))]
      refine ⟨by simp, ?_⟩
      intro x hx
      simp only [List.cons_append, List.mem_cons, List.mem_append, List.mem_replicate] at hx
      rcases hx with rfl | ⟨-, rfl⟩ | ⟨-, rfl⟩
      · exact ⟨rfl, rfl⟩
      · exact ⟨rfl, rfl⟩
      · exact ⟨rfl, rfl⟩

/-- **A cancellation is a cut.**  A token of an accepted run, taken at any time while the run is
held, and used any number of times after any number of advances, cuts the run of the simulator short
and does nothing more; so does cancelling a session of the same script on its own. -/
theorem cancel_cuts_history {s started : Simulator W} {text : String} {t : CancelToken} {i : Nat}
    (haccepted : s.run? text = some started)
    (htoken : (after started (List.replicate i Request.advance)).token? = some t)
    (w : W) (p : Pacing) (j : Nat) :
    started.CutsShort t j ∧ Bench.CutsShort ⟨.new (Script.parse text) p, w⟩ j := by
  have hunderway := Simulator.Underway.of_run? haccepted
  obtain rfl : t = ⟨started.accepted⟩ := hunderway.token_eq htoken
  have hbench : Bench.Underway (⟨.new (Script.parse text) p, w⟩ : Bench W) := ⟨rfl, rfl⟩
  exact ⟨hunderway.cutsShort j, hbench.cutsShort j⟩

/-- With the token taken after one advance: cut after two advances, between the two lines, the run is
reported cancelled once; cut after nine, when it has been won, it is not touched. -/
theorem cancel_cuts_history_between_lines :
    let s := Simulator.new ((Turtle.new ⟨8, 0.001⟩ 0.5).setTarget (some ⟨2, 0⟩)) .turtle
    let text := "ANDA 1\nANDA 1"
    ∃ started, s.run? text = some started ∧
      (after started (List.replicate 1 Request.advance)).token? = some ⟨1⟩ ∧
      ((cutHistory started .advance (.cancel ⟨1⟩) 2 0 1).drop 3).map (·.response.reply) =
        [.step (.finished .cancelled), .step .idle] ∧
      ((cutHistory started .advance (.cancel ⟨1⟩) 9 0 1).drop 10).map (·.response.reply) =
        [.step .idle, .step .idle] ∧
      Bench.CutsShort ⟨.new (Script.parse text) .turtle, s.world⟩ 2 := by
  intro s text
  have haccepted : s.run? text = some _ := rfl
  have hcuts := fun j => cancel_cuts_history (i := 1) haccepted rfl s.world .turtle j
  refine ⟨_, haccepted, rfl, ?_, ?_, (hcuts 2).2⟩
  · exact ((hcuts 2).1.cut (by decide +kernel) 0 1).2.1
  · exact ((hcuts 9).1.late (by decide +kernel) 0 1).1

end StepScript
