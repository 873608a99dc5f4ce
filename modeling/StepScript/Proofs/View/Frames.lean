import StepScript.Proofs.Run.Bookkeeping
import StepScript.View.Framed
set_option autoImplicit false

/-!
# Views: frames lose nothing

A page sees a simulator only through the frames of its calls.  A call makes one request to the bare
simulator or game, or a reset or play and then an advance, and its frame takes the log away.

Main statement: `frames_lose_nothing`, for the framed turtle, the framed panel and the framed game:
the log is empty between calls, the frames together hold the log of the bare simulator, a reset or
play reports the run that it ends, and so the runs and the reported ends balance.
-/

namespace StepScript

open Machine

/-! ## Logs -/

namespace Machine

variable {S R W : Type} [Machine S R W]

/-- The events of several responses in order. -/
def shown (s : S) (rs : List R) : List (Event W) := (history s rs).flatMap (·.response.events)

@[simp] theorem shown_nil (s : S) : shown s ([] : List R) = [] := rfl

@[simp] theorem shown_cons (s : S) (r : R) (rs : List R) :
    shown s (r :: rs) = (perform s r).events ++ shown (perform s r).state rs := rfl

theorem shown_append (s : S) (a b : List R) : shown s (a ++ b) = shown s a ++ shown (after s a) b := by
  rw [shown, history_append, List.flatMap_append]
  rfl

end Machine

/-- A machine that shows its events to whatever view it is given. -/
class Viewed (S : Type) (R W : outParam Type) [Machine S R W] where
  ask : {V : Type} → [View V W] → S → V → R → S × V
  ask_eq : ∀ {V : Type} [View V W] (s : S) (v : V) (r : R),
    ask s v r = ((perform s r).state, View.replay v (perform s r).events)

namespace Viewed

variable {S R W V : Type} [Machine S R W] [Viewed S R W] [View V W]

/-- Several requests, with one view for all of them. -/
def askAll (s : S) (v : V) (rs : List R) : S × V := rs.foldl (fun p r => ask p.1 p.2 r) (s, v)

/-- The view takes in the events of all responses in order. -/
theorem askAll_eq (s : S) (v : V) (rs : List R) :
    askAll s v rs = (after s rs, View.replay v (shown s rs)) := by
  induction rs generalizing s v with
  | nil => rfl
  | cons r rs ih =>
      change askAll (ask s v r).1 (ask s v r).2 rs = _
      rw [ih, ask_eq, shown_cons, View.replay_append, after_cons]

end Viewed

/-- A request to a simulator that shows a view what it does. -/
def Simulator.ask {W V : Type} [World W] [View V W] (s : Simulator W) (v : V) :
    Request → Simulator W × V
  | .run text => ((start text s).2, v)
  | .advance => let p := s.advance v; (p.simulator, p.view)
  | .reset => s.reset v
  | .setPacing p => (s.setPacing p, v)
  | .cancel t => (s.cancel t, v)

theorem Simulator.ask_eq {W V : Type} [World W] [View V W] (s : Simulator W) (v : V) (r : Request) :
    s.ask v r = ((s.perform r).state, View.replay v (s.perform r).events) := by
  cases r with
  | run text => rfl
  | advance =>
      obtain ⟨step, -, hadvance⟩ := s.advance_eq_perform v
      simp only [ask, hadvance]
  | reset => rfl
  | setPacing p => rfl
  | cancel t => rfl

/-- A request to a game that shows a view what it does. -/
def Game.ask {V : Type} [View V Turtle] (g : Game) (v : V) : GameRequest → Game × V
  | .play => let o := g.play v; (o.game, o.view)
  | .plain (.run text) => ((start text g).2, v)
  | .plain .advance => (g.advance v).2
  | .plain .reset => g.reset v
  | .plain (.setPacing p) => (g.withSimulator (g.simulator.setPacing p), v)
  | .plain (.cancel t) => (g.withSimulator (g.simulator.cancel t), v)

/-- What its simulator shows, and the rest of the game stays. -/
theorem Game.ask_plain {V : Type} [View V Turtle] (g : Game) (v : V) (r : Request) :
    g.ask v (.plain r) = (g.withSimulator (g.simulator.ask v r).1, (g.simulator.ask v r).2) := by
  cases r with
  | run text => rfl
  | advance => rfl
  | reset => rfl
  | setPacing p => rfl
  | cancel t => rfl

theorem Game.ask_eq {V : Type} [View V Turtle] (g : Game) (v : V) (r : GameRequest) :
    g.ask v r = ((g.perform r).state, View.replay v (g.perform r).events) := by
  cases r with
  | play => rfl
  | plain r => rw [ask_plain, Simulator.ask_eq, perform_plain]; rfl

instance {W : Type} [World W] : Viewed (Simulator W) Request W := ⟨Simulator.ask, Simulator.ask_eq⟩

instance : Viewed Game GameRequest Turtle := ⟨Game.ask, Game.ask_eq⟩

/-! ## Calls -/

/-- A call to a framed simulator. -/
inductive Call where
  | run (text : String)
  | advance
  | reset
  deriving DecidableEq, Repr

/-- The requests that a call makes. -/
def Call.requests : Call → List Request
  | .run text => [.run text]
  | .advance => [.advance]
  | .reset => [.reset, .advance]

/-- A call to a framed game. -/
inductive GameCall where
  | play
  | plain (c : Call)
  deriving DecidableEq, Repr

/-- The requests that a call makes. -/
def GameCall.requests : GameCall → List GameRequest
  | .play => [.play, .plain .advance]
  | .plain c => c.requests.map .plain

/-- A frame as a response: its step and its events. -/
def Frame.response {S W : Type} (p : Frame W × S) : Response S W := ⟨.step p.1.step, p.1.events, p.2⟩

/-- A framed simulator's response to a call. -/
def Framed.perform {W : Type} [World W] (f : Framed W) : Call → Response (Framed W) W
  | .run text => .ofStart (start text f)
  | .advance => Frame.response f.advance
  | .reset => Frame.response f.reset

/-- A framed game's response to a call. -/
def FramedGame.perform (f : FramedGame) : GameCall → Response FramedGame Turtle
  | .play => Frame.response f.play
  | .plain (.run text) => .ofStart (start text f)
  | .plain .advance => Frame.response f.advance
  | .plain .reset => Frame.response f.reset

/-! ## Hosts with a log -/

namespace Machine

variable {S R W : Type} [Machine S R W]

/-- The response to several requests at once: the last reply, and the events of all. -/
def answer (s : S) (rs : List R) : Response S W :=
  ⟨((history s rs).map (·.response.reply)).getLast?.getD .done, shown s rs, after s rs⟩

@[simp] theorem answer_singleton (s : S) (r : R) : answer s [r] = perform s r := by
  simp [answer]

theorem answer_pair (s : S) (r r' : R) :
    answer s [r, r'] =
      ⟨(perform (perform s r).state r').reply,
        (perform s r).events ++ (perform (perform s r).state r').events,
        (perform (perform s r).state r').state⟩ := by
  simp [answer]

end Machine

/-- A host with a log of its own, driven by calls. -/
class Framing (F : Type) (C M R W : outParam Type) [World W] [Host M R W] extends
    Machine F C W where
  host : F → M
  log : F → Recording W
  /-- The requests that a call makes to the host. -/
  requests : C → List R
  /-- A call that finds the log empty answers for its requests and leaves the log empty. -/
  perform_drained : ∀ f c, log f = .empty →
    (perform f c).map host = Machine.answer (host f) (requests c) ∧ log (perform f c).state = .empty
  /-- A call asks for a run, or advances, perhaps after a request that cancels the session. -/
  requests_cases : ∀ c : C, (∃ text, requests c = [Host.plain M (.run text)]) ∨
    requests c = [Host.plain M .advance] ∨
    ∃ r, requests c = [r, Host.plain M .advance] ∧ ∀ m : M,
      (Host.simulator (Machine.perform m r).state).session =
        (Host.simulator m).session.map Session.cancel

/-- The frame of an advance that finds other events in the log. -/
theorem Simulator.frame_of_advance {W : Type} [World W] (s : Simulator W) (es : List (Event W)) :
    let p := s.advance (⟨es⟩ : Recording W)
    (⟨.step p.step, p.view.events, p.simulator⟩ : Response (Simulator W) W) =
      ⟨(s.perform .advance).reply, es ++ (s.perform .advance).events, (s.perform .advance).state⟩ := by
  obtain ⟨step, hperform, hadvance⟩ := s.advance_eq_perform (⟨es⟩ : Recording W)
  have hreply : (s.perform .advance).reply = .step step := congrArg Response.reply hperform
  rw [hadvance, Recording.replay_eq, hreply]

theorem Framed.perform_drained {W : Type} [World W] (s : Simulator W) (c : Call) :
    let response := (Framed.new s).perform c
    response.map Framed.simulator = Machine.answer s c.requests ∧ response.state.log = .empty := by
  cases c with
  | run text =>
      rw [Call.requests, answer_singleton]
      exact ⟨rfl, rfl⟩
  | advance =>
      rw [Call.requests, answer_singleton]
      exact ⟨rfl, rfl⟩
  | reset =>
      rw [Call.requests, answer_pair]
      exact ⟨(s.perform .reset).state.frame_of_advance (s.perform .reset).events, rfl⟩

/-- The same for a game. -/
theorem Game.frame_of_advance (g : Game) (es : List (Event Turtle)) :
    let p := g.advance (⟨es⟩ : Recording Turtle)
    (⟨.step p.1, p.2.2.events, p.2.1⟩ : Response Game Turtle) =
      ⟨(g.perform (.plain .advance)).reply, es ++ (g.perform (.plain .advance)).events,
        (g.perform (.plain .advance)).state⟩ :=
  congrArg (Response.map g.withSimulator) (g.simulator.frame_of_advance es)

theorem FramedGame.perform_drained (g : Game) (c : GameCall) :
    let response := (FramedGame.mk g .empty).perform c
    response.map FramedGame.game = Machine.answer g c.requests ∧ response.state.log = .empty := by
  cases c with
  | play =>
      rw [GameCall.requests, answer_pair]
      exact ⟨(g.perform .play).state.frame_of_advance (g.perform .play).events, rfl⟩
  | plain c =>
      cases c with
      | run text =>
          change _ = Machine.answer g [.plain (.run text)] ∧ _
          rw [answer_singleton]
          exact ⟨rfl, rfl⟩
      | advance =>
          change _ = Machine.answer g [.plain .advance] ∧ _
          rw [answer_singleton]
          exact ⟨rfl, rfl⟩
      | reset =>
          change _ = Machine.answer g [.plain .reset, .plain .advance] ∧ _
          rw [answer_pair]
          exact ⟨(g.perform (.plain .reset)).state.frame_of_advance
            (g.perform (.plain .reset)).events, rfl⟩

instance {W : Type} [World W] : Framing (Framed W) Call (Simulator W) Request W where
  perform := Framed.perform
  host := Framed.simulator
  log := Framed.log
  requests := Call.requests
  perform_drained f c hdrained := by
    obtain ⟨s, log⟩ := f
    obtain rfl : log = .empty := hdrained
    exact Framed.perform_drained s c
  requests_cases c :=
    match c with
    | .run text => .inl ⟨text, rfl⟩
    | .advance => .inr (.inl rfl)
    | .reset => .inr (.inr ⟨.reset, rfl, fun _ => rfl⟩)

instance : Framing FramedGame GameCall Game GameRequest Turtle where
  perform := FramedGame.perform
  host := FramedGame.game
  log := FramedGame.log
  requests := GameCall.requests
  perform_drained f c hdrained := by
    obtain ⟨g, log⟩ := f
    obtain rfl : log = .empty := hdrained
    exact FramedGame.perform_drained g c
  requests_cases c :=
    match c with
    | .play => .inr (.inr ⟨.play, rfl, fun _ => rfl⟩)
    | .plain (.run text) => .inl ⟨text, rfl⟩
    | .plain .advance => .inr (.inl rfl)
    | .plain .reset => .inr (.inr ⟨.plain .reset, rfl, fun _ => rfl⟩)

/-! ## Sessions between calls -/

/-- The session held, if there is one, is active. -/
def Simulator.Live {W : Type} (s : Simulator W) : Prop :=
  ∀ session, s.session = some session → session.isDone = false ∧ session.cancelled = false

namespace Simulator

variable {W : Type}

theorem Live.of_none {s : Simulator W} (hnone : s.session = none) : s.Live := by
  intro session hheld
  rw [hnone] at hheld
  cases hheld

theorem Live.sessionOpen {s : Simulator W} (h : s.Live) : s.SessionOpen :=
  fun session hheld => (h session hheld).1

/-- Running is: held. -/
theorem Live.isRunning_eq {s : Simulator W} (h : s.Live) : s.isRunning = s.session.isSome := by
  cases hheld : s.session with
  | none => rw [isRunning, hheld]; rfl
  | some session => exact s.isRunning_iff.mpr ⟨session, hheld, h session hheld⟩

variable [World W]

theorem Live.perform_run {s : Simulator W} (h : s.Live) (text : String) :
    (s.perform (.run text)).state.Live := by
  rcases s.perform_run_cases text with hperform | ⟨w, -, hperform⟩
  · rw [hperform]
    exact h
  · rw [hperform]
    rintro session ⟨⟩
    exact ⟨rfl, rfl⟩

theorem Live.perform_advance {s : Simulator W} (h : s.Live) : (s.perform .advance).state.Live := by
  rcases s.perform_advance_cases with ⟨-, hperform⟩ |
    ⟨session, d, session', w, r, hheld, -, hcontinues, hopen, hperform⟩ |
    ⟨session, o, session', w, r, -, -, -, hperform⟩
  · rw [hperform]
    exact h
  · rw [hperform]
    rintro held ⟨⟩
    exact ⟨hopen, hcontinues.2.2.trans (h session hheld).2⟩
  · rw [hperform]
    exact Live.of_none rfl

end Simulator

/-- What was active and what is started is what ends and what is active then. -/
theorem Simulator.Moves.balance {W : Type} {s s' : Simulator W} {reply : Reply}
    (h : s.Moves reply s') (hlive : s.Live) (hlive' : s'.Live) :
    (if reply = .accepted then 1 else 0) + (if s.isRunning then 1 else 0) =
      (if reply.isFinished then 1 else 0) + (if s'.isRunning then 1 else 0) := by
  rw [hlive'.isRunning_eq]
  cases h with
  | kept hreply hpending hheld _ _ => simp [hreply, hpending, hheld, hlive.isRunning_eq]
  | started hreply hfree hheld _ _ => simp [hreply, hfree, hheld, Reply.isFinished]
  | ended hreply hheld hnone _ =>
      have hother : reply ≠ .accepted := by
        rintro rfl
        cases hreply
      simp [hreply, hother, hheld, hnone, hlive.isRunning_eq]

section Framing

variable {F C M R W : Type} [World W] [Host M R W] [Framing F C M R W]

/-- The simulator of the host. -/
def Framing.simulator (f : F) : Simulator W := Host.simulator (Framing.host f)

/-- A call that finds the log empty answers for its requests. -/
theorem Framing.answers {f : F} (hdrained : Framing.log f = .empty) (c : C) :
    let answer := Machine.answer (Framing.host f) (Framing.requests F c)
    (perform f c).reply = answer.reply ∧ (perform f c).events = answer.events ∧
      Framing.host (perform f c).state = answer.state := by
  have hperform := (Framing.perform_drained f c hdrained).1
  exact ⟨congrArg Response.reply hperform, congrArg Response.events hperform,
    congrArg Response.state hperform⟩

/-- What a call does that makes one request to the simulator. -/
theorem Framing.perform_of_request {f : F} (hdrained : Framing.log f = .empty) {c : C} {q : Request}
    (hc : Framing.requests F c = [Host.plain M q]) :
    (perform f c).reply = ((simulator f).perform q).reply ∧
      simulator (perform f c).state = ((simulator f).perform q).state := by
  obtain ⟨hreply, -, hstate⟩ := answers hdrained c
  rw [hc, answer_singleton, Host.perform_plain] at hreply hstate
  refine ⟨hreply, ?_⟩
  rw [simulator, hstate, Response.map, Host.simulator_put]
  rfl

/-- A call that cancels the session and advances reports it and leaves none. -/
theorem Framing.perform_of_cancel {f : F} (hdrained : Framing.log f = .empty)
    (hlive : (simulator f).Live) {c : C} {r : R}
    (hc : Framing.requests F c = [r, Host.plain M .advance])
    (hcancel : (Host.simulator (perform (Framing.host f) r).state).session =
      (simulator f).session.map Session.cancel) :
    (perform f c).reply =
        .step (if (simulator f).isRunning then .finished .cancelled else .idle) ∧
      (simulator (perform f c).state).session = none := by
  obtain ⟨hreply, -, hstate⟩ := answers hdrained c
  rw [hc, answer_pair, Host.perform_plain,
    Simulator.perform_advance_of_cancel hlive.sessionOpen hcancel] at hreply hstate
  refine ⟨hreply.trans (by rw [hlive.isRunning_eq]; rfl), ?_⟩
  rw [simulator, hstate, Response.map, Host.simulator_put]

theorem Framing.live_perform {f : F} (hdrained : Framing.log f = .empty)
    (hlive : (simulator f).Live) (c : C) : (simulator (perform f c).state).Live := by
  rcases Framing.requests_cases (F := F) c with ⟨text, hc⟩ | hc | ⟨r, hc, hcancel⟩
  · rw [(perform_of_request hdrained hc).2]
    exact hlive.perform_run text
  · rw [(perform_of_request hdrained hc).2]
    exact hlive.perform_advance
  · exact .of_none (perform_of_cancel hdrained hlive hc (hcancel _)).2

/-- What a call starts or finds active it ends or leaves active. -/
theorem Framing.balance_perform {f : F} (hdrained : Framing.log f = .empty)
    (hlive : (simulator f).Live) (c : C) :
    (if (perform f c).reply = .accepted then 1 else 0) + (if (simulator f).isRunning then 1 else 0) =
      (if (perform f c).reply.isFinished then 1 else 0) +
        (if (simulator (perform f c).state).isRunning then 1 else 0) := by
  have hlive' := live_perform hdrained hlive c
  have hrequest : ∀ q, Framing.requests F c = [Host.plain M q] →
      (simulator f).Moves (perform f c).reply (simulator (perform f c).state) := by
    intro q hc
    obtain ⟨hreply, hstate⟩ := perform_of_request hdrained hc
    rw [hreply, hstate]
    exact (simulator f).moves_perform q
  rcases Framing.requests_cases (F := F) c with ⟨text, hc⟩ | hc | ⟨r, hc, hcancel⟩
  · exact (hrequest _ hc).balance hlive hlive'
  · exact (hrequest _ hc).balance hlive hlive'
  · obtain ⟨hreply, hnone⟩ := perform_of_cancel hdrained hlive hc (hcancel _)
    rw [hreply, hlive'.isRunning_eq, hnone]
    cases (simulator f).isRunning <;> rfl

/-! ## Whole pages -/

/-- What the calls `cs` make of the host with a log `f`, next to the bare host `m`. -/
structure Framing.Faithful [Viewed M R W] (f : F) (m : M) (cs : List C) : Prop where
  /-- The log is empty between calls. -/
  drained : Framing.log (after f cs) = .empty
  /-- The bare host, asked the same, is in the same state. -/
  host_eq : Framing.host (after f cs) =
    (Viewed.askAll m (Recording.empty : Recording W) (cs.flatMap (Framing.requests F))).1
  /-- The frames together hold what it has written into one log. -/
  lossless : shown f cs =
    (Viewed.askAll m (Recording.empty : Recording W) (cs.flatMap (Framing.requests F))).2.events
  /-- The frame of a call that makes another request before its advance, a reset or a play, reports
  the run that it has cancelled, if there was one; none is in progress then. -/
  renewed : ∀ (c : C) (r : R), Framing.requests F c = [r, Host.plain M .advance] →
    (perform (after f cs) c).reply =
        .step (if (simulator (after f cs)).isRunning then .finished .cancelled else .idle) ∧
      (simulator (perform (after f cs) c).state).isRunning = false
  /-- After it a run of a script that the world takes is accepted. -/
  accepted : ∀ (c : C) (r : R), Framing.requests F c = [r, Host.plain M .advance] →
    ∀ (c' : C) text, Framing.requests F c' = [Host.plain M (.run text)] →
      let f' := (perform (after f cs) c).state
      (World.begin? (simulator f').world (Script.parse text)).isSome = true →
        (perform f' c').reply = .accepted
  /-- A session that is held is not cancelled. -/
  live : ∀ session, (simulator (after f cs)).session = some session → session.cancelled = false
  /-- The accepted runs are those whose end a frame reports, and the one in progress. -/
  counted : (history f cs).countP (·.response.reply = .accepted) =
    (history f cs).countP (·.response.reply.isFinished) +
      if (simulator (after f cs)).isRunning then 1 else 0

/-- Nothing is left in the log and no cancelled session is held. -/
structure Framing.Settled (f : F) : Prop where
  drained : Framing.log f = .empty
  live : (simulator f).Live

theorem Framing.Settled.perform {f : F} (h : Settled f) (c : C) : Settled (perform f c).state where
  drained := (Framing.perform_drained f c h.drained).2
  live := live_perform h.drained h.live c

theorem Framing.Settled.after {f : F} (h : Settled f) (cs : List C) : Settled (after f cs) :=
  after_induction (fun _ c h => h.perform c) h cs

/-- The calls are answered by the requests that they make. -/
theorem Framing.Settled.bare {f : F} (h : Settled f) (cs : List C) :
    Framing.host (Machine.after f cs) = Machine.after (Framing.host f) (cs.flatMap (Framing.requests F)) ∧
      shown f cs = shown (Framing.host f) (cs.flatMap (Framing.requests F)) := by
  induction cs generalizing f with
  | nil => exact ⟨rfl, rfl⟩
  | cons c cs ih =>
      obtain ⟨-, hevents, hstate⟩ := Framing.answers h.drained c
      obtain ⟨hhost, hrest⟩ := ih (h.perform c)
      rw [hstate] at hhost hrest
      rw [after_cons, hhost, shown_cons, hevents, hrest, List.flatMap_cons, after_append, shown_append]
      exact ⟨rfl, rfl⟩

theorem Framing.Settled.counted {f : F} (h : Settled f) (hfree : (simulator f).isRunning = false)
    (cs : List C) :
    (history f cs).countP (·.response.reply = .accepted) =
      (history f cs).countP (·.response.reply.isFinished) +
        if (simulator (Machine.after f cs)).isRunning then 1 else 0 := by
  have hbalance := Machine.countP_balance (P := Settled) (·.response.reply = .accepted)
    (·.response.reply.isFinished) (fun _ => false)
    (fun f : F => if (simulator f).isRunning then 1 else 0) (fun _ c h => h.perform c)
    (fun f c h => by simpa using balance_perform h.drained h.live c) h cs
  simpa [hfree] using hbalance

/-- A call that has made another request before its advance has cancelled the session by it. -/
theorem Framing.cancel_of_requests {c : C} {r : R}
    (hc : Framing.requests F c = [r, Host.plain M .advance]) (m : M) :
    (Host.simulator (Machine.perform m r).state).session =
      (Host.simulator m).session.map Session.cancel := by
  rcases Framing.requests_cases (F := F) c with ⟨text, hc'⟩ | hc' | ⟨r', hc', hcancel⟩
  · simp [hc'] at hc
  · simp [hc'] at hc
  · rw [hc'] at hc
    obtain rfl : r' = r := (List.cons.inj hc).1
    exact hcancel m

/-- Such a call reports the run that it has cancelled, and leaves none. -/
theorem Framing.Settled.renewed {f : F} (h : Settled f) {c : C} {r : R}
    (hc : Framing.requests F c = [r, Host.plain M .advance]) :
    (Machine.perform f c).reply =
        .step (if (simulator f).isRunning then .finished .cancelled else .idle) ∧
      (simulator (Machine.perform f c).state).isRunning = false := by
  obtain ⟨hreply, hleft⟩ := perform_of_cancel h.drained h.live hc (cancel_of_requests hc _)
  refine ⟨hreply, ?_⟩
  rw [Simulator.isRunning, hleft]
  rfl

/-- From an empty log and no session on, the frames are faithful. -/
theorem Framing.faithful [Viewed M R W] {f : F} (hdrained : Framing.log f = .empty)
    (hnone : (simulator f).session = none) (cs : List C) :
    Framing.Faithful f (Framing.host f) cs := by
  have hstart : Settled f := ⟨hdrained, .of_none hnone⟩
  have hsettled := hstart.after cs
  obtain ⟨hhost, hevents⟩ := hstart.bare cs
  have hfree : (simulator f).isRunning = false := by
    rw [Simulator.isRunning, hnone]
    rfl
  refine
    { drained := hsettled.drained
      host_eq := ?host_eq
      lossless := ?lossless
      renewed := fun c r hc => hsettled.renewed hc
      accepted := ?accepted
      live := fun session hheld => (hsettled.live session hheld).2
      counted := hstart.counted hfree cs }
  case host_eq => rw [Viewed.askAll_eq, hhost]
  case lossless =>
    rw [Viewed.askAll_eq, hevents, Recording.events_replay]
    rfl
  case accepted =>
    intro c r hc c' text hc' f' hbegun
    rw [(perform_of_request (hsettled.perform c).drained hc').1]
    exact ((simulator f').perform_run_accepted_iff text).mpr ⟨(hsettled.renewed hc).2, hbegun⟩

end Framing

/-- **Frames lose nothing.**  Between the calls to the framed turtle, the framed panel or the framed
game the log is empty, and the frames so far hold all that the bare simulator has logged.  The run
that a reset or play cancels is reported in the frame of that call, so no call finds a run cancelled
and not yet reported, and each accepted run is one whose end was reported or the one in progress. -/
theorem frames_lose_nothing :
    (∀ cs : List Call, Framing.Faithful framedTurtle (Config.ofKind .turtle).turtleSimulator cs) ∧
      (∀ cs : List Call, Framing.Faithful framedPanel
        (.new .off (Config.ofKind .led).effectivePacing) cs) ∧
      ∀ (seed : UInt64) (cs : List GameCall), Framing.Faithful (FramedGame.ofSeed seed)
        (Game.ofConfig { Config.ofKind .game with seed := seed }) cs :=
  ⟨Framing.faithful rfl rfl, Framing.faithful rfl rfl, fun _ => Framing.faithful rfl rfl⟩

/-- The reset of a run that is in progress reports it in its own frame. -/
example : (after framedTurtle [.run "ANDA 1", .advance]).reset.1 =
    ⟨.finished .cancelled, [.render (Config.ofKind .turtle).turtle]⟩ := by
  decide +kernel

end StepScript
