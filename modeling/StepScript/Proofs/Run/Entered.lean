import StepScript.Panel.Basic
import StepScript.Proofs.Run.Stops
set_option autoImplicit false

/-!
# Runs: the lines that are entered

A line becomes active when it is entered, and only then.  So the lines that have become active since
a run was started are the first ones of its script, up to where its session has got to; a session
that has failed has got to its failed line.

Main statements: `Script.activatedLines_transcript`, for a run to the end;
`Simulator.perform_advance_of_active`, what becomes active is done; and `Host.RunsTo.entered`, for a
run from its request to its report, whatever else is asked in between.
-/

namespace StepScript

open Machine

/-! ## What becomes active -/

section Events

variable {W : Type}

theorem Recording.mem_activatedLines {r : Recording W} {line : Nat} :
    line ∈ r.activatedLines ↔ Event.active line true ∈ r.events := by
  rw [activatedLines, List.mem_filterMap]
  constructor
  · rintro ⟨e, he, hline⟩
    split at hline
    · rwa [← Option.some.inj hline]
    · cases hline
  · intro h
    exact ⟨_, h, rfl⟩

theorem Session.activatedLines_lead (s : Session) (w : W) :
    (⟨s.lead w⟩ : Recording W).activatedLines = [] := by
  unfold lead
  cases s.phase <;> rfl

theorem Passage.exists_of_isFailed {p : Passage W} (h : p.isFailed = true) :
    ∃ e, p = .failed e := by
  cases p with
  | blank => cases h
  | done w effect => cases h
  | failed e => exact ⟨e, rfl⟩

/-- A line that is entered becomes active, and only once. -/
theorem Passage.activatedLines_entered (line : Nat) (p : Passage W) :
    (⟨p.entered line⟩ : Recording W).activatedLines = [line] := by
  cases p with
  | blank => rfl
  | done w effect => cases effect <;> rfl
  | failed e => rfl

theorem Passage.activatedLines_events (line : Nat) (p : Passage W) :
    (⟨p.events line⟩ : Recording W).activatedLines = [line] := by
  have hafter : (⟨if p.isFailed then [] else [.active line false]⟩ :
      Recording W).activatedLines = [] := by
    cases p.isFailed <;> rfl
  rw [events, Recording.activatedLines_append, activatedLines_entered, hafter, List.append_nil]

theorem Passage.activatedLines_eventsFrom (line : Nat) (ps : List (Passage W)) :
    (⟨eventsFrom line ps⟩ : Recording W).activatedLines = List.range' line ps.length := by
  induction ps generalizing line with
  | nil => rfl
  | cons p ps ih =>
      rw [eventsFrom_cons, Recording.activatedLines_append, activatedLines_events, ih,
        List.length_cons, List.range'_succ, List.singleton_append]

variable [World W]

/-- The end of a run makes no line active. -/
theorem Ending.activatedLines_of (failure? : Option Nat) (w : W) :
    (⟨(Ending.of failure? w).events⟩ : Recording W).activatedLines = [] := by
  unfold Ending.of
  cases failure? with
  | some line => rfl
  | none => cases World.conclude? w <;> rfl

theorem Ending.failedLine_of_aborted {failure? : Option Nat} {w : W} {k : Nat}
    (h : (Ending.of failure? w).outcome = .aborted k) : failure? = some k := by
  cases failure? with
  | some line => exact congrArg some (Outcome.aborted.inj h)
  | none =>
      have hran := Ending.ranToEnd_of none w
      rw [h] at hran
      cases hran

/-- The lines that become active in a run to the end are the lines it enters, in order. -/
theorem Script.activatedLines_transcript (s : Script) (p : Pacing) (w : W) :
    (⟨(s.transcript p w).events⟩ : Recording W).activatedLines =
      List.range (Passage.ofLines w s.lines).length := by
  have hrender : (⟨[.render w]⟩ : Recording W).activatedLines = [] := rfl
  rw [transcript, ← List.singleton_append, Recording.activatedLines_append,
    Recording.activatedLines_append, hrender, Passage.activatedLines_eventsFrom,
    Ending.activatedLines_of, List.nil_append, List.append_nil, List.range_eq_range']

end Events

/-! ## One advance -/

section Simulator

variable {W : Type} [World W]

/-- **What becomes active is done.**  An advance that makes a line active does what the line says to
the world that it finds. -/
theorem Simulator.perform_advance_of_active {s : Simulator W} {line : Nat}
    (hactive : .active line true ∈ (s.perform .advance).events) :
    ∃ session l, s.session = some session ∧ session.cancelled = false ∧
      session.script.line? line = some l ∧ s.perform .advance =
        ⟨.step (.pause ((Passage.ofLine s.world l).pause session.pacing)),
          session.lead s.world ++ (Passage.ofLine s.world l).entered line,
          { s with
            world := (Passage.ofLine s.world l).worldAfter s.world
            session := some (session.afterPassage line (Passage.ofLine s.world l)) }⟩ := by
  have hmem : line ∈ (⟨(s.perform .advance).events⟩ : Recording W).activatedLines :=
    Recording.mem_activatedLines.mpr hactive
  cases s.advances with
  | idle _ hr => rw [hr] at hmem; cases hmem
  | done _ _ hr => rw [hr] at hmem; cases hmem
  | cancelled _ _ _ hr => rw [hr] at hmem; cases hmem
  | settle _ _ _ hr => rw [hr] at hmem; cases hmem
  | tail _ _ _ _ hr =>
      rw [hr] at hmem
      simp only [Session.activatedLines_lead] at hmem
      cases hmem
  | close _ _ _ _ hr =>
      rw [hr] at hmem
      simp only [Recording.activatedLines_append, Session.activatedLines_lead,
        Ending.activatedLines_of, List.append_nil] at hmem
      cases hmem
  | line hheld _ hlive hline hr =>
      rw [hr] at hmem
      simp only [Recording.activatedLines_append, Session.activatedLines_lead,
        Passage.activatedLines_entered, List.nil_append, List.mem_singleton] at hmem
      subst hmem
      exact ⟨_, _, hheld, hlive, hline, hr⟩

/-- Some world has the line fail. -/
def Script.FailsAt (W : Type) [World W] (script : Script) (line : Nat) : Prop :=
  ∃ l, script.line? line = some l ∧ ∃ (w : W) (e : InvalidMove), Passage.ofLine w l = .failed e

/-- The lines that have become active are those up to where the session has got to: its next line, or
its failed one. -/
structure Session.Counts (W : Type) [World W] (s : Session) (script : Script) (lines : List Nat) :
    Prop where
  script_eq : s.script = script
  running : s.failedLine = none → s.position ≤ s.script.lines.length ∧ lines = List.range s.position
  failed : ∀ k, s.failedLine = some k →
    s.remaining = [] ∧ lines = List.range (k + 1) ∧ script.FailsAt W k

namespace Session

variable {s : Session} {script : Script} {lines : List Nat}

theorem Counts.new (script : Script) (p : Pacing) : (Session.new script p).Counts W script [] :=
  ⟨rfl, fun _ => ⟨Nat.zero_le _, rfl⟩, nofun⟩

/-- Past its lines a session that has not failed has entered all of them. -/
theorem Counts.of_remaining_eq_nil (hcounts : s.Counts W script lines) (hend : s.remaining = [])
    (hunfailed : s.failedLine = none) : lines = List.range s.script.lines.length := by
  obtain ⟨hle, hlines⟩ := hcounts.running hunfailed
  have hge : s.script.lines.length ≤ s.position := List.drop_eq_nil_iff.mp hend
  rw [hlines, Nat.le_antisymm hle hge]

theorem Counts.settle (hcounts : s.Counts W script lines) (hphase : s.phase = .start) :
    ({ s with phase := .enter 0 } : Session).Counts W script lines := by
  have hposition : ({ s with phase := .enter 0 } : Session).position = s.position := by
    simp [position, hphase]
  have hremaining : ({ s with phase := .enter 0 } : Session).remaining = s.remaining := by
    rw [remaining, hposition, remaining]
  obtain ⟨hscript, hrunning, hfailed⟩ := hcounts
  exact ⟨hscript, by rwa [hposition], by rwa [hremaining]⟩

theorem Counts.tail (hcounts : s.Counts W script lines) (hend : s.remaining = []) :
    ({ s with phase := .conclude } : Session).Counts W script lines where
  script_eq := hcounts.script_eq
  running hunfailed := ⟨Nat.le_refl _, hcounts.of_remaining_eq_nil hend hunfailed⟩
  failed k hk := ⟨remaining_eq_nil_of_position rfl, (hcounts.failed k hk).2⟩

/-- A line counts once, whether it fails or not. -/
theorem Counts.line (hcounts : s.Counts W script lines) {l : Line} (w : W)
    (hline : s.script.line? s.position = some l) :
    (s.afterPassage s.position (Passage.ofLine w l)).Counts W script (lines ++ [s.position]) := by
  have hlt : s.position < s.script.lines.length := (List.getElem?_eq_some_iff.mp hline).1
  have hunfailed : s.failedLine = none := by
    cases hfailed : s.failedLine with
    | none => rfl
    | some k =>
        have hnil := (hcounts.failed k hfailed).1
        rw [remaining_eq_cons hline] at hnil
        cases hnil
  have hlines : lines ++ [s.position] = List.range (s.position + 1) := by
    rw [(hcounts.running hunfailed).2, List.range_succ]
  cases hp : (Passage.ofLine w l).isFailed with
  | true =>
      obtain ⟨e, he⟩ := Passage.exists_of_isFailed hp
      rw [afterPassage_of_failed hp]
      refine ⟨hcounts.script_eq, nofun, ?_⟩
      rintro k ⟨⟩
      have hline' : script.line? s.position = some l := by rwa [← hcounts.script_eq]
      exact ⟨remaining_eq_nil_of_position rfl, hlines, l, hline', w, e, he⟩
  | false =>
      rw [afterPassage_of_not_failed hp]
      refine ⟨hcounts.script_eq, fun _ => ⟨hlt, hlines⟩, ?_⟩
      intro k hk
      rw [show _ = none from hunfailed] at hk
      cases hk

end Session

/-- The session held counts, unless it has been cancelled. -/
def Simulator.Counts (s : Simulator W) (script : Script) (lines : List Nat) : Prop :=
  ∀ session, s.session = some session → session.cancelled = false →
    session.Counts W script lines

namespace Simulator

variable {s : Simulator W} {script : Script} {lines : List Nat}

theorem counts_of_none (hnone : s.session = none) : s.Counts script lines := by
  intro session hheld
  rw [hnone] at hheld
  cases hheld

theorem counts_of_cancel {s' : Simulator W} (hsession : s'.session = s.session.map Session.cancel) :
    s'.Counts script lines := by
  intro session hheld hlive
  rw [hsession, Option.map_eq_some_iff] at hheld
  obtain ⟨before, -, rfl⟩ := hheld
  cases hlive

/-- An advance counts what it makes active. -/
theorem Counts.advance (hcounts : s.Counts script lines) :
    (s.perform .advance).state.Counts script
      (lines ++ (⟨(s.perform .advance).events⟩ : Recording W).activatedLines) := by
  cases s.advances with
  | idle hnone hr => rw [hr]; exact counts_of_none hnone
  | done _ _ hr => rw [hr]; exact counts_of_none rfl
  | cancelled _ _ _ hr => rw [hr]; exact counts_of_none rfl
  | close _ _ _ _ hr => rw [hr]; exact counts_of_none rfl
  | settle hheld hlive hphase hr =>
      rw [hr]
      rintro _ ⟨⟩ -
      have hlines := (hcounts _ hheld hlive).settle hphase
      rwa [show (⟨[.render s.world]⟩ : Recording W).activatedLines = [] from rfl, List.append_nil]
  | tail hheld _ hlive hend hr =>
      rw [hr]
      rintro _ ⟨⟩ -
      have hlines := (hcounts _ hheld hlive).tail hend
      rwa [Session.activatedLines_lead, List.append_nil]
  | line hheld _ hlive hline hr =>
      rw [hr]
      rintro _ ⟨⟩ -
      have hlines := (hcounts _ hheld hlive).line s.world hline
      rwa [Recording.activatedLines_append, Session.activatedLines_lead,
        Passage.activatedLines_entered, List.nil_append]

/-- Whatever else a simulator is asked counts as well, as long as no other run is started. -/
theorem Counts.perform (hcounts : s.Counts script lines) {r : Request}
    (hsame : (s.perform r).reply ≠ .accepted) :
    (s.perform r).state.Counts script
      (lines ++ (⟨(s.perform r).events⟩ : Recording W).activatedLines) := by
  have hsilent : lines ++ (⟨[]⟩ : Recording W).activatedLines = lines := List.append_nil lines
  cases r with
  | advance => exact hcounts.advance
  | run text =>
      cases hrun : s.run? text with
      | none =>
          rw [perform_run_of_none hrun, hsilent]
          exact hcounts
      | some started =>
          rw [perform_run_of_some hrun] at hsame
          exact absurd rfl hsame
  | reset => exact counts_of_cancel (s := s) rfl
  | setPacing p =>
      change (s.setPacing p).Counts script (lines ++ (⟨[]⟩ : Recording W).activatedLines)
      rw [hsilent]
      exact hcounts
  | cancel t =>
      change (s.cancel t).Counts script (lines ++ (⟨[]⟩ : Recording W).activatedLines)
      rw [hsilent, Simulator.cancel]
      split
      · exact counts_of_cancel (s := s) rfl
      · exact hcounts

end Simulator

end Simulator

/-! ## Runs -/

/-- The lines that have become active in a history, in order. -/
def Exchange.activatedLines {S R W : Type} (h : List (Exchange S R W)) : List Nat :=
  (⟨h.flatMap (·.response.events)⟩ : Recording W).activatedLines

theorem Exchange.activatedLines_append {S R W : Type} (a b : List (Exchange S R W)) :
    activatedLines (a ++ b) = activatedLines a ++ activatedLines b := by
  rw [activatedLines, List.flatMap_append, Recording.activatedLines_append]
  rfl

theorem Exchange.activatedLines_singleton {S R W : Type} (x : Exchange S R W) :
    activatedLines [x] = (⟨x.response.events⟩ : Recording W).activatedLines := by
  rw [activatedLines, List.flatMap_singleton]

section Host

variable {M R W : Type} [World W] [Host M R W]

/-- Whatever a host is asked counts, as long as no other run is started. -/
theorem Host.counts_perform {m : M} {script : Script} {lines : List Nat}
    (hcounts : (Host.simulator m).Counts script lines) {r : R}
    (hsame : (Machine.perform m r).reply ≠ .accepted) :
    (Host.simulator (Machine.perform m r).state).Counts script
      (lines ++ (⟨(Machine.perform m r).events⟩ : Recording W).activatedLines) := by
  rcases Host.perform_other m r with ⟨q, rfl⟩ | ⟨target, w, hrestart⟩
  · rw [Host.perform_plain] at hsame ⊢
    rw [Response.map, Host.simulator_put]
    exact hcounts.perform hsame
  · rw [(Host.of_restart hrestart).2]
    exact Simulator.counts_of_cancel (s := Host.simulator m) rfl

/-- A line that an exchange makes active is a line of the script, and is done to the world that the
exchange found. -/
def Exchange.Does (script : Script) (x : Exchange M R W) : Prop :=
  ∀ line, .active line true ∈ x.response.events → ∃ l, script.line? line = some l ∧
    (Host.simulator x.response.state).world =
      (Passage.ofLine (Host.simulator x.before).world l).worldAfter (Host.simulator x.before).world

theorem Simulator.world_of_active {s : Simulator W} {script : Script} {lines : List Nat}
    (hcounts : s.Counts script lines) {r : Request} {line : Nat}
    (hactive : .active line true ∈ (s.perform r).events) :
    ∃ l, script.line? line = some l ∧
      (s.perform r).state.world = (Passage.ofLine s.world l).worldAfter s.world := by
  cases r with
  | advance =>
      obtain ⟨session, l, hheld, hlive, hline, hperform⟩ := perform_advance_of_active hactive
      rw [(hcounts session hheld hlive).script_eq] at hline
      rw [hperform]
      exact ⟨l, hline, rfl⟩
  | run text =>
      rcases s.perform_run_cases text with hr | ⟨w, -, hr⟩
      · rw [hr] at hactive
        cases hactive
      · rw [hr] at hactive
        cases hactive
  | reset => simp [perform, reset, Recording.empty] at hactive
  | setPacing p => cases hactive
  | cancel t => cases hactive

/-- Whatever a host is asked, it does the lines that it makes active. -/
theorem Host.does_perform {m : M} {script : Script} {lines : List Nat}
    (hcounts : (Host.simulator m).Counts script lines) (r : R) :
    (⟨m, r, Machine.perform m r⟩ : Exchange M R W).Does script := by
  intro line hactive
  change .active line true ∈ (Machine.perform m r).events at hactive
  rcases Host.perform_other m r with ⟨q, rfl⟩ | ⟨target, w, hrestart⟩
  · rw [Host.perform_plain] at hactive
    obtain ⟨l, hline, hworld⟩ := Simulator.world_of_active hcounts hactive
    refine ⟨l, hline, ?_⟩
    change (Host.simulator (Machine.perform m (Host.plain M q)).state).world = _
    rw [Host.perform_plain, Response.map, Host.simulator_put]
    exact hworld
  · rw [(Host.of_restart hrestart).1] at hactive
    simp [Simulator.restart] at hactive

/-- The run of a text from its request to the report of its end.  The requests in between may be any
that start no other run. -/
structure Host.RunsTo (m : M) (text : String) (rs : List R) (o : Outcome) : Prop where
  accepted : (Machine.perform m (Host.plain M (.run text))).reply = .accepted
  alone : ∀ x ∈ history (Machine.perform m (Host.plain M (.run text))).state rs,
    x.response.reply ≠ .accepted
  finished : (Machine.perform (after m (Host.plain M (.run text) :: rs))
    (Host.plain M .advance)).reply = .step (.finished o)

/-- The exchanges of a run of a text, with the request for it and the report of its end. -/
def Host.runHistory (m : M) (text : String) (rs : List R) : List (Exchange M R W) :=
  history m (Host.plain M (.run text) :: (rs ++ [Host.plain M .advance]))

/-- The lines that become active in it. -/
def Host.activatedLines (m : M) (text : String) (rs : List R) : List Nat :=
  Exchange.activatedLines (Host.runHistory m text rs)

/-- A run that has been accepted has a session that counts from nothing. -/
theorem Host.counts_of_accepted {m : M} {text : String}
    (haccepted : (Machine.perform m (Host.plain M (.run text))).reply = .accepted) :
    (Host.simulator (Machine.perform m (Host.plain M (.run text))).state).Counts
        (Script.parse text) [] ∧
      (Machine.perform m (Host.plain M (.run text))).events = [] := by
  rw [Host.perform_plain] at haccepted ⊢
  rw [Response.map, Host.simulator_put]
  rcases (Host.simulator m).perform_run_cases text with hr | ⟨w, -, hr⟩
  · rw [hr] at haccepted
    cases haccepted
  · rw [hr]
    refine ⟨?_, rfl⟩
    rintro _ ⟨⟩ -
    exact .new _ _

/-- Up to the report of its end a run does the lines it makes active, and its session counts them. -/
theorem Host.RunsTo.counts {m : M} {text : String} {rs : List R} {o : Outcome}
    (h : Host.RunsTo m text rs o) :
    (Host.simulator (after m (Host.plain M (.run text) :: rs))).Counts (Script.parse text)
        (Exchange.activatedLines (history m (Host.plain M (.run text) :: rs))) ∧
      ∀ x ∈ history m (Host.plain M (.run text) :: rs), x.Does (Script.parse text) := by
  obtain ⟨hnew, hsilent⟩ := Host.counts_of_accepted h.accepted
  have hfirst : Exchange.activatedLines (history m (Host.plain M (.run text) :: rs)) =
      Exchange.activatedLines
        (history (Machine.perform m (Host.plain M (.run text))).state rs) := by
    rw [history_cons, ← List.singleton_append, Exchange.activatedLines_append,
      Exchange.activatedLines_singleton, hsilent]
    rfl
  -- As far as the history has got without another run, the session counts.
  have hrest := history_induction (P := fun (hist : List (Exchange M R W)) (m : M) =>
    (∀ x ∈ hist, x.response.reply ≠ .accepted) →
      (Host.simulator m).Counts (Script.parse text) (Exchange.activatedLines hist) ∧
        ∀ x ∈ hist, x.Does (Script.parse text))
    (by
      intro hist m r hcounts halone
      obtain ⟨hbefore, hdone⟩ := hcounts fun x hx => halone x (List.mem_append_left _ hx)
      have hsame := halone _ (List.mem_append_right _ List.mem_cons_self)
      rw [Exchange.activatedLines_append, Exchange.activatedLines_singleton]
      refine ⟨Host.counts_perform hbefore hsame, ?_⟩
      intro x hx
      rcases List.mem_append.mp hx with hx | hx
      · exact hdone x hx
      · rw [List.mem_singleton.mp hx]
        exact Host.does_perform hbefore r)
    (fun _ => ⟨hnew, nofun⟩) rs h.alone
  rw [hfirst, after_cons]
  refine ⟨hrest.1, ?_⟩
  intro x hx
  rcases List.mem_cons.mp hx with rfl | hx
  · intro line hactive
    rw [show (⟨m, _, _⟩ : Exchange M R W).response.events = [] from hsilent] at hactive
    cases hactive
  · exact hrest.2 x hx

/-- The session of an accepted run is never held once it is done. -/
theorem Host.RunsTo.sessionOpen {m : M} {text : String} {rs : List R} {o : Outcome}
    (h : Host.RunsTo m text rs o) :
    (Host.simulator (after m (Host.plain M (.run text) :: rs))).SessionOpen := by
  have hstarted : (Host.simulator
      (Machine.perform m (Host.plain M (.run text))).state).SessionOpen := by
    cases Host.moves m (Host.plain M (.run text)) with
    | kept hreply _ _ _ _ => exact absurd h.accepted hreply
    | started _ _ _ _ hopen => exact hopen
    | ended hreply _ _ _ =>
        rw [h.accepted] at hreply
        cases hreply
  exact after_induction (P := fun m : M => (Host.simulator m).SessionOpen)
    Host.sessionOpen_perform hstarted rs

/-- The report of the end adds what the last advance makes active. -/
theorem Host.activatedLines_eq (m : M) (text : String) (rs : List R) :
    Host.activatedLines m text rs =
      Exchange.activatedLines (history m (Host.plain M (.run text) :: rs)) ++
        (⟨((Host.simulator (after m (Host.plain M (.run text) :: rs))).perform .advance).events⟩ :
          Recording W).activatedLines := by
  have hreport (m : M) : Exchange.activatedLines (history m [Host.plain M .advance]) =
      (⟨((Host.simulator m).perform .advance).events⟩ : Recording W).activatedLines := by
    rw [history_cons, history_nil, Exchange.activatedLines_singleton, Host.perform_plain]
    rfl
  rw [activatedLines, runHistory, ← List.cons_append, history_append,
    Exchange.activatedLines_append, hreport]

/-- **The lines of a run.**  If every line ran, all have become active, and if a line failed, all up to
this one; in order, and each of them once. -/
theorem Host.RunsTo.entered {m : M} {text : String} {rs : List R} {o : Outcome}
    (h : Host.RunsTo m text rs o) :
    (o.ranToEnd = true →
      Host.activatedLines m text rs = List.range (Script.parse text).lines.length) ∧
    ∀ k, o = .aborted k → (Script.parse text).FailsAt W k ∧
      Host.activatedLines m text rs = List.range (k + 1) := by
  have hcounts := h.counts.1
  have hopen := h.sessionOpen
  have hfinished := h.finished
  rw [Host.perform_plain] at hfinished
  rw [Host.activatedLines_eq]
  generalize Host.simulator (after m (Host.plain M (.run text) :: rs)) = s at *
  cases s.advances with
  | idle _ hr => rw [hr] at hfinished; cases hfinished
  | settle _ _ _ hr => rw [hr] at hfinished; cases hfinished
  | line _ _ _ _ hr => rw [hr] at hfinished; cases hfinished
  | tail _ _ _ _ hr => rw [hr] at hfinished; cases hfinished
  | done hheld hphase _ =>
      have hdone := hopen _ hheld
      rw [Session.isDone, hphase] at hdone
      cases hdone
  | cancelled _ _ _ hr =>
      rw [hr] at hfinished
      obtain rfl := Step.finished.inj (Reply.step.inj hfinished)
      constructor
      · intro hran
        cases hran
      · intro k hk
        cases hk
  | close hheld _ hlive hend hr =>
      have hsession := hcounts _ hheld hlive
      rw [hr] at hfinished
      obtain rfl := Step.finished.inj (Reply.step.inj hfinished)
      rw [hr, Recording.activatedLines_append, Session.activatedLines_lead,
        Ending.activatedLines_of, List.append_nil, List.append_nil, Ending.ranToEnd_of]
      constructor
      · intro hunfailed
        have hnone := Option.isNone_iff_eq_none.mp hunfailed
        rw [hsession.of_remaining_eq_nil hend hnone, hsession.script_eq]
      · intro k hk
        obtain ⟨-, hlines, hfails⟩ := hsession.failed k (Ending.failedLine_of_aborted hk)
        exact ⟨hfails, hlines⟩

/-- A run of the panel, with a change of pacing in between and another run that is refused. -/
example :
    let s := Simulator.new Panel.off .instant
    let rs := [.setPacing .led, .advance, .run "LIMPAR"]
    Host.RunsTo s "\nLIMPAR" (.advance :: rs) .completed ∧
      Host.activatedLines s "\nLIMPAR" (.advance :: rs) = [0, 1] :=
  ⟨⟨by decide +kernel, by decide +kernel, by decide +kernel⟩, by decide +kernel⟩

/-- A line that became active was done by an exchange of the run. -/
theorem Host.RunsTo.does {m : M} {text : String} {rs : List R} {o : Outcome}
    (h : Host.RunsTo m text rs o) {line : Nat} (hline : line ∈ Host.activatedLines m text rs) :
    ∃ x ∈ Host.runHistory m text rs, .active line true ∈ x.response.events ∧
      x.Does (Script.parse text) := by
  obtain ⟨hcounts, hdone⟩ := h.counts
  obtain ⟨x, hx, hactive⟩ := List.mem_flatMap.mp (Recording.mem_activatedLines.mp hline)
  refine ⟨x, hx, hactive, ?_⟩
  rw [runHistory, ← List.cons_append, history_append] at hx
  rcases List.mem_append.mp hx with hx | hx
  · exact hdone x hx
  · rw [history_cons, history_nil, List.mem_singleton] at hx
    rw [hx]
    exact Host.does_perform hcounts _

end Host

/-! ## Runs to the end -/

section Blocking

variable {W : Type} [World W]

/-- A drive that ends does nothing but advance: the last advance reports the end, and the drive shows
what the advances show. -/
theorem Simulator.exists_advances_of_drive {fuel : Nat} {s : Simulator W} {es : List (Event W)}
    {clock : Clock} {o : Outcome}
    (h : (s.drive fuel (⟨es⟩ : Recording W) clock).outcome = some o) :
    ∃ n, (∀ x ∈ history s (List.replicate n Request.advance), x.response.reply ≠ .accepted) ∧
      (Machine.perform (after s (List.replicate n Request.advance)) Request.advance).reply =
        .step (.finished o) ∧
      (s.drive fuel (⟨es⟩ : Recording W) clock).view.events =
        es ++ (history s (List.replicate (n + 1) Request.advance)).flatMap (·.response.events) := by
  induction fuel generalizing s es clock with
  | zero => cases h
  | succ fuel ih =>
      obtain ⟨step, hresponse, hadvance⟩ := s.advance_eq_perform (⟨es⟩ : Recording W)
      generalize hperform : s.perform .advance = response at hresponse hadvance
      obtain ⟨reply, shown, s'⟩ := response
      obtain rfl : reply = .step step := congrArg Response.reply hresponse
      replace hperform : Machine.perform s Request.advance = ⟨.step step, shown, s'⟩ := hperform
      rw [Recording.replay_eq] at hadvance
      simp only [drive, hadvance] at h ⊢
      cases step with
      | idle => cases h
      | finished o' =>
          obtain rfl := Option.some.inj h
          refine ⟨0, ?_, congrArg Response.reply hperform, ?_⟩
          · intro x hx
            rw [List.replicate_zero, history_nil] at hx
            cases hx
          · rw [List.replicate_one, history_cons, history_nil, List.flatMap_singleton, hperform]
      | pause d =>
          obtain ⟨n, hquiet, hfinished, hevents⟩ := ih h
          refine ⟨n + 1, ?_, ?_, ?_⟩
          · intro x hx
            rw [List.replicate_succ, history_cons, hperform] at hx
            rcases List.mem_cons.mp hx with rfl | hx
            · intro haccepted
              cases haccepted
            · exact hquiet x hx
          · rw [List.replicate_succ, after_cons, hperform]
            exact hfinished
          · rw [List.replicate_succ, history_cons, hperform, List.flatMap_cons, ← List.append_assoc]
            exact hevents

/-- **A run to the end is a run by advances alone**, and what it records is what they show. -/
theorem Simulator.runsTo_of_runBlocking {s : Simulator W} {text : String} {clock : Clock}
    {o : Outcome}
    (h : (s.runBlocking text (Recording.empty : Recording W) clock).outcome = some o) :
    ∃ n, Host.RunsTo s text (List.replicate n Request.advance) o ∧
      (s.runBlocking text (Recording.empty : Recording W) clock).view.events =
        (Host.runHistory s text (List.replicate n Request.advance)).flatMap
          (·.response.events) := by
  cases hrun : s.run? text with
  | none =>
      rw [runBlocking_of_none hrun] at h
      cases h
  | some started =>
      have hperform : Machine.perform s (Host.plain (Simulator W) (.run text)) =
          ⟨.accepted, [], started⟩ := perform_run_of_some hrun
      rw [runBlocking_of_some hrun] at h ⊢
      obtain ⟨n, hquiet, hfinished, hevents⟩ := exists_advances_of_drive h
      refine ⟨n, ⟨congrArg Response.reply hperform, ?_, ?_⟩, ?_⟩
      · rw [hperform]
        exact hquiet
      · rw [after_cons, hperform]
        exact hfinished
      · have hadvances : List.replicate n Request.advance ++ [Host.plain (Simulator W) .advance] =
            List.replicate (n + 1) Request.advance := List.replicate_succ'.symm
        rw [Host.runHistory, hadvances, history_cons, hperform, List.flatMap_cons]
        exact hevents

end Blocking

end StepScript
