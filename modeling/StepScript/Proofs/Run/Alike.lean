import Mathlib.Data.List.Forall2
import StepScript.Proofs.Game.Machine
import StepScript.Proofs.Run.Blocking
set_option autoImplicit false

/-!
# Runs: scripts that act alike

A world may not tell some lines apart.  Then it does not tell apart the scripts that are made of such
lines in the same places: sessions of the two stop at the same places, show the same events and leave
the same worlds, and so do the simulators and games that hold these sessions.

The relation on lines is a parameter.  `Alike` lifts it to scripts, sessions, turns and simulators,
where all else is equal; each request keeps it, and one induction over the requests makes this a
statement of histories.

Main statements: `Session.Alike.advance`, `Simulator.Alike.perform` and `Game.Alike.perform`, the
step; `Machine.responses_of_simulation`, the run; `Simulator.runBlocking_of_alike`, the run to the
end.
-/

namespace StepScript

open Machine

/-! ## Scripts -/

/-- Two scripts with related lines in the same places. -/
def Script.Alike (ρ : Line → Line → Prop) (s s' : Script) : Prop := List.Forall₂ ρ s.lines s'.lines

/-- The world does not tell related lines apart, nor scripts that are made of them. -/
structure World.Respects (W : Type) [World W] (ρ : Line → Line → Prop) : Prop where
  refl : ∀ l, ρ l l
  line : ∀ {l l' : Line}, ρ l l' → ∀ w : W, Passage.ofLine w l = Passage.ofLine w l'
  begin : ∀ {s s' : Script}, s.Alike ρ s' → ∀ w : W, World.begin? w s = World.begin? w s'

section Script

variable {W : Type} [World W] {ρ : Line → Line → Prop}

theorem World.Respects.script_refl (hρ : World.Respects W ρ) (s : Script) : s.Alike ρ s :=
  List.forall₂_same.mpr fun l _ => hρ.refl l

theorem Script.Alike.line?_cases {s s' : Script} (h : s.Alike ρ s') (index : Nat) :
    (s.line? index = none ∧ s'.line? index = none) ∨
      ∃ l l', s.line? index = some l ∧ s'.line? index = some l' ∧ ρ l l' := by
  obtain ⟨ls⟩ := s
  obtain ⟨ls'⟩ := s'
  change List.Forall₂ ρ ls ls' at h
  change (ls[index]? = none ∧ ls'[index]? = none) ∨
    ∃ l l', ls[index]? = some l ∧ ls'[index]? = some l' ∧ ρ l l'
  induction h generalizing index with
  | nil => exact .inl ⟨rfl, rfl⟩
  | cons hline _ ih =>
      cases index with
      | zero => exact .inr ⟨_, _, rfl, rfl, hline⟩
      | succ index => exact ih index

theorem Passage.ofLines_of_alike (hρ : World.Respects W ρ) {ls ls' : List Line}
    (h : List.Forall₂ ρ ls ls') (w : W) : ofLines w ls = ofLines w ls' := by
  induction h generalizing w with
  | nil => rfl
  | cons hline _ ih => rw [ofLines, ofLines, hρ.line hline, ih]

/-- Scripts that are alike have the same transcript. -/
theorem Script.Alike.transcript_eq (hρ : World.Respects W ρ) {s s' : Script} (h : s.Alike ρ s')
    (p : Pacing) (w : W) : s.transcript p w = s'.transcript p w := by
  rw [transcript, Passage.ofLines_of_alike hρ h, transcript]

end Script

/-! ## Sessions -/

/-- The same session on a script that is alike. -/
inductive Session.Alike (ρ : Line → Line → Prop) (s : Session) : Session → Prop where
  | mk {script : Script} (h : s.script.Alike ρ script) : Session.Alike ρ s { s with script := script }

/-- The same stop, at related lines if it is at a line. -/
inductive Stop.Alike (ρ : Line → Line → Prop) : Stop → Stop → Prop where
  | same (stop : Stop) : Stop.Alike ρ stop stop
  | line (index : Nat) {l l' : Line} (h : ρ l l') : Stop.Alike ρ (.line index l) (.line index l')

/-- The same turn, which leaves a session that is alike. -/
inductive Turn.Alike {W V : Type} (ρ : Line → Line → Prop) (t : Turn W V) : Turn W V → Prop where
  | mk {session : Session} (h : t.session.Alike ρ session) :
      Turn.Alike ρ t { t with session := session }

namespace Session.Alike

variable {ρ : Line → Line → Prop} {s s' : Session}

theorem isDone_eq (h : s.Alike ρ s') : s'.isDone = s.isDone := by
  cases h with
  | mk h => rfl

theorem cancelled_eq (h : s.Alike ρ s') : s'.cancelled = s.cancelled := by
  cases h with
  | mk h => rfl

theorem phase_eq (h : s.Alike ρ s') : s'.phase = s.phase := by
  cases h with
  | mk h => rfl

theorem cancel (h : s.Alike ρ s') : s.cancel.Alike ρ s'.cancel := by
  cases h with
  | mk h => exact .mk (s := s.cancel) h

theorem stopFrom (h : s.Alike ρ s') (index : Nat) :
    (s.stopFrom index).Alike ρ (s'.stopFrom index) := by
  cases h with
  | @mk script h =>
      rcases h.line?_cases index with ⟨hend, hend'⟩ | ⟨l, l', hline, hline', hl⟩
      · simp only [Session.stopFrom, hend, hend']
        exact .same _
      · simp only [Session.stopFrom, hline, hline']
        exact .line index hl

theorem stop (h : s.Alike ρ s') : s.stop.Alike ρ s'.stop := by
  have hfrom := h.stopFrom
  cases h with
  | @mk script h =>
      cases hphase : s.phase with
      | start =>
          simp only [Session.stop, hphase]
          split
          · exact hfrom 0
          · exact .same _
      | enter index =>
          simp only [Session.stop, hphase]
          exact hfrom index
      | leave index =>
          simp only [Session.stop, hphase]
          exact hfrom (index + 1)
      | tail =>
          simp only [Session.stop, hphase]
          exact .same _
      | conclude =>
          simp only [Session.stop, hphase]
          exact .same _
      | done o =>
          simp only [Session.stop, hphase]
          exact .same _

variable {W V : Type} [World W] [View V W] (hρ : World.Respects W ρ)
include hρ

theorem stopAt (h : s.Alike ρ s') {stop stop' : Stop} (hstop : stop.Alike ρ stop') (w : W) (v : V) :
    (s.stopAt w v stop).Alike ρ (s'.stopAt w v stop') := by
  cases h with
  | @mk script h =>
      cases hstop with
      | same stop => cases stop <;> exact .mk (.mk h)
      | line index hl =>
          simp only [Session.stopAt, hρ.line hl]
          exact .mk (.mk h)

/-- **One advance** of sessions that are alike. -/
theorem advance (h : s.Alike ρ s') (w : W) (v : V) :
    (s.advance w v).Alike ρ (s'.advance w v) := by
  cases hdone : s.isDone with
  | true =>
      obtain ⟨o, hphase⟩ := exists_of_isDone hdone
      rw [advance_of_done hphase, advance_of_done (h.phase_eq.trans hphase)]
      exact .mk (t := ⟨.finished o, s, w, v⟩) h
  | false =>
      cases hcancelled : s.cancelled with
      | true =>
          rw [advance_of_cancelled hdone hcancelled,
            advance_of_cancelled (h.isDone_eq.trans hdone) (h.cancelled_eq.trans hcancelled)]
          cases h with
          | mk h => exact .mk (.mk h)
      | false =>
          have hlead : s'.lead w = s.lead w := by
            cases h with
            | mk h => rfl
          rw [advance_of_live hdone hcancelled,
            advance_of_live (h.isDone_eq.trans hdone) (h.cancelled_eq.trans hcancelled), hlead]
          exact h.stopAt hρ h.stop w _

end Session.Alike

/-! ## Machines -/

/-- The same reply and the same events; the states after it are related. -/
structure Response.Alike {S W : Type} (sim : S → S → Prop) (r r' : Response S W) : Prop where
  reply : r.reply = r'.reply
  events : r.events = r'.events
  state : sim r.state r'.state

/-- What does not tell related states apart does not tell the responses apart. -/
theorem Response.Alike.map_eq {S T W : Type} {sim : S → S → Prop} {f : S → T}
    (hf : ∀ s s', sim s s' → f s = f s') {r r' : Response S W} (h : r.Alike sim r') :
    r.map f = r'.map f := by
  rw [Response.map, Response.map, h.reply, h.events, hf _ _ h.state]

theorem Response.Alike.map {S T W : Type} {sim : S → S → Prop} {sim' : T → T → Prop} {f f' : S → T}
    (hf : ∀ {s s' : S}, sim s s' → sim' (f s) (f' s')) {r r' : Response S W} (h : r.Alike sim r') :
    (r.map f).Alike sim' (r'.map f') :=
  ⟨h.reply, h.events, hf h.state⟩

/-- **A simulation**: where alike requests to related states get alike responses, they do so one
after the other, and whatever does not tell related states apart sees no difference. -/
theorem Machine.responses_of_simulation {S R W T : Type} [Machine S R W] {sim : S → S → Prop}
    {alike : R → R → Prop} {f : S → T} (hf : ∀ s s', sim s s' → f s = f s')
    (hstep : ∀ s s' r r', sim s s' → alike r r' → (perform s r).Alike sim (perform s' r'))
    {s s' : S} (hs : sim s s') {rs rs' : List R} (hrs : List.Forall₂ alike rs rs') :
    responses f s rs = responses f s' rs' := by
  induction hrs generalizing s s' with
  | nil => rfl
  | cons hr _ ih =>
      have hfirst := hstep s s' _ _ hs hr
      have hseen := hfirst.map_eq hf
      exact congrArg₂ List.cons hseen (ih hfirst.state)

/-! ## Simulators -/

/-- The same simulator, free or with a session that is alike. -/
inductive Simulator.Alike {W : Type} (ρ : Line → Line → Prop) : Simulator W → Simulator W → Prop where
  | free (w : W) (p : Pacing) (n : Nat) : Simulator.Alike ρ ⟨w, p, none, n⟩ ⟨w, p, none, n⟩
  | held {session session' : Session} (h : session.Alike ρ session') (w : W) (p : Pacing) (n : Nat) :
      Simulator.Alike ρ ⟨w, p, some session, n⟩ ⟨w, p, some session', n⟩

/-- The same request, with a text of a script that is alike if it is a run. -/
inductive Request.Alike (ρ : Line → Line → Prop) : Request → Request → Prop where
  | same (r : Request) : Request.Alike ρ r r
  | run {a b : String} (h : (Script.parse a).Alike ρ (Script.parse b)) :
      Request.Alike ρ (.run a) (.run b)

/-- Any list of requests is alike to itself. -/
theorem Request.alike_refl (ρ : Line → Line → Prop) (rs : List Request) :
    List.Forall₂ (Request.Alike ρ) rs rs :=
  List.forall₂_same.mpr fun r _ => .same r

namespace Simulator

variable {W : Type} {ρ : Line → Line → Prop} {s s' : Simulator W}

theorem Alike.isRunning_eq (h : s.Alike ρ s') : s'.isRunning = s.isRunning := by
  cases h with
  | free w p n => rfl
  | held h w p n => simp [isRunning, Session.isActive, h.isDone_eq, h.cancelled_eq]

theorem Alike.cancel (h : s.Alike ρ s') (t : CancelToken) : (s.cancel t).Alike ρ (s'.cancel t) := by
  cases h with
  | free w p n =>
      simp only [Simulator.cancel]
      split
      · exact .free w p n
      · exact .free w p n
  | held h w p n =>
      simp only [Simulator.cancel]
      split
      · exact .held h.cancel w p n
      · exact .held h w p n

variable [World W] (hρ : World.Respects W ρ)

/-- Play restarts simulators that are alike with the same world. -/
theorem Alike.restart (h : s.Alike ρ s') (target : Square) (w : W) :
    (s.restart target w).Alike (Simulator.Alike ρ) (s'.restart target w) := by
  cases h with
  | free was p n => exact ⟨rfl, rfl, .free w p n⟩
  | held h was p n => exact ⟨rfl, rfl, .held h.cancel w p n⟩

include hρ

theorem alike_refl (s : Simulator W) : s.Alike ρ s := by
  obtain ⟨w, p, session, n⟩ := s
  cases session with
  | none => exact .free w p n
  | some session => exact .held (.mk (hρ.script_refl session.script)) w p n

theorem Alike.perform_run (h : s.Alike ρ s') {a b : String}
    (htexts : (Script.parse a).Alike ρ (Script.parse b)) :
    (s.perform (.run a)).Alike (Simulator.Alike ρ) (s'.perform (.run b)) := by
  have hrunning := h.isRunning_eq
  cases hfree : s.isRunning with
  | true =>
      have ha := run?_of_running hfree a
      have hb := run?_of_running (hrunning.trans hfree) b
      rw [perform_run_of_none ha, perform_run_of_none hb]
      exact ⟨rfl, rfl, h⟩
  | false =>
      have ha := run?_of_free hfree a
      have hb := run?_of_free (hrunning.trans hfree) b
      have hworld : s'.world = s.world := by cases h <;> rfl
      rw [hworld, ← hρ.begin htexts s.world] at hb
      cases hbegun : World.begin? s.world (Script.parse a) with
      | none =>
          rw [hbegun] at ha hb
          rw [perform_run_of_none ha, perform_run_of_none hb]
          exact ⟨rfl, rfl, h⟩
      | some w =>
          rw [hbegun] at ha hb
          rw [perform_run_of_some ha, perform_run_of_some hb]
          have hnew (p : Pacing) : (Session.new (Script.parse a) p).Alike ρ
              (.new (Script.parse b) p) := .mk htexts
          cases h with
          | free was p n => exact ⟨rfl, rfl, .held (hnew p) w p (n + 1)⟩
          | held _ was p n => exact ⟨rfl, rfl, .held (hnew p) w p (n + 1)⟩

theorem Alike.perform_advance (h : s.Alike ρ s') :
    (s.perform .advance).Alike (Simulator.Alike ρ) (s'.perform .advance) := by
  cases h with
  | free w p n => exact ⟨rfl, rfl, .free w p n⟩
  | @held session session' h w p n =>
      have hturn := h.advance hρ w (Recording.empty : Recording W)
      generalize hfirst : session.advance w (Recording.empty : Recording W) = t at hturn
      generalize hsecond : session'.advance w (Recording.empty : Recording W) = t' at hturn
      obtain ⟨hleft⟩ := hturn
      simp only [perform, Simulator.advance, hfirst, hsecond]
      cases hstep : t.step with
      | pause d => exact ⟨rfl, rfl, .held hleft _ p n⟩
      | finished o => exact ⟨rfl, rfl, .free _ p n⟩
      | idle => exact ⟨rfl, rfl, .held hleft _ p n⟩

/-- **One request** to simulators that are alike. -/
theorem Alike.perform (h : s.Alike ρ s') {r r' : Request} (hr : r.Alike ρ r') :
    (s.perform r).Alike (Simulator.Alike ρ) (s'.perform r') := by
  cases hr with
  | run htexts => exact h.perform_run hρ htexts
  | same r =>
      cases r with
      | run text => exact h.perform_run hρ (hρ.script_refl _)
      | advance => exact h.perform_advance hρ
      | reset =>
          cases h with
          | free w p n => exact ⟨rfl, rfl, .free _ p n⟩
          | held h w p n => exact ⟨rfl, rfl, .held h.cancel _ p n⟩
      | setPacing p =>
          cases h with
          | free w was n => exact ⟨rfl, rfl, .free w p n⟩
          | held h w was n => exact ⟨rfl, rfl, .held h w p n⟩
      | cancel t => exact ⟨rfl, rfl, h.cancel t⟩

/-- Alike requests take a simulator through the same states, for whoever does not tell alike states
apart. -/
theorem responses_of_alike {T : Type} {f : Simulator W → T}
    (hf : ∀ s s', s.Alike ρ s' → f s = f s') (s : Simulator W) {rs rs' : List Request}
    (hrs : List.Forall₂ (Request.Alike ρ) rs rs') : responses f s rs = responses f s rs' :=
  responses_of_simulation hf (fun _ _ _ _ hs hr => hs.perform hρ hr) (alike_refl hρ s) hrs

/-- A run to the end leaves no session, so scripts that are alike come out the same. -/
theorem runBlocking_of_alike {V : Type} [View V W] (s : Simulator W) {a b : String}
    (htexts : (Script.parse a).Alike ρ (Script.parse b)) (v : V) (clock : Clock) :
    s.runBlocking a v clock = s.runBlocking b v clock := by
  have hbegun := hρ.begin htexts s.world
  cases hrunning : s.isRunning with
  | true =>
      rw [runBlocking_of_none (run?_of_running hrunning a),
        runBlocking_of_none (run?_of_running hrunning b)]
  | false =>
      have ha := run?_of_free hrunning a
      have hb := run?_of_free hrunning b
      rw [hbegun] at ha
      cases hbegunb : World.begin? s.world (Script.parse b) with
      | none =>
          rw [hbegunb] at ha hb
          rw [runBlocking_of_none ha, runBlocking_of_none hb]
      | some w =>
          rw [runBlocking_of_begun hrunning (hbegun.trans hbegunb),
            runBlocking_of_begun hrunning hbegunb,
            htexts.transcript_eq hρ]

end Simulator

/-! ## Games -/

/-- The same game around a simulator that is alike. -/
inductive Game.Alike (ρ : Line → Line → Prop) : Game → Game → Prop where
  | mk {s s' : Simulator Turtle} (h : s.Alike ρ s') (seed : UInt64) (generator : Generator) :
      Game.Alike ρ ⟨s, seed, generator⟩ ⟨s', seed, generator⟩

/-- The same request, with a text of a script that is alike if it is a run. -/
inductive GameRequest.Alike (ρ : Line → Line → Prop) : GameRequest → GameRequest → Prop where
  | play : GameRequest.Alike ρ .play .play
  | plain {r r' : Request} (h : r.Alike ρ r') : GameRequest.Alike ρ (.plain r) (.plain r')

theorem GameRequest.alike_refl (ρ : Line → Line → Prop) (rs : List GameRequest) :
    List.Forall₂ (GameRequest.Alike ρ) rs rs := by
  refine List.forall₂_same.mpr ?_
  intro r _
  cases r with
  | play => exact .play
  | plain r => exact .plain (.same r)

namespace Game

variable {ρ : Line → Line → Prop} (hρ : World.Respects Turtle ρ)
include hρ

/-- **One request** to games that are alike. -/
theorem Alike.perform {g g' : Game} (h : g.Alike ρ g') {r r' : GameRequest} (hr : r.Alike ρ r') :
    (g.perform r).Alike (Game.Alike ρ) (g'.perform r') := by
  cases h with
  | @mk s s' hs seed generator =>
      cases hr with
      | plain hr =>
          rw [perform_plain, perform_plain]
          exact (hs.perform hρ hr).map fun hs => .mk hs seed generator
      | play =>
          -- The target is drawn from the generator and the board, which are the same.
          have hworld : s'.world = s.world := by cases hs <;> rfl
          rw [perform_play, perform_play]
          simp only [nextTarget, hworld]
          exact (hs.restart _ _).map fun hs => .mk hs seed _

theorem responses_of_alike {T : Type} {f : Game → T} (hf : ∀ g g', g.Alike ρ g' → f g = f g')
    (g : Game) {rs rs' : List GameRequest} (hrs : List.Forall₂ (GameRequest.Alike ρ) rs rs') :
    responses f g rs = responses f g rs' :=
  responses_of_simulation hf (fun _ _ _ _ hg hr => hg.perform hρ hr)
    (.mk (Simulator.alike_refl hρ g.simulator) g.seed g.generator) hrs

theorem runBlocking_of_alike {V : Type} [View V Turtle] (g : Game) {a b : String}
    (htexts : (Script.parse a).Alike ρ (Script.parse b)) (v : V) (clock : Clock) :
    g.runBlocking a v clock = g.runBlocking b v clock := by
  have hsame := g.simulator.runBlocking_of_alike hρ htexts v clock
  rw [runBlocking, hsame, runBlocking]

end Game

end StepScript
