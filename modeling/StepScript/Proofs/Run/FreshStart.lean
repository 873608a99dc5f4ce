import StepScript.Proofs.Run.Renewal
set_option autoImplicit false

/-!
# Runs: a fresh start

What a run does is settled by the world that it begins with, its script and its pacing.  A turtle is
taken home first, so of all that has been only the board, the win radius, the target and the pacing
set reach the run: neither the pose left by earlier runs does, nor a session that was cancelled and
is still held, nor the number of the runs so far.

Main statement: `turtle_runs_start_afresh`, which compares one run of two turtle simulators or games
with different pasts, request by request.
-/

namespace StepScript

open Machine

/-! ## Runs that are handled -/

/-- What is done with a run: it is advanced, its own token is used, or the pacing of the next run is
set meanwhile. -/
inductive Handling where
  | advance
  | setPacing (p : Pacing)
  | cancel
  deriving DecidableEq, Repr

/-- The request for it to a simulator that holds the run `own`. -/
def Handling.request (own : CancelToken) : Handling → Request
  | .advance => .advance
  | .setPacing p => .setPacing p
  | .cancel => .cancel own

theorem Handling.since_request (k : Nat) (own : CancelToken) (h : Handling) :
    (h.request own).since k = h.request ⟨own.run - k⟩ := by
  cases h <;> rfl

/-- A simulator without the number of its runs. -/
def Simulator.unnumbered {W : Type} (s : Simulator W) : Simulator W := { s with accepted := 0 }

section Host

variable {M R W : Type} [World W] [Host M R W]

/-- A response with the simulator that it leaves, whatever its host and the number of its runs. -/
def Host.outcome (r : Response M W) : Response (Simulator W) W :=
  r.map fun m => (Host.simulator m).unnumbered

/-- All that comes of handling the run `own` that is held in the state `m`. -/
def Host.handled (own : CancelToken) (m : M) (hs : List Handling) : List (Response (Simulator W) W) :=
  (history m (hs.map fun h => Host.plain M (h.request own))).map fun e => Host.outcome e.response

/-- Asked what simulators are asked, a host does what its simulator does. -/
theorem Host.history_plain (m : M) (rs : List Request) :
    (history m (rs.map (Host.plain M))).map (fun e => e.response.map Host.simulator) =
      (history (Host.simulator m) rs).map Exchange.response := by
  induction rs generalizing m with
  | nil => rfl
  | cons r rs ih =>
      have hfirst : (perform m (Host.plain M r)).map Host.simulator =
          perform (Host.simulator m) r := by
        rw [Host.perform_plain, Response.map, Response.map, Host.simulator_put]
        rfl
      have hstate := congrArg Response.state hfirst
      simp only [List.map_cons, history_cons, hfirst, ih]
      rw [← hstate]
      rfl

/-- **The number of a run makes no difference** to what comes of handling it. -/
theorem Host.handled_of_aged {m : M} {s : Simulator W} {k : Nat}
    (hm : Host.simulator m = s.aged k) (hnumbered : s.Numbered) (own : CancelToken)
    (hs : List Handling) :
    Host.handled own m hs = Host.handled ⟨own.run - k⟩ s hs := by
  have hhost := Host.history_plain m (hs.map (Handling.request own))
  have hfollows := hnumbered.follows k (hs.map (Handling.request own))
  have hsince : (hs.map (Handling.request own)).map (Request.since k) =
      hs.map (Handling.request ⟨own.run - k⟩) := by
    simp only [List.map_map, Function.comp_def, Handling.since_request]
  rw [hm, hfollows, hsince] at hhost
  calc Host.handled own m hs
      = ((history m ((hs.map (Handling.request own)).map (Host.plain M))).map
          fun e => e.response.map Host.simulator).map (Response.map Simulator.unnumbered) := by
        rw [List.map_map, List.map_map]
        rfl
    _ = ((history s (hs.map (Handling.request ⟨own.run - k⟩))).map
          fun e => e.response.map (Simulator.aged k)).map (Response.map Simulator.unnumbered) := by
        rw [hhost]
    _ = Host.handled ⟨own.run - k⟩ s hs := by
        rw [List.map_map]
        rfl

end Host

/-! ## The start of a run -/

/-- The first run of a simulator, begun with the world `w`. -/
def Simulator.firstRun {W : Type} (w : W) (script : Script) (p : Pacing) : Simulator W :=
  ⟨w, p, some (.new script p), 1⟩

theorem Simulator.numbered_firstRun {W : Type} (w : W) (script : Script) (p : Pacing) :
    (firstRun w script p).Numbered := nofun

/-- A run that is started is the first run, but for its number. -/
theorem Simulator.perform_run_of_begin? {W : Type} [World W] {s : Simulator W} {text : String} {w : W}
    (hfree : s.isRunning = false) (hbegun : World.begin? s.world (Script.parse text) = some w) :
    s.perform (.run text) =
      ⟨.accepted, [], (firstRun w (Script.parse text) s.pacing).aged s.accepted⟩ := by
  have hrun := run?_of_free hfree text
  rw [hbegun] at hrun
  exact perform_run_of_some hrun

/-- Two runs are one run: both are accepted, they start alike, and whatever is done with each of them
by its own token gives the same replies and events and leaves the same simulator. -/
structure Host.SameRun {M R M' R' W : Type} [World W] [Host M R W] [Host M' R' W]
    (run : Response M W) (run' : Response M' W) : Prop where
  accepted : run.reply = .accepted ∧ run'.reply = .accepted
  start : Host.outcome run = Host.outcome run'
  handled : ∃ own own', (Host.simulator run.state).token? = some own ∧
    (Host.simulator run'.state).token? = some own' ∧
    ∀ hs, Host.handled own run.state hs = Host.handled own' run'.state hs

section Host

variable {M R M' R' W : Type} [World W] [Host M R W] [Host M' R' W]

/-- What is done with a run that is started is what is done with the first run. -/
theorem Host.handled_run {m : M} {text : String} {w : W}
    (hfree : (Host.simulator m).isRunning = false)
    (hbegun : World.begin? (Host.simulator m).world (Script.parse text) = some w) :
    let run := perform m (Host.plain M (.run text))
    let first := Simulator.firstRun w (Script.parse text) (Host.simulator m).pacing
    run.reply = .accepted ∧ Host.outcome run = ⟨.accepted, [], first.unnumbered⟩ ∧
      ∃ own, (Host.simulator run.state).token? = some own ∧
        ∀ hs, Host.handled own run.state hs = Host.handled ⟨1⟩ first hs := by
  intro run first
  have hrun : run = ⟨.accepted, [], Host.put m (first.aged (Host.simulator m).accepted)⟩ := by
    rw [show run = _ from Host.perform_plain m (.run text),
      Simulator.perform_run_of_begin? hfree hbegun]
    rfl
  have hstate : Host.simulator run.state = first.aged (Host.simulator m).accepted := by
    rw [hrun, Host.simulator_put]
  refine ⟨by rw [hrun], ?_, ⟨(Host.simulator m).accepted + 1⟩, ?_, fun hs => ?_⟩
  · rw [Host.outcome, Response.map, hstate, hrun]
    rfl
  · rw [hstate]
    rfl
  · have hnumbered : first.Numbered := Simulator.numbered_firstRun _ _ _
    rw [Host.handled_of_aged hstate hnumbered, Nat.add_sub_cancel_left]

/-- **A run is settled** by the world that it begins with, the script and the pacing. -/
theorem Host.sameRun_of_begin? {m : M} {m' : M'} {text : String} {w : W}
    (hfree : (Host.simulator m).isRunning = false)
    (hfree' : (Host.simulator m').isRunning = false)
    (hbegun : World.begin? (Host.simulator m).world (Script.parse text) = some w)
    (hbegun' : World.begin? (Host.simulator m').world (Script.parse text) = some w)
    (hpacing : (Host.simulator m).pacing = (Host.simulator m').pacing) :
    Host.SameRun (perform m (Host.plain M (.run text))) (perform m' (Host.plain M' (.run text))) := by
  obtain ⟨haccepted, hstart, own, htoken, hhandled⟩ := Host.handled_run hfree hbegun
  obtain ⟨haccepted', hstart', own', htoken', hhandled'⟩ := Host.handled_run hfree' hbegun'
  refine ⟨⟨haccepted, haccepted'⟩, ?_, own, own', htoken, htoken', fun hs => ?_⟩
  · rw [hstart, hstart', hpacing]
  · rw [hhandled, hhandled', hpacing]

end Host

/-! ## Turtles -/

/-- Turtles that go home are the same where their boards, targets and win radii are. -/
theorem Turtle.goHome_congr {t t' : Turtle} (hguard : t.guard = t'.guard)
    (hradius : t.winRadius = t'.winRadius) (htarget : t.target = t'.target) :
    t.goHome = t'.goHome := by
  simp only [goHome, hguard, hradius, htarget]

/-- **Turtle runs start afresh.**  Where no run is active, all that a turtle simulator or a game
passes on to its next run is its board, its win radius, its target and its pacing: two that agree on
these start the same run, wherever their turtles stand and whatever was run, aborted or cancelled
before. -/
theorem turtle_runs_start_afresh {M R M' R' : Type} [Host M R Turtle] [Host M' R' Turtle] (m : M)
    (m' : M') (hfree : (Host.simulator m).isRunning = false)
    (hfree' : (Host.simulator m').isRunning = false)
    (hguard : (Host.simulator m).world.guard = (Host.simulator m').world.guard)
    (hradius : (Host.simulator m).world.winRadius = (Host.simulator m').world.winRadius)
    (htarget : (Host.simulator m).world.target = (Host.simulator m').world.target)
    (hpacing : (Host.simulator m).pacing = (Host.simulator m').pacing) (text : String) :
    Host.SameRun (perform m (Host.plain M (.run text)))
      (perform m' (Host.plain M' (.run text))) := by
  have hhome := Turtle.goHome_congr hguard hradius htarget
  exact Host.sameRun_of_begin? (w := (Host.simulator m).world.goHome) hfree hfree' rfl
    (congrArg some hhome.symm) hpacing

/-- A simulator whose turtle has been left on the board by a run that is cancelled and still held,
and a game that has seen a run aborted, start the same run. -/
theorem turtle_runs_start_afresh_after_cancel_and_abort :
    let s := after (Simulator.new (Turtle.new ⟨8, 0.001⟩ 0.5) .game)
      [.run "ANDA 3\nDIREITA 90", .advance, .advance, .cancel ⟨1⟩]
    let g := after (Game.ofConfig (Config.ofKind .game))
      [.plain (.run "ANDA 1\nANDA 20"), .plain .advance, .plain .advance, .plain .advance,
        .plain .advance, .plain .advance]
    s.world.pose ≠ g.simulator.world.pose ∧ s.session.isSome = true ∧ g.simulator.session = none ∧
      Host.SameRun (perform s (.run "ANDA 2\nTRAS 1"))
        (perform g (.plain (.run "ANDA 2\nTRAS 1"))) := by
  intro s g
  have hplaces : s.world.pose ≠ g.simulator.world.pose ∧ s.session.isSome = true ∧
      g.simulator.session = none := by decide +kernel
  have hfree : s.isRunning = false := by decide +kernel
  have hfree' : g.simulator.isRunning = false := by decide +kernel
  have hguard : s.world.guard = g.simulator.world.guard := by decide +kernel
  have hradius : s.world.winRadius = g.simulator.world.winRadius := by decide +kernel
  have htarget : s.world.target = g.simulator.world.target := by decide +kernel
  have hpacing : s.pacing = g.simulator.pacing := by decide +kernel
  -- From here on it is enough that the two agree.
  clear_value s g
  exact ⟨hplaces.1, hplaces.2.1, hplaces.2.2,
    turtle_runs_start_afresh s g hfree hfree' hguard hradius htarget hpacing _⟩

end StepScript
