import StepScript.Proofs.Run.Bookkeeping
import StepScript.Proofs.Run.Cancellation
set_option autoImplicit false

/-!
# Runs: immunity

A run goes on by its advances and is ended by its own token, by a reset or by a restart.  Whatever
else is asked while it is underway disturbs it in nothing: other runs are refused, tokens of earlier
runs reach no session, and another pacing waits for the next run.

Main statement: `run_immune`, which compares the run that is disturbed, advance by advance, with the
run that is left alone.
-/

namespace StepScript

open Machine

/-! ## Disturbances -/

/-- Whether a request is one that a run under way does not heed: another run, another pacing, or the
use of a stale token. -/
def Request.Disturbs (stale : CancelToken → Prop) : Request → Prop
  | .run _ | .setPacing _ => True
  | .cancel t => stale t
  | .advance | .reset => False

/-- The reply to a disturbance. -/
def Request.dropped : Request → Reply
  | .run _ => .refused
  | _ => .done

/-- The pacing that a request sets. -/
def Request.pacing? : Request → Option Pacing
  | .setPacing p => some p
  | _ => none

/-- The pacing set last, if it was `p` before the requests. -/
def Pacing.setBy (p : Pacing) (rs : List Request) : Pacing :=
  rs.foldl (fun p r => r.pacing?.getD p) p

@[simp] theorem Pacing.setBy_nil (p : Pacing) : p.setBy [] = p := rfl

@[simp] theorem Pacing.setBy_cons (p : Pacing) (r : Request) (rs : List Request) :
    p.setBy (r :: rs) = (r.pacing?.getD p).setBy rs := rfl

namespace Simulator

variable {W : Type} [World W]

/-- An advance goes by the pacing of its session, and leaves that of the next run. -/
theorem perform_advance_setPacing (s : Simulator W) (p : Pacing) :
    (s.setPacing p).perform .advance = (s.perform .advance).map (·.setPacing p) := by
  obtain ⟨w, p₀, session, n⟩ := s
  cases session <;> rfl

/-- A disturbance changes at most the pacing of the next run. -/
theorem Underway.disturbed {n : Nat} {s : Simulator W} (h : s.Underway n)
    {stale : CancelToken → Prop} (hstale : ∀ t, stale t → t.run ≠ n) {q : Request}
    (hq : q.Disturbs stale) :
    s.perform q = ⟨q.dropped, [], s.setPacing (q.pacing?.getD s.pacing)⟩ := by
  cases q with
  | run text =>
      have hrunning : s.isRunning = true := s.isRunning_iff.mpr h.2
      exact perform_run_of_none (run?_of_running hrunning text)
  | setPacing p => rfl
  | cancel t =>
      have hother : t.run ≠ s.accepted := fun ht => hstale t hq (ht.trans h.1)
      rw [perform, Simulator.cancel, if_neg hother]
      rfl
  | advance => exact hq.elim
  | reset => exact hq.elim

/-- Whatever is asked, the pacing of the next run is the one that was set last. -/
theorem pacing_perform (s : Simulator W) (q : Request) :
    (s.perform q).state.pacing = q.pacing?.getD s.pacing := by
  cases q with
  | run text =>
      rcases s.perform_run_cases text with hr | ⟨w, -, hr⟩
      · rw [hr]; rfl
      · rw [hr]; rfl
  | advance =>
      rcases s.perform_advance_cases with ⟨-, hperform⟩ | ⟨_, _, _, _, _, -, -, -, -, hperform⟩ |
        ⟨_, _, _, _, _, -, -, -, hperform⟩
      · rw [hperform]; rfl
      · rw [hperform]; rfl
      · rw [hperform]; rfl
  | reset => rfl
  | setPacing p => rfl
  | cancel t =>
      change (s.cancel t).pacing = s.pacing
      rw [Simulator.cancel]
      split
      · rfl
      · rfl

/-- A run that is accepted goes by the pacing of the next run. -/
theorem session_of_accepted {s : Simulator W} {text : String}
    (haccepted : (s.perform (.run text)).reply = .accepted) :
    (s.perform (.run text)).state.session = some (.new (Script.parse text) s.pacing) := by
  rcases s.perform_run_cases text with hr | ⟨w, -, hr⟩
  · rw [hr] at haccepted
    cases haccepted
  · rw [hr]

end Simulator

/-! ## Disturbed runs -/

section Host

variable {M R W : Type} [World W] [Host M R W]

/-- What an advance reports, what it shows, and the world after it. -/
def Host.turn? (e : Exchange M R W) : Option (Step × List (Event W) × W) :=
  match e.response.reply with
  | .step step => some (step, e.response.events, (Host.simulator e.response.state).world)
  | _ => none

/-- The requests are advances and disturbances, and as many advances alone do not finish the run. -/
structure Host.Disturbed (stale : CancelToken → Prop) (m : M) (rs : List Request) : Prop where
  allowed : ∀ r ∈ rs, r = Request.advance ∨ r.Disturbs stale
  unfinished : ∀ e ∈ history m (List.replicate (rs.count Request.advance) (Host.plain M .advance)),
    e.response.reply.isFinished = false

/-- The run that is underway in the state `m` is not disturbed, as long as the tokens used are
stale. -/
structure Host.Immune (stale : CancelToken → Prop) (m : M) : Prop where
  /-- Up to the end of the run every advance reports and shows the same, and leaves the same
  world. -/
  turns : ∀ rs, Host.Disturbed stale m rs →
    let alone := List.replicate (rs.count Request.advance + 1) (Host.plain M .advance)
    (history m ((rs ++ [Request.advance]).map (Host.plain M))).filterMap Host.turn? =
      (history m alone).filterMap Host.turn?
  /-- A run is refused; nothing is shown, and nothing changes but the pacing of the next run. -/
  dropped : ∀ rs, Host.Disturbed stale m rs → ∀ q : Request, q.Disturbs stale →
    let m' := after m (rs.map (Host.plain M))
    Machine.perform m' (Host.plain M q) =
      ⟨q.dropped, [], Host.put m' ((Host.simulator m').setPacing
        (q.pacing?.getD (Host.simulator m').pacing))⟩
  /-- The next run that is accepted goes by the pacing set last. -/
  next : ∀ (rs : List Request) (rest : List R) text,
    (∀ r ∈ rest, ∀ p, r ≠ Host.plain M (.setPacing p)) →
    let m' := after m (rs.map (Host.plain M) ++ rest)
    (Machine.perform m' (Host.plain M (.run text))).reply = .accepted →
      (Host.simulator (Machine.perform m' (Host.plain M (.run text))).state).session =
        some (.new (Script.parse text) ((Host.simulator m).pacing.setBy rs))

/-- The same, but for the pacing of the next run. -/
def Host.Alike (m m' : M) : Prop :=
  ∃ p, Host.simulator m' = (Host.simulator m).setPacing p

/-- Alike states advance alike. -/
theorem Host.Alike.advance {m m' : M} (halike : Host.Alike m m') :
    (Machine.perform m' (Host.plain M .advance)).reply =
        (Machine.perform m (Host.plain M .advance)).reply ∧
      (Machine.perform m' (Host.plain M .advance)).events =
        (Machine.perform m (Host.plain M .advance)).events ∧
      Host.Alike (Machine.perform m (Host.plain M .advance)).state
        (Machine.perform m' (Host.plain M .advance)).state := by
  obtain ⟨p, hp⟩ := halike
  rw [Host.perform_plain, Host.perform_plain, hp, Simulator.perform_advance_setPacing]
  refine ⟨rfl, rfl, p, ?_⟩
  simp only [Response.map, Host.simulator_put]

/-- Alike states take the same turn. -/
theorem Host.Alike.turn?_eq {m m' : M} (halike : Host.Alike m m') :
    Host.turn? ⟨m', Host.plain M .advance, Machine.perform m' (Host.plain M .advance)⟩ =
      Host.turn? ⟨m, Host.plain M .advance, Machine.perform m (Host.plain M .advance)⟩ := by
  obtain ⟨hreply, hevents, p, hp⟩ := halike.advance
  simp only [Host.turn?, hreply, hevents, hp]
  rfl

/-- A run that an advance does not finish is still underway. -/
theorem Host.underway_advance {n : Nat} {m : M} (hunderway : (Host.simulator m).Underway n)
    (hunfinished : (Machine.perform m (Host.plain M .advance)).reply.isFinished = false) :
    (Host.simulator (Machine.perform m (Host.plain M .advance)).state).Underway n := by
  rw [Host.perform_plain, Response.map] at hunfinished ⊢
  rw [Host.simulator_put]
  rcases hunderway.advance with ⟨-, hgoes⟩ | ⟨hfinished, -⟩
  · exact hgoes
  · rw [hunfinished] at hfinished
    cases hfinished

section Disturbed

variable {n : Nat} {stale : CancelToken → Prop} (hstale : ∀ t, stale t → t.run ≠ n)
include hstale

/-- A disturbance takes no turn and leaves an alike state. -/
theorem Host.Alike.disturbed {m m' : M} (halike : Host.Alike m m')
    (hunderway : (Host.simulator m).Underway n) {q : Request} (hq : q.Disturbs stale) :
    Host.turn? ⟨m', Host.plain M q, Machine.perform m' (Host.plain M q)⟩ = none ∧
      Host.Alike m (Machine.perform m' (Host.plain M q)).state := by
  obtain ⟨p, hp⟩ := halike
  have hunderway' : (Host.simulator m').Underway n := by
    rw [hp]
    exact hunderway
  rw [Host.perform_plain, hunderway'.disturbed hstale hq, Response.map]
  refine ⟨?_, _, by rw [Host.simulator_put, hp]; rfl⟩
  cases q <;> rfl

/-- **Up to here.**  A disturbed run has taken the turns of the run that is left alone, and is still
underway in an alike state. -/
theorem Host.Alike.disturbed_run {m m' : M} (halike : Host.Alike m m')
    (hunderway : (Host.simulator m).Underway n) {rs : List Request}
    (hdisturbed : Host.Disturbed stale m rs) :
    let alone := List.replicate (rs.count Request.advance) (Host.plain M .advance)
    (history m' (rs.map (Host.plain M))).filterMap Host.turn? =
        (history m alone).filterMap Host.turn? ∧
      Host.Alike (after m alone) (after m' (rs.map (Host.plain M))) ∧
      (Host.simulator (after m alone)).Underway n := by
  induction rs generalizing m m' with
  | nil => exact ⟨rfl, halike, hunderway⟩
  | cons q rs ih =>
      have hallowed : ∀ r ∈ rs, r = Request.advance ∨ r.Disturbs stale :=
        fun r hr => hdisturbed.allowed r (List.mem_cons_of_mem _ hr)
      rcases hdisturbed.allowed q List.mem_cons_self with rfl | hq
      · -- Both runs advance.
        have hunfinished := hdisturbed.unfinished
        rw [List.count_cons_self, List.replicate_succ, history_cons, List.forall_mem_cons]
          at hunfinished
        have hstill := Host.underway_advance hunderway hunfinished.1
        have hrest := ih halike.advance.2.2 hstill ⟨hallowed, hunfinished.2⟩
        simp only [List.count_cons_self, List.replicate_succ, List.map_cons, history_cons,
          List.filterMap_cons, after_cons, halike.turn?_eq]
        exact ⟨by rw [hrest.1], hrest.2⟩
      · -- Only the disturbed run is asked.
        have hother : q ≠ Request.advance := by
          rintro rfl
          exact hq
        have hunfinished := hdisturbed.unfinished
        rw [List.count_cons_of_ne hother] at hunfinished ⊢
        obtain ⟨hturn, hafter⟩ := halike.disturbed hstale hunderway hq
        simp only [List.map_cons, history_cons, List.filterMap_cons, hturn, after_cons]
        exact ih hafter hunderway ⟨hallowed, hunfinished⟩

end Disturbed

/-! ## Pacing of the next run -/

theorem Host.pacing_perform_plain (m : M) (q : Request) :
    (Host.simulator (Machine.perform m (Host.plain M q)).state).pacing =
      q.pacing?.getD (Host.simulator m).pacing := by
  rw [Host.perform_plain, Response.map, Host.simulator_put]
  exact (Host.simulator m).pacing_perform q

theorem Host.pacing_after_plain (m : M) (rs : List Request) :
    (Host.simulator (after m (rs.map (Host.plain M)))).pacing =
      (Host.simulator m).pacing.setBy rs := by
  induction rs generalizing m with
  | nil => rw [List.map_nil, after_nil, Pacing.setBy_nil]
  | cons q rs ih =>
      rw [List.map_cons, after_cons, ih, Host.pacing_perform_plain, Pacing.setBy_cons]

/-- Nothing but setting it changes the pacing of the next run. -/
theorem Host.pacing_after (m : M) (rest : List R)
    (hunset : ∀ r ∈ rest, ∀ p, r ≠ Host.plain M (.setPacing p)) :
    (Host.simulator (after m rest)).pacing = (Host.simulator m).pacing := by
  induction rest generalizing m with
  | nil => rfl
  | cons r rest ih =>
      obtain ⟨hfirst, hrest⟩ := List.forall_mem_cons.mp hunset
      rw [after_cons, ih _ hrest]
      rcases Host.perform_other m r with ⟨q, rfl⟩ | ⟨target, w, hrestart⟩
      · rw [Host.pacing_perform_plain]
        cases q with
        | setPacing p => exact absurd rfl (hfirst p)
        | run text => rfl
        | advance => rfl
        | reset => rfl
        | cancel t => rfl
      · rw [(Host.of_restart hrestart).2]
        rfl

/-! ## Tokens of earlier runs -/

/-- The token was held at some time while the host was asked `earlier`. -/
def Host.TokenBefore (m : M) (earlier : List R) (t : CancelToken) : Prop :=
  ∃ a b, earlier = a ++ b ∧ (Host.simulator (after m a)).token? = some t

theorem Host.accepted_le_after (m : M) (rs : List R) :
    (Host.simulator m).accepted ≤ (Host.simulator (after m rs)).accepted := by
  induction rs generalizing m with
  | nil => exact Nat.le_refl _
  | cons r rs ih =>
      refine Nat.le_trans ?_ (ih (Machine.perform m r).state)
      cases Host.moves m r with
      | kept _ _ _ hnumber _ => exact Nat.le_of_eq hnumber.symm
      | started _ _ _ hnumber _ => omega
      | ended _ _ _ hnumber => exact Nat.le_of_eq hnumber.symm

/-- Tokens held earlier have smaller numbers than the next run. -/
theorem Host.TokenBefore.run_le {m : M} {earlier : List R} {t : CancelToken}
    (h : Host.TokenBefore m earlier t) : t.run ≤ (Host.simulator (after m earlier)).accepted := by
  obtain ⟨a, b, rfl, htoken⟩ := h
  obtain ⟨session, -, rfl⟩ := Option.map_eq_some_iff.mp htoken
  rw [after_append]
  exact Host.accepted_le_after (after m a) b

/-- A run that is underway is immune to tokens other than its own. -/
theorem Host.immune {n : Nat} {m : M} (hunderway : (Host.simulator m).Underway n)
    {stale : CancelToken → Prop} (hstale : ∀ t, stale t → t.run ≠ n) : Host.Immune stale m where
  turns rs hdisturbed := by
    have halike : Host.Alike m m := ⟨(Host.simulator m).pacing, rfl⟩
    obtain ⟨hturns, hafter, -⟩ := halike.disturbed_run hstale hunderway hdisturbed
    have hlast := hafter.turn?_eq
    change _ = (history m (List.replicate (rs.count Request.advance + 1) _)).filterMap _
    rw [List.map_append, history_append, List.filterMap_append, hturns,
      ← List.replicate_append_replicate, history_append, List.filterMap_append]
    simp only [List.map_cons, List.map_nil, List.replicate_one, history_cons, history_nil,
      List.filterMap_cons, List.filterMap_nil, hlast]
  dropped rs hdisturbed q hq := by
    have halike : Host.Alike m m := ⟨(Host.simulator m).pacing, rfl⟩
    obtain ⟨-, ⟨p, hp⟩, hstill⟩ := halike.disturbed_run hstale hunderway hdisturbed
    have hunderway' : (Host.simulator (after m (rs.map (Host.plain M)))).Underway n := by
      rw [hp]
      exact hstill
    intro m'
    rw [Host.perform_plain, hunderway'.disturbed hstale hq, Response.map]
  next rs rest text hunset haccepted := by
    rw [Host.perform_plain, Response.map] at haccepted ⊢
    rw [Host.simulator_put, Simulator.session_of_accepted haccepted, after_append,
      Host.pacing_after _ rest hunset, Host.pacing_after_plain]

/-- A run that was accepted is immune to the tokens held before. -/
theorem Host.immune_of_accepted {m : M} {earlier : List R} {text : String}
    (haccepted : (Machine.perform (after m earlier) (Host.plain M (.run text))).reply = .accepted) :
    Host.Immune (Host.TokenBefore m earlier)
      (Machine.perform (after m earlier) (Host.plain M (.run text))).state := by
  rw [Host.perform_plain, Response.map] at haccepted ⊢
  cases hrun : (Host.simulator (after m earlier)).run? text with
  | none =>
      rw [Simulator.perform_run_of_none hrun] at haccepted
      cases haccepted
  | some started =>
      rw [Simulator.perform_run_of_some hrun]
      have hunderway := Simulator.Underway.of_run? hrun
      obtain ⟨-, w, -, rfl⟩ := (Simulator.run?_eq_some_iff _ text started).mp hrun
      refine Host.immune (n := (Host.simulator (after m earlier)).accepted + 1) ?_ ?_
      · rw [Host.simulator_put]
        exact hunderway
      · intro t ht heq
        have hle := ht.run_le
        omega

end Host

/-- **A run under way is immune**, in any world and in the game, to whatever is not an advance, its
own token, a reset or a restart: to the runs refused meanwhile, to the pacing set, which the next run
goes by, and to the tokens of earlier runs. -/
theorem run_immune :
    (∀ {W : Type} [World W] (w : W) (p : Pacing) (earlier : List Request) (text : String),
      let s := Simulator.new w p
      (perform (after s earlier) (.run text)).reply = .accepted →
        Host.Immune (Host.TokenBefore s earlier) (perform (after s earlier) (.run text)).state) ∧
      ∀ (c : Config) (earlier : List GameRequest) (text : String),
        let g := Game.ofConfig c
        (perform (after g earlier) (.plain (.run text))).reply = .accepted →
          Host.Immune (Host.TokenBefore g earlier)
            (perform (after g earlier) (.plain (.run text))).state :=
  ⟨fun _ _ _ _ haccepted => Host.immune_of_accepted haccepted,
    fun _ _ _ haccepted => Host.immune_of_accepted haccepted⟩

/-- After a run that was cancelled and replaced: another run, another pacing and the old token
between the advances leave the turns of a run of two lines as they are. -/
theorem run_immune_to_cancelled_run :
    let s := Simulator.new (Turtle.new ⟨8, 0.001⟩ 0.5) .turtle
    let earlier : List Request := [.run "ANDA 1", .cancel ⟨1⟩]
    let run := perform (after s earlier) (Request.run "ANDA 1\nANDA 1")
    run.reply = .accepted ∧ Host.TokenBefore s earlier ⟨1⟩ ∧
      (history run.state [.run "TRAS 1", .advance, .setPacing .instant, .cancel ⟨1⟩, .advance,
          .advance]).filterMap Host.turn? =
        (history run.state (List.replicate 3 Request.advance)).filterMap Host.turn? := by
  intro s earlier run
  have haccepted : run.reply = .accepted := rfl
  have htoken : Host.TokenBefore s earlier ⟨1⟩ := ⟨[.run "ANDA 1"], [.cancel ⟨1⟩], rfl, rfl⟩
  have himmune :=
    run_immune.1 (Turtle.new ⟨8, 0.001⟩ 0.5) .turtle earlier "ANDA 1\nANDA 1" haccepted
  refine ⟨haccepted, htoken, himmune.turns [.run "TRAS 1", .advance, .setPacing .instant,
    .cancel ⟨1⟩, .advance] ⟨?_, by decide +kernel⟩⟩
  intro r hr
  simp only [List.mem_cons, List.not_mem_nil, or_false] at hr
  rcases hr with rfl | rfl | rfl | rfl | rfl
  · exact .inr trivial
  · exact .inl rfl
  · exact .inr trivial
  · exact .inr htoken
  · exact .inl rfl

end StepScript
