import StepScript.Panel.Basic
import StepScript.Proofs.Board.Moves
import StepScript.Proofs.Game.Machine
import StepScript.Proofs.Run.Stops
set_option autoImplicit false

/-!
# Views: the world shown last

A view is up to date if the world that it was shown last is the world as it is.  Whatever changes
the world shows it at once, but for the start of a run: that makes the world ready, and leaves it to
the first advance to show it.  A run that is cancelled before has no such advance.

Main statements: `view_shows_world`, by which a pause, the end of a run and a restart leave the view
up to date, unless a run ended before its first advance, and `view_stale_of_early_cancel`, a run that
did.
-/

namespace StepScript

open Machine

/-! ## Worlds shown -/

namespace Event

variable {W : Type}

/-- The world that events show last, if they show any. -/
def lastShown? (es : List (Event W)) : Option W := (⟨es⟩ : Recording W).renders.getLast?

@[simp] theorem lastShown?_nil : lastShown? ([] : List (Event W)) = none := rfl

theorem lastShown?_append (a b : List (Event W)) :
    lastShown? (a ++ b) = (lastShown? b).or (lastShown? a) := by
  simp [lastShown?, Recording.renders, List.getLast?_append]

end Event

namespace Exchange

variable {S R W : Type}

/-- The world that a history shows last, if it shows any. -/
def lastShown? (h : List (Exchange S R W)) : Option W :=
  Event.lastShown? (h.flatMap (·.response.events))

theorem lastShown?_append (h : List (Exchange S R W)) (x : Exchange S R W) :
    lastShown? (h ++ [x]) = (Event.lastShown? x.response.events).or (lastShown? h) := by
  simp [lastShown?, Event.lastShown?_append]

theorem lastShown?_append_of_silent (h : List (Exchange S R W)) {x : Exchange S R W}
    (hsilent : x.response.events = []) : lastShown? (h ++ [x]) = lastShown? h := by
  rw [lastShown?_append, hsilent, Event.lastShown?_nil, Option.none_or]

end Exchange

/-- A command that changes the world says so. -/
def World.TellsChanges (W : Type) [World W] : Prop :=
  ∀ (w : W) c w' effect, World.apply w c = .ok (w', effect) → effect ≠ .changed → w' = w

theorem Turtle.tellsChanges : World.TellsChanges Turtle := by
  intro t c t' effect happly hunchanged
  rw [world_apply] at happly
  rcases apply_cases happly with ⟨x, y, hchanged, -, -⟩ | ⟨degrees, hchanged, -⟩ | ⟨-, hsame⟩
  · exact absurd hchanged hunchanged
  · exact absurd hchanged hunchanged
  · exact hsame

theorem Panel.tellsChanges : World.TellsChanges Panel := by
  intro p c p' effect happly hunchanged
  rw [world_apply] at happly
  have hleft : p.apply c = (p', effect) := Except.ok.inj happly
  cases c with
  | switch lamp on =>
      simp only [apply] at hleft
      cases hset : p.set? lamp on with
      | none =>
          rw [hset] at hleft
          exact (Prod.mk.inj hleft).1.symm
      | some switched =>
          rw [hset] at hleft
          exact absurd (Prod.mk.inj hleft).2.symm hunchanged
  | clear => exact absurd (Prod.mk.inj hleft).2.symm hunchanged
  | wait d => cases d <;> exact (Prod.mk.inj hleft).1.symm
  | invalid => exact (Prod.mk.inj hleft).1.symm
  | noop => exact (Prod.mk.inj hleft).1.symm

/-! ## Advances -/

section Advance

variable {W : Type}

/-- The first advance of a session shows the world on its way. -/
theorem Session.lastShown?_lead {session : Session} {w : W} {shown : Option W}
    (hshown : shown = some w ∨ session.phase = .start) :
    (Event.lastShown? (session.lead w)).or shown = some w := by
  rcases hshown with rfl | hphase
  · cases hphase : session.phase <;> simp only [lead, hphase] <;> rfl
  · simp only [lead, hphase]
    rfl

variable [World W]

/-- What a line shows last is the world that it leaves, if it changes the world. -/
theorem Passage.lastShown?_entered (htells : World.TellsChanges W) (w : W) (l : Line)
    (index : Nat) :
    (Event.lastShown? ((ofLine w l).entered index)).or (some w) =
      some ((ofLine w l).worldAfter w) := by
  unfold ofLine
  split
  · rfl
  · cases happly : World.apply w (World.decode l) with
    | error e => rfl
    | ok left =>
        obtain ⟨w', effect⟩ := left
        cases effect with
        | changed => rfl
        | idle =>
            obtain rfl := htells w _ w' _ happly nofun
            rfl
        | wait d =>
            obtain rfl := htells w _ w' _ happly nofun
            rfl

/-- What the end of a run shows last is the world that it leaves, if it is judged. -/
theorem Ending.lastShown?_events (failure? : Option Nat) (w : W) :
    (Event.lastShown? (Ending.of failure? w).events).or (some w) =
      some (Ending.of failure? w).world := by
  unfold Ending.of
  cases failure? with
  | some line => rfl
  | none =>
      cases World.conclude? w with
      | none => rfl
      | some judged => rfl

/-- What an advance leaves, if the view was up to date or is to be shown the world for the first
time: there is no session, or the view is up to date, or a session is dropped that was cancelled. -/
theorem Simulator.lastShown?_advance (htells : World.TellsChanges W) {s : Simulator W}
    {shown : Option W}
    (hshown : ∀ session, s.session = some session → shown = some s.world ∨ session.phase = .start) :
    s.perform .advance = ⟨.step .idle, [], s⟩ ∧ s.session = none ∨
      (Event.lastShown? (s.perform .advance).events).or shown =
        some (s.perform .advance).state.world ∨
      s.perform .advance = ⟨.step (.finished .cancelled), [], { s with session := none }⟩ := by
  cases s.advances with
  | idle hnone hr => exact .inl ⟨hr, hnone⟩
  | cancelled _ _ _ hr => exact .inr (.inr hr)
  | @done session o hheld hphase hr =>
      rcases hshown session hheld with hcurrent | hstart
      · rw [hr]
        exact .inr (.inl hcurrent)
      · rw [hphase] at hstart
        cases hstart
  | settle _ _ _ hr =>
      rw [hr]
      exact .inr (.inl rfl)
  | @line session l hheld _ _ _ hr =>
      rw [hr]
      refine .inr (.inl ?_)
      rw [Event.lastShown?_append, Option.or_assoc, Session.lastShown?_lead (hshown session hheld)]
      exact Passage.lastShown?_entered htells s.world l session.position
  | @tail session hheld _ _ _ hr =>
      rw [hr]
      exact .inr (.inl (Session.lastShown?_lead (hshown session hheld)))
  | @close session hheld _ _ _ hr =>
      rw [hr]
      refine .inr (.inl ?_)
      rw [Event.lastShown?_append, Option.or_assoc, Session.lastShown?_lead (hshown session hheld)]
      exact Ending.lastShown?_events session.failedLine s.world

/-- A session that is reported cancelled shows nothing, and is dropped. -/
theorem Simulator.perform_of_reported_cancelled {s : Simulator W}
    (hcancelled : (s.perform .advance).reply = .step (.finished .cancelled)) :
    s.perform .advance = ⟨.step (.finished .cancelled), [], { s with session := none }⟩ := by
  cases s.advances with
  | cancelled _ _ _ hr => exact hr
  | @done session o hheld hphase hr =>
      rw [hr] at hcancelled
      obtain rfl : o = .cancelled := by simpa using hcancelled
      exact hr
  | @close session _ _ _ _ hr =>
      -- A run that closes is completed, judged or aborted.
      rw [hr] at hcancelled
      have hended : (Ending.of session.failedLine s.world).outcome = .cancelled := by
        simpa using hcancelled
      unfold Ending.of at hended
      split at hended
      · cases hended
      · split at hended
        · cases hended
        · next verdict w' _ => cases verdict <;> cases hended
  | idle _ hr => rw [hr] at hcancelled; cases hcancelled
  | settle _ _ _ hr => rw [hr] at hcancelled; cases hcancelled
  | line _ _ _ _ hr => rw [hr] at hcancelled; cases hcancelled
  | tail _ _ _ _ hr => rw [hr] at hcancelled; cases hcancelled

end Advance

/-! ## Hosts -/

section Host

variable {W M R : Type} [World W] [Host M R W]

/-- The last run of a history waits for its first advance.  The world is the one that was made ready
for it, and nothing has been shown since. -/
def Host.Unadvanced (h : List (Exchange M R W)) (m : M) : Prop :=
  ∃ before x since text, h = before ++ x :: since ∧
    x.request = Host.plain M (.run text) ∧ x.response.reply = .accepted ∧
      World.begin? (Host.simulator x.before).world (Script.parse text) =
        some (Host.simulator m).world ∧
      Exchange.lastShown? h = Exchange.lastShown? before ∧
        ∀ y ∈ since, ∃ q : Request, y.request = Host.plain M q ∧ q.isAside = true

/-- After the history `h` and then the request `r` in the state `m`, the world shown last is the
world. -/
def Host.UpToDate (h : List (Exchange M R W)) (m : M) (r : R) : Prop :=
  Exchange.lastShown? (h ++ [⟨m, r, Machine.perform m r⟩]) =
    some (Host.simulator (Machine.perform m r).state).world

/-- How a host that is in the state `m` after the history `h` keeps its view up to date. -/
structure Host.ShowsWorld (h : List (Exchange M R W)) (m : M) : Prop where
  paused : ∀ d, (Machine.perform m (Host.plain M .advance)).reply = .step (.pause d) →
    Host.UpToDate h m (Host.plain M .advance)
  finished : ∀ o, (Machine.perform m (Host.plain M .advance)).reply = .step (.finished o) →
    o ≠ .cancelled → Host.UpToDate h m (Host.plain M .advance)
  /-- A run that is reported cancelled shows nothing and leaves the world.  It leaves the view up to
  date, unless it has waited for its first advance until now. -/
  cancelled : (Machine.perform m (Host.plain M .advance)).reply = .step (.finished .cancelled) →
    (Machine.perform m (Host.plain M .advance)).events = [] ∧
      (Host.simulator (Machine.perform m (Host.plain M .advance)).state).world =
        (Host.simulator m).world ∧
      (Host.UpToDate h m (Host.plain M .advance) ∨ Host.Unadvanced h m)
  reset : Host.UpToDate h m (Host.plain M .reset)
  /-- Any other request restarts the simulator. -/
  restarted : ∀ r : R, (∀ q, r ≠ Host.plain M q) → Host.UpToDate h m r

/-- While a session is held the view is up to date, or the session waits for its first advance. -/
def Host.Abreast (h : List (Exchange M R W)) (m : M) : Prop :=
  ∀ session, (Host.simulator m).session = some session →
    Exchange.lastShown? h = some (Host.simulator m).world ∨
      session.phase = .start ∧ Host.Unadvanced h m

/-- A run that has just been started waits for its first advance. -/
theorem Host.unadvanced_of_accepted (h : List (Exchange M R W)) {m : M} {text : String}
    {started : Simulator W} (haccepted : (Host.simulator m).run? text = some started) :
    Host.Unadvanced
      (h ++ [⟨m, Host.plain M (.run text), Machine.perform m (Host.plain M (.run text))⟩])
      (Machine.perform m (Host.plain M (.run text))).state := by
  have hresponse : Machine.perform m (Host.plain M (.run text)) =
      ⟨.accepted, [], Host.put m started⟩ := by
    rw [Host.perform_plain, Simulator.perform_run_of_some haccepted]
    rfl
  obtain ⟨-, w, hbegun, rfl⟩ := (Simulator.run?_eq_some_iff _ text started).mp haccepted
  rw [hresponse]
  refine ⟨h, _, [], text, rfl, rfl, rfl, ?_, Exchange.lastShown?_append_of_silent h rfl, by simp⟩
  rw [Host.simulator_put]
  exact hbegun

/-- It waits on while requests leave the world and the view alone. -/
theorem Host.Unadvanced.aside {h : List (Exchange M R W)} {m : M} (hwaits : Host.Unadvanced h m)
    {x : Exchange M R W} {q : Request} (hplain : x.request = Host.plain M q)
    (haside : q.isAside = true) (hsilent : x.response.events = []) {m' : M}
    (hworld : (Host.simulator m').world = (Host.simulator m).world) :
    Host.Unadvanced (h ++ [x]) m' := by
  obtain ⟨before, e, since, text, hsplit, hrun, haccepted, hbegun, hshown, hsince⟩ := hwaits
  refine ⟨before, e, since ++ [x], text, by simp [hsplit], hrun, haccepted, ?_, ?_, ?_⟩
  · rw [hworld]
    exact hbegun
  · rw [Exchange.lastShown?_append_of_silent h hsilent]
    exact hshown
  · intro y hy
    rcases List.mem_append.mp hy with hy | hy
    · exact hsince y hy
    · obtain rfl := List.mem_singleton.mp hy
      exact ⟨q, hplain, haside⟩

/-- A request that shows nothing and leaves the world and the phase of the session keeps abreast. -/
theorem Host.Abreast.aside {h : List (Exchange M R W)} {m : M} (habreast : Host.Abreast h m)
    {q : Request} (haside : q.isAside = true) {reply : Reply} {s' : Simulator W}
    (hr : (Host.simulator m).perform q = ⟨reply, [], s'⟩)
    (hworld : s'.world = (Host.simulator m).world)
    (hsession : s'.session = (Host.simulator m).session ∨
      s'.session = (Host.simulator m).session.map Session.cancel) :
    Host.Abreast (h ++ [⟨m, Host.plain M q, Machine.perform m (Host.plain M q)⟩])
      (Machine.perform m (Host.plain M q)).state := by
  rw [Host.perform_plain, hr, Response.map]
  intro session' hheld'
  rw [Host.simulator_put] at hheld' ⊢
  obtain ⟨session, hheld, hphase⟩ : ∃ session, (Host.simulator m).session = some session ∧
      session'.phase = session.phase := by
    rcases hsession with hsame | hcancelled
    · exact ⟨session', hsame.symm.trans hheld', rfl⟩
    · rw [hcancelled, Option.map_eq_some_iff] at hheld'
      obtain ⟨session, hheld, rfl⟩ := hheld'
      exact ⟨session, hheld, rfl⟩
  rw [Exchange.lastShown?_append_of_silent h rfl, hworld, hphase]
  rcases habreast session hheld with hcurrent | ⟨hstart, hwaits⟩
  · exact .inl hcurrent
  · exact .inr ⟨hstart, hwaits.aside rfl haside rfl (by rw [Host.simulator_put, hworld])⟩

/-- A restart leaves the view up to date. -/
theorem Host.upToDate_restarted (h : List (Exchange M R W)) {m : M} {r : R} {target : Square}
    {w : W} (hrestart : (Machine.perform m r).map Host.simulator =
      (Host.simulator m).restart target w) : Host.UpToDate h m r := by
  obtain ⟨hevents, hstate⟩ := Host.of_restart hrestart
  rw [Host.UpToDate, Exchange.lastShown?_append, hevents, hstate]
  rfl

theorem Host.upToDate_reset (h : List (Exchange M R W)) (m : M) :
    Host.UpToDate h m (Host.plain M .reset) := by
  rw [Host.UpToDate, Exchange.lastShown?_append, Host.perform_plain, Response.map,
    Host.simulator_put]
  rfl

variable (htells : World.TellsChanges W)
include htells

/-- What an advance leaves of a host that is abreast. -/
theorem Host.Abreast.advance {h : List (Exchange M R W)} {m : M} (habreast : Host.Abreast h m) :
    (Machine.perform m (Host.plain M .advance)).reply = .step .idle ∧
        (Host.simulator (Machine.perform m (Host.plain M .advance)).state).session = none ∨
      Host.UpToDate h m (Host.plain M .advance) ∨
      (Machine.perform m (Host.plain M .advance) = ⟨.step (.finished .cancelled), [],
          Host.put m { Host.simulator m with session := none }⟩ ∧ Host.Unadvanced h m) := by
  have hshown : ∀ session, (Host.simulator m).session = some session →
      Exchange.lastShown? h = some (Host.simulator m).world ∨ session.phase = .start :=
    fun session hheld => (habreast session hheld).imp_right And.left
  have hadvance := Simulator.lastShown?_advance htells hshown
  rw [Host.UpToDate, Exchange.lastShown?_append, Host.perform_plain, Response.map,
    Host.simulator_put]
  rcases hadvance with ⟨hr, hnone⟩ | hcurrent | hr
  · rw [hr]
    exact .inl ⟨rfl, hnone⟩
  · exact .inr (.inl hcurrent)
  · cases hheld : (Host.simulator m).session with
    | none =>
        rw [Simulator.perform_advance_of_none hheld] at hr
        cases hr
    | some session =>
        rw [hr]
        rcases habreast session hheld with hcurrent | ⟨-, hwaits⟩
        · exact .inr (.inl hcurrent)
        · exact .inr (.inr ⟨rfl, hwaits⟩)

/-- No request to a host leaves it other than abreast. -/
theorem Host.Abreast.perform {h : List (Exchange M R W)} {m : M} (habreast : Host.Abreast h m)
    (r : R) :
    Host.Abreast (h ++ [⟨m, r, Machine.perform m r⟩]) (Machine.perform m r).state := by
  rcases Host.perform_other m r with ⟨q, rfl⟩ | ⟨target, w, hrestart⟩
  · cases q with
    | run text =>
        cases hrun : (Host.simulator m).run? text with
        | none =>
            exact habreast.aside rfl (Simulator.perform_run_of_none hrun) rfl (.inl rfl)
        | some started =>
            intro session hheld
            rw [Host.perform_plain, Simulator.perform_run_of_some hrun, Response.map,
              Host.simulator_put] at hheld
            obtain ⟨-, w, -, rfl⟩ := (Simulator.run?_eq_some_iff _ text started).mp hrun
            obtain rfl := Option.some.inj hheld
            exact .inr ⟨rfl, Host.unadvanced_of_accepted h hrun⟩
    | advance =>
        rcases habreast.advance htells with ⟨-, hnone⟩ | hcurrent | ⟨hr, -⟩
        · intro session hheld
          rw [hnone] at hheld
          cases hheld
        · exact fun _ _ => .inl hcurrent
        · intro session hheld
          rw [hr, Host.simulator_put] at hheld
          cases hheld
    | reset => exact fun _ _ => .inl (Host.upToDate_reset h m)
    | setPacing p => exact habreast.aside rfl rfl rfl (.inl rfl)
    | cancel t =>
        by_cases ht : t.run = (Host.simulator m).accepted
        · exact habreast.aside rfl rfl (by simp [Simulator.cancel, ht])
            (.inr (by simp [Simulator.cancel, ht]))
        · exact habreast.aside rfl rfl (by simp [Simulator.cancel, ht])
            (.inl (by simp [Simulator.cancel, ht]))
  · exact fun _ _ => .inl (Host.upToDate_restarted h hrestart)

/-- A host that held no session at first keeps its view up to date. -/
theorem Host.showsWorld {m₀ : M} (hnone : (Host.simulator m₀).session = none) (rs : List R) :
    Host.ShowsWorld (history m₀ rs) (after m₀ rs) := by
  have habreast : Host.Abreast (history m₀ rs) (after m₀ rs) := by
    refine history_induction (fun _ _ r habreast => habreast.perform htells r) ?_ rs
    intro session hheld
    rw [hnone] at hheld
    cases hheld
  refine ⟨?_, ?_, ?_, Host.upToDate_reset _ _, ?_⟩
  · intro d hpaused
    rcases habreast.advance htells with ⟨hidle, -⟩ | hcurrent | ⟨hr, -⟩
    · rw [hidle] at hpaused
      cases hpaused
    · exact hcurrent
    · rw [hr] at hpaused
      cases hpaused
  · intro o hfinished hended
    rcases habreast.advance htells with ⟨hidle, -⟩ | hcurrent | ⟨hr, -⟩
    · rw [hidle] at hfinished
      cases hfinished
    · exact hcurrent
    · rw [hr] at hfinished
      cases hfinished
      exact absurd rfl hended
  · intro hcancelled
    have hview : Host.UpToDate (history m₀ rs) (after m₀ rs) (Host.plain M .advance) ∨
        Host.Unadvanced (history m₀ rs) (after m₀ rs) := by
      rcases habreast.advance htells with ⟨hidle, -⟩ | hcurrent | ⟨-, hwaits⟩
      · rw [hidle] at hcancelled
        cases hcancelled
      · exact .inl hcurrent
      · exact .inr hwaits
    rw [Host.perform_plain, Response.map] at hcancelled ⊢
    rw [Host.simulator_put, Simulator.perform_of_reported_cancelled hcancelled]
    exact ⟨rfl, rfl, hview⟩
  · intro r hother
    rcases Host.perform_other (after m₀ rs) r with ⟨q, hplain⟩ | ⟨target, w, hrestart⟩
    · exact absurd hplain (hother q)
    · exact Host.upToDate_restarted _ hrestart

end Host

/-- **The view shows the world**, in every state that a turtle simulator, a panel simulator or a
game can reach: after a pause, after a reset or a play, and after the end of a run, unless the run
was cancelled before its first advance. -/
theorem view_shows_world (t : Turtle) (lamps : Panel) (c : Config) (p : Pacing) (rs : List Request)
    (gameRequests : List GameRequest) :
    Host.ShowsWorld (history (Simulator.new t p) rs) (after (Simulator.new t p) rs) ∧
      Host.ShowsWorld (history (Simulator.new lamps p) rs) (after (Simulator.new lamps p) rs) ∧
      Host.ShowsWorld (history (Game.ofConfig c) gameRequests)
        (after (Game.ofConfig c) gameRequests) :=
  ⟨Host.showsWorld Turtle.tellsChanges rfl rs, Host.showsWorld Panel.tellsChanges rfl rs,
    Host.showsWorld Turtle.tellsChanges rfl gameRequests⟩

/-- A run leaves the turtle three steps to the right and shows it there.  The next run takes it home
and is cancelled before its first advance.  It ends, and the view still shows the turtle where it
was. -/
theorem view_stale_of_early_cancel :
    let s := Simulator.new (Turtle.new ⟨20, 0.5⟩ 0.5) .instant
    let rs : List Request :=
      [.run "ANDA 3", .advance, .advance, .run "ANDA 1", .cancel ⟨2⟩, .advance]
    ((history s rs).map (·.response.reply)).getLast? = some (.step (.finished .cancelled)) ∧
      (Exchange.lastShown? (history s rs)).map Turtle.pose = some ⟨3, 0, 90⟩ ∧
      (after s rs).world.pose = .home ∧
      Exchange.lastShown? (history s rs) ≠ some (after s rs).world := by
  decide +kernel

end StepScript
