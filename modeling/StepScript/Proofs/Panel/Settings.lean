import StepScript.Proofs.Panel.Runs
set_option autoImplicit false

/-!
# The panel: the last setting wins

A clear sets every lamp off, a switch sets the lamp with its number, and no other command sets any.
After a run each lamp is as the last line to set it says, or as it was.

Main statements: `Panel.isOn_apply`, what one command does to one lamp; `Panel.isOn_afterLines`, what
several lines do to it; and `Panel.last_setting_wins`.
-/

namespace StepScript

namespace PanelCommand

/-- What a command says the lamp with a number is to be, if it says anything of that lamp. -/
def setting? (id : Int) : PanelCommand → Option Bool
  | .clear => some false
  | .switch lamp on => if lamp = id then some on else none
  | .invalid | .wait _ | .noop => none

/-- Whether a command sets a lamp that exists. -/
def setsLamp : PanelCommand → Bool
  | .clear => true
  | .switch lamp _ => 1 ≤ lamp && lamp ≤ 3
  | .invalid | .wait _ | .noop => false

end PanelCommand

/-- What the last of several lines to set the lamp with a number says that it is to be. -/
def lastSetting? (id : Int) (ls : List Line) : Option Bool :=
  (ls.filterMap fun l => (PanelCommand.ofLine l).setting? id).getLast?

theorem lastSetting?_cons (id : Int) (l : Line) (ls : List Line) :
    lastSetting? id (l :: ls) =
      (lastSetting? id ls).or ((PanelCommand.ofLine l).setting? id) := by
  rw [lastSetting?, List.filterMap_cons]
  cases (PanelCommand.ofLine l).setting? id with
  | none => exact Option.or_none.symm
  | some on =>
      change ((on :: _).getLast?) = _
      rw [List.getLast?_cons, lastSetting?]
      cases (ls.filterMap fun l => (PanelCommand.ofLine l).setting? id).getLast? <;> rfl

namespace Panel

/-- **One command** leaves a lamp as it says, or as it was. -/
theorem isOn_apply {id : Int} (hid : 1 ≤ id ∧ id ≤ 3) (b : Panel) (c : PanelCommand) :
    (b.apply c).1.isOn id = (c.setting? id).getD (b.isOn id) := by
  obtain ⟨color, hcolor⟩ : ∃ color, LampColor.ofId? id = some color := by
    refine Option.ne_none_iff_exists'.mp fun hnone => ?_
    rw [LampColor.ofId?_eq_none_iff] at hnone
    omega
  cases c with
  | invalid => rfl
  | noop => rfl
  | wait d => cases d <;> rfl
  | clear =>
      rw [isOn_of_some hcolor]
      cases color <;> rfl
  | switch lamp on =>
      cases hlamp : LampColor.ofId? lamp with
      | none =>
          -- A lamp that does not exist is not the one in question.
          have hother : lamp ≠ id := by
            rintro rfl
            rw [hlamp] at hcolor
            cases hcolor
          rw [apply_switch_of_none hlamp, PanelCommand.setting?, if_neg hother]
          rfl
      | some switched =>
          rw [apply_switch_of_some hlamp, isOn_of_some hcolor, isOn_of_some hcolor, lamp_setLamp,
            PanelCommand.setting?]
          by_cases hsame : lamp = id
          · obtain rfl : switched = color := by
              rw [← hsame, hlamp] at hcolor
              exact Option.some.inj hcolor
            rw [if_pos rfl, if_pos hsame]
            rfl
          · have hother : color ≠ switched := by
              rintro rfl
              exact hsame (LampColor.ofId?_injective hlamp hcolor)
            rw [if_neg hother, if_neg hsame]
            rfl

/-- **Several lines** leave a lamp as the last of them to set it says, or as it was. -/
theorem isOn_afterLines {id : Int} (hid : 1 ≤ id ∧ id ≤ 3) (b : Panel) (ls : List Line) :
    (b.afterLines ls).isOn id = (lastSetting? id ls).getD (b.isOn id) := by
  induction ls generalizing b with
  | nil => rfl
  | cons l ls ih =>
      rw [afterLines_cons, ih, isOn_apply hid, lastSetting?_cons]
      cases lastSetting? id ls <;> rfl

/-! ## What is shown -/

/-- The panel has changed when a lamp was set, even to what it was. -/
theorem changed_iff_setsLamp (b : Panel) (c : PanelCommand) :
    (b.apply c).2 = .changed ↔ c.setsLamp = true := by
  cases c with
  | invalid => exact iff_of_false nofun nofun
  | noop => exact iff_of_false nofun nofun
  | wait d => cases d <;> exact iff_of_false nofun nofun
  | clear => exact iff_of_true rfl rfl
  | switch lamp on =>
      simp only [PanelCommand.setsLamp, Bool.and_eq_true, decide_eq_true_eq]
      cases hlamp : LampColor.ofId? lamp with
      | none =>
          rw [apply_switch_of_none hlamp]
          rw [LampColor.ofId?_eq_none_iff] at hlamp
          exact iff_of_false nofun (by omega)
      | some c =>
          have hexists : ¬ (lamp < 1 ∨ 3 < lamp) := by
            rw [← LampColor.ofId?_eq_none_iff, hlamp]
            exact Option.some_ne_none c
          rw [apply_switch_of_some hlamp]
          exact iff_of_true rfl (by omega)

/-- A line becomes active, the panel is shown if a lamp was set, and the line becomes inactive. -/
theorem events_ofLine (b : Panel) (l : Line) (index : Nat) :
    (Passage.ofLine b l).events index =
      .active index true ::
        ((if (PanelCommand.ofLine l).setsLamp then [.render (b.apply (PanelCommand.ofLine l)).1]
          else []) ++ [.active index false]) := by
  cases hblank : l.isBlank with
  | true =>
      rw [Passage.ofLine_of_blank hblank, noop_of_blank hblank]
      rfl
  | false =>
      rw [ofLine_of_inked hblank]
      cases hsets : (PanelCommand.ofLine l).setsLamp with
      | true =>
          rw [(changed_iff_setsLamp b _).mpr hsets]
          rfl
      | false =>
          have hsame : (b.apply (PanelCommand.ofLine l)).2 ≠ .changed := by
            rw [Ne, changed_iff_setsLamp, hsets]
            exact Bool.false_ne_true
          cases heffect : (b.apply (PanelCommand.ofLine l)).2 with
          | changed => exact absurd heffect hsame
          | idle => rfl
          | wait d => rfl

/-- A run shows the panel once for every line that sets a lamp. -/
theorem length_renders_eventsFrom (b : Panel) (ls : List Line) (first : Nat) :
    (⟨Passage.eventsFrom first (Passage.ofLines b ls)⟩ : Recording Panel).renders.length =
      ls.countP fun l => (PanelCommand.ofLine l).setsLamp := by
  induction ls generalizing b first with
  | nil => rfl
  | cons l ls ih =>
      rw [Passage.ofLines_cons_of_not_failed (isFailed_ofLine b l), Passage.eventsFrom_cons,
        Recording.renders_append, List.length_append, ih, events_ofLine, List.countP_cons,
        Nat.add_comm]
      cases (PanelCommand.ofLine l).setsLamp <;> rfl

/-- A run shows the panel and its lines, and nothing else. -/
theorem shows_of_mem_eventsFrom {b : Panel} {ls : List Line} {first : Nat} {e : Event Panel}
    (he : e ∈ Passage.eventsFrom first (Passage.ofLines b ls)) :
    (∃ b', e = .render b') ∨ ∃ index on, e = .active index on := by
  induction ls generalizing b first with
  | nil => cases he
  | cons l ls ih =>
      rw [Passage.ofLines_cons_of_not_failed (isFailed_ofLine b l), Passage.eventsFrom_cons,
        List.mem_append, events_ofLine, List.mem_cons, List.mem_append] at he
      rcases he with (rfl | hrender | hinactive) | hrest
      · exact .inr ⟨_, _, rfl⟩
      · split at hrender
        · exact .inl ⟨_, List.mem_singleton.mp hrender⟩
        · cases hrender
      · exact .inr ⟨_, _, List.mem_singleton.mp hinactive⟩
      · exact ih hrest

end Panel

/-- What a run of lines of the panel is, from what was there before it. -/
structure RunReport.SettlesLamps (r : RunReport (Simulator Panel) Panel) (before : Panel)
    (ls : List Line) : Prop where
  completed : r.outcome = some .completed
  notices : r.recording.notices = []
  failed : ∀ line, .failed line ∉ r.recording.events
  /-- Each lamp is as the last line to set it says; and if none does, it is as it was. -/
  lamps : ∀ id, 1 ≤ id → id ≤ 3 →
    r.state.world.isOn id = (lastSetting? id ls).getD (before.isOn id)
  /-- A switch with any other number leaves all lamps as they are. -/
  strangers : ∀ l ∈ ls, ∀ lamp on, PanelCommand.ofLine l = .switch lamp on →
    lamp < 1 ∨ 3 < lamp → ∀ b : Panel, World.apply b (World.decode l) = .ok (b, .idle)
  /-- One render at the start, and one for each line that sets a lamp. -/
  renders : r.recording.renders.length =
    1 + ls.countP fun l => (PanelCommand.ofLine l).setsLamp

/-- **The last setting wins**, and nothing fails: so it is with any text that is not all white
space. -/
theorem Panel.last_setting_wins {s : Simulator Panel} {text : String}
    (hfree : s.isRunning = false) (hinked : ∃ c ∈ text.toList, isWhiteSpace c = false) :
    (s.report text).SettlesLamps s.world (Script.parse text).lines := by
  rw [report_of_inked hfree hinked]
  generalize (Script.parse text).lines = ls
  have hshows (e : Event Panel)
      (he : e ∈ Event.render s.world :: Passage.eventsFrom 0 (Passage.ofLines s.world ls)) :
      (∃ b, e = .render b) ∨ ∃ index on, e = .active index on := by
    rcases List.mem_cons.mp he with rfl | hline
    · exact .inl ⟨_, rfl⟩
    · exact shows_of_mem_eventsFrom hline
  constructor
  case completed => rfl
  case notices =>
    refine List.filterMap_eq_nil_iff.mpr fun e he => ?_
    rcases hshows e he with ⟨b, rfl⟩ | ⟨index, on, rfl⟩ <;> rfl
  case failed =>
    intro line he
    rcases hshows _ he with ⟨b, heq⟩ | ⟨index, on, heq⟩ <;> cases heq
  case lamps =>
    intro id hlow hhigh
    exact isOn_afterLines ⟨hlow, hhigh⟩ s.world ls
  case strangers =>
    intro l _ lamp on hswitch hstranger b
    have hnone : LampColor.ofId? lamp = none := (LampColor.ofId?_eq_none_iff lamp).mpr hstranger
    rw [world_apply_decode, hswitch, apply_switch_of_none hnone]
  case renders =>
    rw [← length_renders_eventsFrom s.world ls 0]
    exact Nat.add_comm _ 1

/-- A lamp switched on, cleared and switched by another number's line; one switched off last; one
left alone but for the clear. -/
theorem Panel.last_setting_wins_after_clear :
    let s := Simulator.new (⟨false, true, true⟩ : Panel) .led
    let text := "ACIONAR 3 0\nLIMPAR\nACIONAR 1 1\nACIONAR -9223372036854775808 1\nACIONAR 4 0"
    (s.isRunning = false ∧ ∃ c ∈ text.toList, isWhiteSpace c = false) ∧
      (s.report text).SettlesLamps s.world (Script.parse text).lines ∧
      (s.report text).state.world = ⟨true, false, false⟩ ∧
      (s.report text).recording.renders.length = 4 := by
  intro s text
  have hinked : ∃ c ∈ text.toList, isWhiteSpace c = false := ⟨'A', by decide +kernel, rfl⟩
  have hsettles := last_setting_wins (s := s) rfl hinked
  refine ⟨⟨rfl, hinked⟩, hsettles, by decide +kernel, ?_⟩
  rw [hsettles.renders]
  decide +kernel

end StepScript
