import StepScript.Proofs.Game.Search
set_option autoImplicit false

/-!
# The game: the apples of a seed

The generator belongs to play alone.  So the apples follow one another as the seed and the size of
the board have it, whatever is asked for between the plays.

Main statement: `apples_reproducible`.
-/

namespace StepScript

open Machine

/-- The cell that a reply places the apple on. -/
def Reply.placed? : Reply → Option Square
  | .placed target => some target
  | _ => none

namespace Generator

theorem afterTargets_succ (size : UInt32) (k : Nat) (g : Generator) :
    afterTargets size (k + 1) g = (drawTarget size (afterTargets size k g)).2 := by
  induction k generalizing g with
  | zero => rfl
  | succ k ih =>
      rw [afterTargets, ih]
      rfl

end Generator

/-- The apples of a seed on a board of a size, in the order of the plays. -/
def apple (seed : UInt64) (size : UInt32) (k : Nat) : Square :=
  (drawTarget size (Generator.afterTargets size k (.ofSeed seed))).1

/-- Each apple lies where the search for a cell ends, and the next search goes on from there. -/
theorem places_apple_iff (seed : UInt64) (size : UInt32) (k : Nat) :
    (∃ words, Places size (.afterTargets size k (.ofSeed seed)) words (apple seed size k)
      (.afterTargets size (k + 1) (.ofSeed seed))) ↔ 2 ≤ size := by
  have hseed := Generator.odd_increment_ofSeed seed
  obtain ⟨words, hwords⟩ := exists_afterTargets_eq_iterate hseed size k
  have hodd : Odd (Generator.afterTargets size k (.ofSeed seed)).increment := by
    rwa [hwords, Generator.increment_iterate_step]
  rw [places_iff hodd, Generator.afterTargets_succ]
  exact and_iff_left rfl

namespace Game

/-- Only play places an apple. -/
theorem placed?_perform_plain (g : Game) (r : Request) :
    (Machine.perform g (.plain r)).reply.placed? = none := by
  rw [perform_plain_eq]
  cases r with
  | run text =>
      rcases g.simulator.perform_run_cases text with hr | ⟨w, -, hr⟩
      · rw [hr]
        rfl
      · rw [hr]
        rfl
  | advance => rfl
  | reset => rfl
  | setPacing p => rfl
  | cancel t => rfl

section

variable (c : Config) (rs : List GameRequest)

/-- The next target is the next apple of the seed. -/
theorem nextTarget_after :
    (after (ofConfig c) rs).nextTarget =
      apple c.seed c.board.gridSize (rs.count .play) := by
  have hguard := (onBoard_after c rs).guard_eq
  obtain ⟨hgenerator, -⟩ := generator_after (onBoard_after c []) rs
  rw [nextTarget, hguard, show (after (ofConfig c) rs).generator = _ from hgenerator]
  rfl

/-- The apples of a game are the first ones of its seed. -/
theorem placed?_history :
    (history (ofConfig c) rs).filterMap (·.response.reply.placed?) =
      (List.range (rs.count .play)).map (apple c.seed c.board.gridSize) := by
  induction rs using List.reverseRecOn with
  | nil => rfl
  | append_singleton rs r ih =>
      rw [history_append, List.filterMap_append, ih, List.count_append]
      cases r with
      | plain r =>
          have hreply := placed?_perform_plain (after (ofConfig c) rs) r
          simp [hreply]
      | play =>
          have hreply : (Machine.perform (after (ofConfig c) rs) .play).reply.placed? =
              some (apple c.seed c.board.gridSize (rs.count .play)) := by
            rw [(play_target _).1, nextTarget_after]
            rfl
          simp [hreply, List.range_succ]

end

/-- **Apples are reproducible.**  Whatever a game was asked before, play places the apple that the
seed and the size of the board have next, and leaves it as the target of a turtle at home.  The apples
of a whole history are the first ones of the seed.  Each of them is found by a search that ends,
given two cells on a side. -/
theorem apples_reproducible (c : Config) (rs : List GameRequest) :
    let apples := apple c.seed c.board.gridSize
    let played := Machine.perform (after (ofConfig c) rs) .play
    (played.reply = .placed (apples (rs.count .play)) ∧
        played.state.target = some (apples (rs.count .play)) ∧
        played.state.simulator.world.pose = .home) ∧
      (history (ofConfig c) rs).filterMap (·.response.reply.placed?) =
        (List.range (rs.count .play)).map apples ∧
      ∀ k, (∃ words, Places c.board.gridSize
        (.afterTargets c.board.gridSize k (.ofSeed c.seed)) words (apples k)
        (.afterTargets c.board.gridSize (k + 1) (.ofSeed c.seed))) ↔ 2 ≤ c.board.gridSize := by
  intro apples played
  obtain ⟨hreply, htarget⟩ := play_target (after (ofConfig c) rs)
  rw [nextTarget_after] at hreply htarget
  exact ⟨⟨hreply, htarget, rfl⟩, placed?_history c rs, places_apple_iff c.seed c.board.gridSize⟩

end Game

end StepScript
