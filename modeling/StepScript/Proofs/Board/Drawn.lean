import StepScript.Board.Drawing
import StepScript.Proofs.Board.OnBoard
import StepScript.Proofs.Config.Accepted
import StepScript.Proofs.Number.Nearest
import StepScript.Proofs.Script.Lines
set_option autoImplicit false

/-!
# Board: what the drawing shows

The drawing has a line for each row and a status line.  The turtle is drawn on the cell nearest to
its position, which is a cell of the board unless a coordinate lies half a cell beyond the outermost
cells: halves are rounded away from the board.  A tolerance of half a cell reaches that far, and no
tolerance that is noticeably smaller does.

Main statement: `Config.drawings_show_turtle`.
-/

namespace StepScript

open Machine

/-! ## Lines -/

theorem splitLines_of_not_mem {cs : List Char} (h : '\n' ∉ cs) : splitLines cs = [cs] := by
  induction cs with
  | nil => rfl
  | cons c cs ih =>
      rw [List.mem_cons, not_or] at h
      rw [splitLines, if_neg (Ne.symm h.1), ih h.2]

/-- Rows that each end in a line feed are lines, and so is what follows. -/
theorem splitLines_rows {rows : List (List Char)} (hrows : ∀ row ∈ rows, '\n' ∉ row)
    {last : List Char} (hlast : '\n' ∉ last) :
    splitLines ((rows.flatMap fun row => row ++ ['\n']) ++ last) = rows ++ [last] := by
  induction rows with
  | nil => exact splitLines_of_not_mem hlast
  | cons row rows ih =>
      obtain ⟨hrow, hrest⟩ := List.forall_mem_cons.mp hrows
      rw [List.flatMap_cons, List.append_assoc, List.append_assoc, List.singleton_append,
        splitLines_append_newline, splitLines_of_not_mem hrow, ih hrest]
      rfl

theorem mem_of_mem_intersperse {α : Type} {x space : α} {xs : List α}
    (h : x ∈ xs.intersperse space) : x = space ∨ x ∈ xs := by
  induction xs with
  | nil => exact .inr h
  | cons first xs ih =>
      cases xs with
      | nil => exact .inr h
      | cons second xs =>
          rw [List.intersperse_cons_cons, List.mem_cons, List.mem_cons] at h
          rcases h with rfl | rfl | h
          · exact .inr List.mem_cons_self
          · exact .inl rfl
          · exact (ih h).imp_right (List.mem_cons_of_mem _)

theorem newline_not_mem_toString (n : Nat) : '\n' ∉ (toString n).toList := by
  intro hmem
  have htext : (toString n).toList = Nat.toDigits 10 n := Nat.toList_repr
  rw [htext] at hmem
  have hdigit := Nat.isDigit_of_mem_toDigits (by decide) (by decide) hmem
  revert hdigit
  decide

theorem newline_not_mem_fixedPlaces (places : Nat) (x : Float) :
    '\n' ∉ (fixedPlaces places x).toList := by
  unfold fixedPlaces
  split
  · decide
  · split <;> decide
  · rename_i negative m e _
    have hsign : '\n' ∉ (if negative then "-" else "").toList := by cases negative <;> decide
    dsimp only
    rw [String.toList_append, List.mem_append, not_or]
    refine ⟨hsign, ?_⟩
    split
    · exact newline_not_mem_toString _
    · simp only [String.toList_append, String.toList_ofList, List.mem_append, not_or]
      refine ⟨⟨⟨newline_not_mem_toString _, by decide⟩, ?_⟩, newline_not_mem_toString _⟩
      intro hmem
      exact absurd (List.eq_of_mem_replicate hmem) (by decide)

namespace Turtle

/-- The arrows that the turtle may be drawn as. -/
def arrows : List Char := ['^', '>', 'v', '<']

theorem glyph_mem_arrows (t : Turtle) : t.glyph ∈ arrows := by
  unfold glyph
  dsimp only
  split_ifs <;> decide

theorem newline_not_mem_status (t : Turtle) : '\n' ∉ t.status.toList := by
  unfold status
  simp only [String.toList_append, List.mem_append, not_or]
  exact ⟨⟨⟨⟨⟨⟨by decide, newline_not_mem_fixedPlaces _ _⟩, by decide⟩,
    newline_not_mem_fixedPlaces _ _⟩, by decide⟩, newline_not_mem_fixedPlaces _ _⟩, by decide⟩

/-! ## Cells -/

/-- The column and the row that the turtle is nearest to. -/
def nearestCell (t : Turtle) : Int × Int :=
  (roundAway (exactValue t.pose.x), roundAway (exactValue t.pose.y))

/-- A turtle at a finite position is drawn on the cell nearest to it. -/
theorem isOn_iff {t : Turtle} (hx : t.pose.x.isFinite = true) (hy : t.pose.y.isFinite = true)
    (column row : Nat) :
    t.isOn column row = true ↔ t.nearestCell = ((column : Int), (row : Int)) := by
  rw [isOn, nearestInt?_eq hx, nearestInt?_eq hy, nearestCell, Prod.mk.injEq, Bool.and_eq_true,
    beq_iff_eq, beq_iff_eq, Option.some_inj, Option.some_inj]

/-- A cell shows an arrow, a target or a dot. -/
theorem cell_cases (t : Turtle) (column row : Nat) :
    (t.isOn column row = true ∧ t.cell column row ∈ arrows) ∨
      (t.isOn column row = false ∧
        t.target = some ⟨UInt32.ofNat column, UInt32.ofNat row⟩ ∧ t.cell column row = '@') ∨
      (t.isOn column row = false ∧
        t.target ≠ some ⟨UInt32.ofNat column, UInt32.ofNat row⟩ ∧ t.cell column row = '.') := by
  unfold cell
  cases hon : t.isOn column row with
  | true =>
      rw [if_pos rfl]
      exact .inl ⟨rfl, t.glyph_mem_arrows⟩
  | false =>
      rw [if_neg Bool.false_ne_true]
      by_cases htarget : t.target = some ⟨UInt32.ofNat column, UInt32.ofNat row⟩
      · rw [if_pos (beq_iff_eq.mpr htarget)]
        exact .inr (.inl ⟨rfl, htarget, rfl⟩)
      · rw [if_neg (beq_iff_eq.not.mpr htarget)]
        exact .inr (.inr ⟨rfl, htarget, rfl⟩)

theorem cell_mem_arrows_iff (t : Turtle) (column row : Nat) :
    t.cell column row ∈ arrows ↔ t.isOn column row = true := by
  rcases t.cell_cases column row with ⟨hon, hcell⟩ | ⟨hon, -, hcell⟩ | ⟨hon, -, hcell⟩
  · exact iff_of_true hcell hon
  · rw [hcell, hon]
    decide
  · rw [hcell, hon]
    decide

theorem cell_eq_target_iff (t : Turtle) (column row : Nat) :
    t.cell column row = '@' ↔
      t.isOn column row = false ∧
        t.target = some ⟨UInt32.ofNat column, UInt32.ofNat row⟩ := by
  rcases t.cell_cases column row with ⟨hon, hcell⟩ | ⟨hon, htarget, hcell⟩ | ⟨hon, htarget, hcell⟩
  · refine iff_of_false ?_ (by simp [hon])
    intro heq
    rw [heq] at hcell
    revert hcell
    decide
  · exact iff_of_true hcell ⟨hon, htarget⟩
  · refine iff_of_false ?_ (fun h => htarget h.2)
    rw [hcell]
    decide

theorem cell_ne_newline (t : Turtle) (column row : Nat) : t.cell column row ≠ '\n' := by
  rcases t.cell_cases column row with ⟨-, hcell⟩ | ⟨-, -, hcell⟩ | ⟨-, -, hcell⟩
  · intro heq
    rw [heq] at hcell
    revert hcell
    decide
  · rw [hcell]
    decide
  · rw [hcell]
    decide

theorem newline_not_mem_row (t : Turtle) (row : Nat) : '\n' ∉ (t.row row).intersperse ' ' := by
  intro hmem
  rcases mem_of_mem_intersperse hmem with hspace | hcell
  · revert hspace
    decide
  · obtain ⟨column, -, hcell⟩ := List.mem_map.mp hcell
    exact t.cell_ne_newline column row hcell

/-- The lines of a drawing are the rows of the board, with a space between cells, and the status
line. -/
theorem splitLines_draw (t : Turtle) :
    splitLines t.draw.toList =
      (List.range t.guard.gridSize.toNat).map (fun row => (t.row row).intersperse ' ') ++
        [t.status.toList] := by
  have htext : t.draw.toList =
      (((List.range t.guard.gridSize.toNat).map fun row => (t.row row).intersperse ' ').flatMap
        fun row => row ++ ['\n']) ++ t.status.toList := by
    rw [draw, String.toList_append, String.toList_join, List.flatMap_map, List.flatMap_map]
    congr 2
    funext row
    rw [String.toList_append, String.toList_ofList]
    rfl
  rw [htext]
  refine splitLines_rows ?_ t.newline_not_mem_status
  intro row hrow
  obtain ⟨r, -, rfl⟩ := List.mem_map.mp hrow
  exact t.newline_not_mem_row r

end Turtle

/-! ## Coordinates -/

/-- A coordinate half a cell beyond the outermost cells of a board with `n` cells on a side. -/
def HalfOff (n : Nat) (q : ℚ) : Prop := q = -(1 / 2) ∨ q = n - 1 / 2

/-- Up to half a cell off the board the nearest cell is one of the board, but not at half a cell. -/
theorem roundAway_on_board_iff {n : Nat} (hn : 0 < n) {q : ℚ} (hlow : -(1 / 2) ≤ q)
    (hhigh : q ≤ n - 1 / 2) : (0 ≤ roundAway q ∧ roundAway q < n) ↔ ¬HalfOff n q := by
  have hone : (1 : ℚ) ≤ n := by exact_mod_cast hn
  unfold HalfOff
  rcases le_or_gt 0 q with hq | hq
  · have hlt : ⌊q + 1 / 2⌋ < (n : Int) ↔ q + 1 / 2 < n := by
      rw [Int.floor_lt, Int.cast_natCast]
    have hnonneg : 0 ≤ ⌊q + 1 / 2⌋ := Int.floor_nonneg.mpr (by linarith)
    rw [roundAway_of_nonneg hq, hlt]
    constructor
    · rintro ⟨-, hbelow⟩ (hleft | hright)
      · linarith
      · linarith
    · intro hoff
      refine ⟨hnonneg, lt_of_le_of_ne (by linarith) fun heq => hoff (.inr (by linarith))⟩
  · have hround : roundAway q = -⌊-q + 1 / 2⌋ := if_neg hq.not_ge
    rw [hround]
    constructor
    · rintro ⟨hfloor, -⟩ (hleft | hright)
      · have hfloorOne : ⌊-q + 1 / 2⌋ = 1 := by
          rw [hleft]
          norm_num
        omega
      · linarith
    · intro hoff
      have hzero : ⌊-q + 1 / 2⌋ = 0 := by
        rw [Int.floor_eq_zero_iff, Set.mem_Ico]
        refine ⟨by linarith, ?_⟩
        have hne : -(1 / 2) < q := lt_of_le_of_ne hlow fun heq => hoff (.inl heq.symm)
        linarith
      rw [hzero, neg_zero]
      exact ⟨le_rfl, by exact_mod_cast hn⟩

namespace Guard

variable {g : Guard}

/-- The largest cell coordinate is a whole number. -/
theorem exactValue_maxCoordinate (hsize : 2 ≤ g.gridSize) :
    g.maxCoordinate.isFinite = true ∧ exactValue g.maxCoordinate = g.gridSize.toNat - 1 := by
  have hsizeNat : 2 ≤ g.gridSize.toNat := UInt32.le_iff_toNat_le.mp hsize
  have hne : g.gridSize ≠ 0 := by
    intro hzero
    rw [hzero] at hsizeNat
    exact absurd hsizeNat (by decide)
  have hpred : (g.gridSize - 1).toNat = g.gridSize.toNat - 1 :=
    UInt32.toNat_sub_of_le _ _ (UInt32.le_iff_toNat_le.mpr (le_trans (by decide) hsizeNat))
  obtain ⟨hfinite, hvalue⟩ := exactValue_toFloat (g.gridSize - 1)
  rw [maxCoordinate, if_neg hne]
  refine ⟨hfinite, ?_⟩
  rw [hvalue, hpred, Nat.cast_sub (by omega), Nat.cast_one]

theorem isFinite_half_and_exactValue : (0.5 : Float).isFinite = true ∧ exactValue 0.5 = 1 / 2 := by
  have hread : Binary64.ofFloat 0.5 = .finite false (2 ^ 52) (-53) := by decide +kernel
  refine ⟨by decide +kernel, ?_⟩
  rw [exactValue, hread]
  norm_num [Binary64.value]

/-- A coordinate on the board or off it by half a cell at most. -/
structure IsNear (g : Guard) (x : Float) : Prop where
  isFinite : x.isFinite = true
  low : -(1 / 2) ≤ exactValue x
  high : exactValue x ≤ g.gridSize.toNat - 1 / 2
  /-- It takes a tolerance of nearly half a cell to be off by half a cell. -/
  half_off : HalfOff g.gridSize.toNat (exactValue x) → 1 / 2 - 1 / 2 ^ 47 < exactValue g.epsilon

theorem isNear_home (hsize : 2 ≤ g.gridSize) : g.IsNear 0.0 := by
  have hn : (2 : ℚ) ≤ g.gridSize.toNat := by exact_mod_cast UInt32.le_iff_toNat_le.mp hsize
  refine ⟨by decide +kernel, ?_, ?_, ?_⟩
  · rw [exactValue_zero]
    norm_num
  · rw [exactValue_zero]
    linarith
  · rw [exactValue_zero]
    rintro (hleft | hright)
    · norm_num at hleft
    · linarith

/-- An accepted tolerance is half a cell at most. -/
theorem exactValue_epsilon (hepsilon : 0.0 ≤ g.epsilon ∧ g.epsilon ≤ 0.5) :
    g.epsilon.isFinite = true ∧ 0 ≤ exactValue g.epsilon ∧ exactValue g.epsilon ≤ 1 / 2 := by
  obtain ⟨hhalfFinite, hhalf⟩ := isFinite_half_and_exactValue
  have hfinite : g.epsilon.isFinite = true :=
    isFinite_of_le_of_le hepsilon.1 hepsilon.2 (by decide +kernel) hhalfFinite
  have hlow := (float_le_iff_exactValue (by decide +kernel) hfinite).mp hepsilon.1
  have hhigh := (float_le_iff_exactValue hfinite hhalfFinite).mp hepsilon.2
  rw [exactValue_zero] at hlow
  rw [hhalf] at hhigh
  exact ⟨hfinite, hlow, hhigh⟩

/-- The upper bound of a coordinate is rounded once. -/
theorem isNearest_upper (hsize : 2 ≤ g.gridSize ∧ g.gridSize ≤ 64)
    (hepsilon : 0.0 ≤ g.epsilon ∧ g.epsilon ≤ 0.5) :
    IsNearest (g.gridSize.toNat - 1 + exactValue g.epsilon) (g.maxCoordinate + g.epsilon) := by
  obtain ⟨hfinite, hlow, hhigh⟩ := exactValue_epsilon hepsilon
  obtain ⟨hmaxFinite, hmax⟩ := exactValue_maxCoordinate hsize.1
  have hleast : (2 : ℚ) ≤ g.gridSize.toNat := by
    exact_mod_cast UInt32.le_iff_toNat_le.mp hsize.1
  have hlargest : (g.gridSize.toNat : ℚ) ≤ 64 := by
    exact_mod_cast UInt32.le_iff_toNat_le.mp hsize.2
  rw [← hmax]
  exact isNearest_add hmaxFinite hfinite
    (abs_le_largestValue (by rw [hmax]; linarith) (by rw [hmax]; linarith))

/-- Coordinates within an accepted tolerance are near an accepted board. -/
theorem isNear_of_le (hsize : 2 ≤ g.gridSize ∧ g.gridSize ≤ 64)
    (hepsilon : 0.0 ≤ g.epsilon ∧ g.epsilon ≤ 0.5) {x : Float}
    (hx : -g.epsilon ≤ x ∧ x ≤ g.maxCoordinate + g.epsilon) : g.IsNear x := by
  obtain ⟨hfinite, -, hhigh⟩ := exactValue_epsilon hepsilon
  have hsum := isNearest_upper hsize hepsilon
  have hxFinite := isFinite_of_le_of_le hx.1 hx.2 (isFinite_neg hfinite) hsum.isFinite
  have hxLow := (float_le_iff_exactValue (isFinite_neg hfinite) hxFinite).mp hx.1
  have hxHigh := (float_le_iff_exactValue hxFinite hsum.isFinite).mp hx.2
  rw [exactValue_neg hfinite] at hxLow
  have hleast : 2 ≤ g.gridSize.toNat := UInt32.le_iff_toNat_le.mp hsize.1
  have hlargest : g.gridSize.toNat ≤ 64 := UInt32.le_iff_toNat_le.mp hsize.2
  obtain ⟨n, hn⟩ : ∃ n, n = g.gridSize.toNat := ⟨_, rfl⟩
  rw [← hn] at hsum hleast hlargest
  have hnLow : (2 : ℚ) ≤ n := by exact_mod_cast hleast
  refine ⟨hxFinite, by linarith, ?_, ?_⟩
  · -- The upper bound is rounded, but not past half a cell, which is a double.
    have hvalue : ((2 * n - 1 : Nat) * 2 ^ (-1 : Int) : ℚ) = n - 1 / 2 := by
      rw [Nat.cast_sub (by omega)]
      push_cast
      ring
    have hround := hsum.le_magnitude (m := 2 * n - 1) (e := -1) (by omega) (by decide) (by decide)
      (by rw [hvalue]; linarith)
    rw [hvalue] at hround
    rw [← hn]
    exact hxHigh.trans hround
  · -- A smaller tolerance leaves a double between the bound and half a cell.
    rw [← hn]
    intro hoff
    by_contra hsmall
    rw [not_lt] at hsmall
    have hvalue : (((2 * n - 1) * 2 ^ 46 - 1 : Nat) * 2 ^ (-47 : Int) : ℚ) =
        n - 1 / 2 - 1 / 2 ^ 47 := by
      rw [Nat.cast_sub (by omega), Nat.cast_mul, Nat.cast_sub (by omega)]
      push_cast
      ring
    have hround := hsum.le_magnitude (m := (2 * n - 1) * 2 ^ 46 - 1) (e := -47) (by omega)
      (by decide) (by decide) (by rw [hvalue]; linarith)
    rw [hvalue] at hround
    rcases hoff with hleft | hright
    · linarith
    · linarith

end Guard

/-! ## Drawings -/

namespace Turtle

/-- A coordinate of the turtle lies half a cell off a board with `n` cells on a side. -/
def IsHalfOff (t : Turtle) (n : Nat) : Prop :=
  HalfOff n (exactValue t.pose.x) ∨ HalfOff n (exactValue t.pose.y)

/-- How a turtle on a board of the section `b` is drawn. -/
structure IsDrawn (b : BoardSection) (t : Turtle) : Prop where
  /-- There is a line for each row, with a cell for each column and a space between cells, and a
  status line. -/
  lines : splitLines t.draw.toList =
    (List.range b.gridSize.toNat).map (fun row =>
      ((List.range b.gridSize.toNat).map fun column => t.cell column row).intersperse ' ') ++
        [t.status.toList]
  /-- An arrow stands on the cell that the turtle is nearest to. -/
  arrow : ∀ column row, t.cell column row ∈ arrows ↔ t.nearestCell = ((column : Int), (row : Int))
  /-- One cell of the board has an arrow, unless the turtle is half a cell off: then none has. -/
  shown : ¬t.IsHalfOff b.gridSize.toNat → ∃! cell : Nat × Nat,
    (cell.1 < b.gridSize.toNat ∧ cell.2 < b.gridSize.toNat) ∧ t.cell cell.1 cell.2 ∈ arrows
  hidden : t.IsHalfOff b.gridSize.toNat → ∀ column row, column < b.gridSize.toNat →
    row < b.gridSize.toNat → t.cell column row ∉ arrows
  /-- A target is a cell of the board, and drawn there unless an arrow is. -/
  target : ∀ s, t.target = some s → (s.x.toNat < b.gridSize.toNat ∧ s.y.toNat < b.gridSize.toNat) ∧
    (t.cell s.x.toNat s.y.toNat = '@' ↔ t.nearestCell ≠ ((s.x.toNat : Int), (s.y.toNat : Int)))
  /-- No other cell is drawn as a target. -/
  no_target : ∀ column row, column < b.gridSize.toNat → row < b.gridSize.toNat →
    t.cell column row = '@' → t.target = some ⟨UInt32.ofNat column, UInt32.ofNat row⟩
  /-- All other cells are dots. -/
  dot : ∀ column row, t.cell column row ∉ arrows → t.cell column row ≠ '@' →
    t.cell column row = '.'
  /-- It takes a tolerance of nearly half a cell to be that far off. -/
  half_off : t.IsHalfOff b.gridSize.toNat → 1 / 2 - 1 / 2 ^ 47 < exactValue b.epsilon

/-- The coordinates of a turtle on an accepted board are near it. -/
theorem OnBoard.isNear {g : Guard} {radius : Float} {t : Turtle} (h : t.OnBoard g radius)
    (hsize : 2 ≤ g.gridSize ∧ g.gridSize ≤ 64) (hepsilon : 0.0 ≤ g.epsilon ∧ g.epsilon ≤ 0.5) :
    g.IsNear t.pose.x ∧ g.IsNear t.pose.y := by
  rcases h.position with ⟨hx, hy⟩ | hcheck
  · rw [hx, hy]
    exact ⟨Guard.isNear_home hsize.1, Guard.isNear_home hsize.1⟩
  · obtain ⟨hx, hy⟩ := (g.check_eq_ok_iff_le _ _).mp hcheck
    exact ⟨Guard.isNear_of_le hsize hepsilon hx, Guard.isNear_of_le hsize hepsilon hy⟩

/-- A turtle on an accepted board, with a target on it, is drawn. -/
theorem isDrawn {b : BoardSection} {radius : Float} {t : Turtle}
    (hsize : 2 ≤ b.gridSize ∧ b.gridSize ≤ 64) (hepsilon : 0.0 ≤ b.epsilon ∧ b.epsilon ≤ 0.5)
    (honBoard : t.OnBoard ⟨b.gridSize, b.epsilon⟩ radius)
    (htarget : ∀ s, t.target = some s → s.IsPlace b.gridSize) : t.IsDrawn b := by
  obtain ⟨hx, hy⟩ := honBoard.isNear hsize hepsilon
  have hn : 0 < b.gridSize.toNat :=
    lt_of_lt_of_le two_pos (UInt32.le_iff_toNat_le.mp hsize.1)
  have hcolumn := roundAway_on_board_iff hn hx.low hx.high
  have hrow := roundAway_on_board_iff hn hy.low hy.high
  have harrow : ∀ column row,
      t.cell column row ∈ arrows ↔ t.nearestCell = ((column : Int), (row : Int)) :=
    fun column row => (t.cell_mem_arrows_iff column row).trans (isOn_iff hx.isFinite hy.isFinite ..)
  refine
    { lines := ?lines
      arrow := harrow
      shown := ?shown
      hidden := ?hidden
      target := ?target
      no_target := fun column row _ _ hcell => ((t.cell_eq_target_iff column row).mp hcell).2
      dot := ?dot
      half_off := fun hoff => hoff.elim hx.half_off hy.half_off }
  case lines =>
    have hsame : t.guard.gridSize = b.gridSize := congrArg Guard.gridSize honBoard.guard_eq
    rw [t.splitLines_draw, hsame]
    unfold row
    rw [hsame]
  case shown =>
    intro hoff
    unfold IsHalfOff at hoff
    rw [not_or, ← hcolumn, ← hrow] at hoff
    obtain ⟨⟨hx0, hxn⟩, hy0, hyn⟩ := hoff
    refine ⟨((roundAway (exactValue t.pose.x)).toNat, (roundAway (exactValue t.pose.y)).toNat),
      ⟨⟨by omega, by omega⟩, ?_⟩, ?_⟩
    · rw [harrow, Int.toNat_of_nonneg hx0, Int.toNat_of_nonneg hy0]
      rfl
    · rintro ⟨column, row⟩ ⟨-, hmem⟩
      obtain ⟨hc, hr⟩ := Prod.mk.inj ((harrow column row).mp hmem)
      rw [hc, hr, Int.toNat_natCast, Int.toNat_natCast]
  case hidden =>
    intro hoff column row hc hr hmem
    obtain ⟨hx', hy'⟩ := Prod.mk.inj ((harrow column row).mp hmem)
    rcases hoff with hoff | hoff
    · exact hcolumn.mp (by rw [hx']; omega) hoff
    · exact hrow.mp (by rw [hy']; omega) hoff
  case target =>
    intro s hs
    obtain ⟨hsx, hsy, -⟩ := htarget s hs
    refine ⟨⟨UInt32.lt_iff_toNat_lt.mp hsx, UInt32.lt_iff_toNat_lt.mp hsy⟩, ?_⟩
    rw [cell_eq_target_iff, UInt32.ofNat_toNat, UInt32.ofNat_toNat, and_iff_left hs, ne_eq,
      ← isOn_iff hx.isFinite hy.isFinite, Bool.not_eq_true]
  case dot =>
    intro column row hno hnot
    rcases t.cell_cases column row with ⟨-, hcell⟩ | ⟨-, -, hcell⟩ | ⟨-, -, hcell⟩
    · exact absurd hcell hno
    · exact absurd hcell hnot
    · exact hcell

end Turtle

/-- **The drawing shows the turtle and its target**, in every state that a turtle simulator or a
game of an accepted configuration can reach, as long as the tolerance is a number and no coordinate
lies exactly half a cell off the board. -/
theorem Config.drawings_show_turtle {text : String} {c : Config} (h : ofYaml text = .ok c)
    (hnumber : c.board.epsilon.isNaN = false) :
    (∀ rs : List Request, (after c.turtleSimulator rs).world.IsDrawn c.board) ∧
      ∀ rs : List GameRequest, (after (Game.ofConfig c) rs).simulator.world.IsDrawn c.board := by
  have haccepted := accepted_of_ofYaml h
  have hepsilon := haccepted.epsilon hnumber
  constructor
  · intro rs
    have hfair : (after c.turtleSimulator rs).Fair c :=
      after_induction (P := fun s : Simulator Turtle => s.Fair c)
        (fun _ r hfair => hfair.perform r) (.new c.effectivePacing) rs
    exact Turtle.isDrawn haccepted.size hepsilon
      (Simulator.onBoard_after _ c.game.winRadius c.effectivePacing rs) hfair.target
  · intro rs
    have hfair : (after (Game.ofConfig c) rs).simulator.Fair c :=
      after_induction (P := fun m : Game => m.simulator.Fair c)
        (Game.fair_perform haccepted.size.1) (.new _) rs
    exact Turtle.isDrawn haccepted.size hepsilon (Game.onBoard_after c rs) hfair.target

set_option maxRecDepth 100000 in
/-- A small board with a tolerance of a quarter of a cell. -/
theorem Config.drawings_of_small_board :
    let c := { standard with board := ⟨3, 0.25⟩ }
    ofYaml "board: \x7bgrid_size: 3, epsilon: 0.25\x7d" = .ok c ∧ c.board.epsilon.isNaN = false ∧
      (∀ rs : List Request, (after c.turtleSimulator rs).world.IsDrawn c.board) ∧
        ∀ rs : List GameRequest, (after (Game.ofConfig c) rs).simulator.world.IsDrawn c.board := by
  intro c
  have hread : ofYaml "board: \x7bgrid_size: 3, epsilon: 0.25\x7d" = .ok c :=
    ofYaml_eq_ok (by decide +kernel)
  exact ⟨hread, by decide +kernel, drawings_show_turtle hread (by decide +kernel)⟩

set_option maxRecDepth 100000 in
/-- A tolerance of half a cell is accepted.  From home the turtle may then go back by half a cell,
and the drawing shows no arrow. -/
theorem Config.drawing_without_turtle :
    let c := { standard with board := ⟨8, 0.5⟩ }
    let t := (after c.turtleSimulator [.run "TRAS 0.5", .advance, .advance]).world
    ofYaml "board: \x7bepsilon: 0.5\x7d" = .ok c ∧ c.board.epsilon.isNaN = false ∧
      t.pose = ⟨-0.5, 0.0, 90.0⟩ ∧ ∀ column < 8, ∀ row < 8, t.cell column row ∉ Turtle.arrows := by
  intro c t
  have hread : ofYaml "board: \x7bepsilon: 0.5\x7d" = .ok c := ofYaml_eq_ok (by decide +kernel)
  exact ⟨hread, by decide +kernel, by decide +kernel, by decide +kernel⟩

end StepScript
