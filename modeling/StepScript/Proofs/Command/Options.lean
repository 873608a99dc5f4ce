import StepScript.Command.Arguments
set_option autoImplicit false

/-!
# Commands: the options of a run

Read from left to right, the arguments after the script are a sequence of items: an option with its
value, an option without one, or a word that is no option.  An item takes up its own words and no
more, so what comes after a value is read as if the value were not there, even when the value looks
like an option.  Each item overrides one field, hence the last one counts.

Main statement: `Command.ofArguments_items`, for every sequence of items.
-/

namespace StepScript

/-! ## Values -/

namespace Kind

/-- The names that a kind goes by on the command line. -/
def commandNames : Kind → List String
  | turtle => ["turtle", "tartaruga"]
  | game => ["game", "jogo"]
  | led => ["led", "leds"]

/-- The word is a name of the kind, in any ASCII case. -/
def IsNamed (k : Kind) (word : String) : Prop :=
  String.ofList (word.toList.map asciiLower) ∈ k.commandNames

theorem ofName?_eq_some_iff {k : Kind} {word : String} :
    ofName? word = some k ↔ k.IsNamed word := by
  unfold ofName? IsNamed
  generalize String.ofList (word.toList.map asciiLower) = name
  constructor
  · intro h
    simp only [Bool.or_eq_true, decide_eq_true_eq] at h
    split at h
    case isTrue hname => cases h; simpa [commandNames] using hname
    case isFalse =>
      split at h
      case isTrue hname => cases h; simpa [commandNames] using hname
      case isFalse =>
        split at h
        case isTrue hname => cases h; simpa [commandNames] using hname
        case isFalse => cases h
  · intro h
    cases k with
    | turtle | game | led =>
        simp only [commandNames, List.mem_cons, List.not_mem_nil, or_false] at h
        rcases h with rfl | rfl <;> rfl

theorem readKind_of_isNamed {k : Kind} {word : String} (h : k.IsNamed word) :
    readKind word = (some k, []) := by
  rw [readKind, ofName?_eq_some_iff.mpr h]

end Kind

theorem readSpeed?_eq_some_iff {text : String} {x : Float} :
    readSpeed? text = some x ↔ readFloat? text.toList = some x ∧ x.isFinite = true ∧ 0.0 < x := by
  rw [readSpeed?, Option.filter_eq_some_iff, Bool.and_eq_true, decide_eq_true_eq]

theorem isDigit_of_isDigit {c : Char} (h : c.isDigit = true) : isDigit c = true := by
  rw [Char.isDigit_iff_toNat] at h
  simp only [isDigit, Bool.and_eq_true, decide_eq_true_eq, Char.le_def, UInt32.le_iff_toNat_le]
  exact h

/-- The decimal text of a number has its value. -/
theorem digitsValue_toDigits (n : Nat) : digitsValue (Nat.toDigits 10 n) = n := by
  have hfold : digitsValue (Nat.toDigits 10 n) = Nat.ofDigitChars 10 (Nat.toDigits 10 n) 0 := by
    rw [digitsValue, Nat.ofDigitChars_eq_foldl]
    rfl
  rw [hfold, Nat.ofDigitChars_ten_toDigits]

/-- A seed is read back from its decimal text. -/
theorem readSeed?_toString (n : UInt64) : readSeed? (toString n.toNat) = some n := by
  have htext : (toString n.toNat).toList = Nat.toDigits 10 n.toNat := Nat.toList_repr
  have hdigits : ∀ c ∈ Nat.toDigits 10 n.toNat, isDigit c = true := fun c hc =>
    isDigit_of_isDigit (Nat.isDigit_of_mem_toDigits (by decide) (by decide) hc)
  -- No digit is a plus sign, so the text is read from its first character on.
  have hplus : ∀ rest, Nat.toDigits 10 n.toNat ≠ '+' :: rest := fun rest h => by
    have := hdigits '+' (h ▸ List.mem_cons_self)
    revert this
    decide
  unfold readSeed?
  rw [htext]
  split
  case h_1 digits h => exact absurd h (hplus digits)
  case h_2 =>
    have hempty : (Nat.toDigits 10 n.toNat).isEmpty = false := by
      rw [List.isEmpty_eq_false_iff]
      exact Nat.toDigits_ne_nil
    have hall : (Nat.toDigits 10 n.toNat).all isDigit = true := List.all_eq_true.mpr hdigits
    have hsize : ¬UInt64.size ≤ n.toNat := Nat.not_le.mpr n.toNat_lt
    simp only [digitsValue_toDigits, hempty, hall, hsize, Bool.not_true, Bool.or_self,
      decide_false, Bool.false_eq_true, if_false, UInt64.ofNat_toNat]

/-! ## Items -/

/-- The words that are options of a run. -/
def optionWords : List String :=
  ["--sim", "--config", "--seed", "--speed", "--instant", "-v", "--verbose"]

/-- An item of the arguments after the script. -/
inductive RunItem where
  | kind (k : Kind) (name : String) (named : k.IsNamed name)
  | config (path : String)
  | seed (n : UInt64)
  | speed (x : Float) (text : String) (reads : readFloat? text.toList = some x)
      (finite : x.isFinite = true) (positive : 0.0 < x)
  /-- A speed that is no positive finite number. -/
  | badSpeed (text : String)
      (bad : ∀ x, readFloat? text.toList = some x → x.isFinite = true → ¬0.0 < x)
  | instant
  | verbose (word : String) (spelled : word = "-v" ∨ word = "--verbose")
  /-- A word that is no option. -/
  | other (word : String) (plain : word ∉ optionWords)

namespace RunItem

/-- The words of an item. -/
def words : RunItem → List String
  | kind _ name _ => ["--sim", name]
  | config path => ["--config", path]
  | seed n => ["--seed", toString n.toNat]
  | speed _ text _ _ _ => ["--speed", text]
  | badSpeed text _ => ["--speed", text]
  | instant => ["--instant"]
  | verbose word _ => [word]
  | other word _ => [word]

/-- The kind that an item names. -/
def kind? : RunItem → Option Kind
  | kind k _ _ => some k
  | _ => none

/-- The path of the configuration that an item names. -/
def config? : RunItem → Option String
  | config path => some path
  | _ => none

/-- The seed that an item gives. -/
def seed? : RunItem → Option UInt64
  | seed n => some n
  | _ => none

/-- The speed that an item gives; a bad one gives none. -/
def speed? : RunItem → Option Float
  | speed x _ _ _ _ => some x
  | _ => none

/-- Whether an item asks for no pauses. -/
def isInstant : RunItem → Bool
  | instant => true
  | _ => false

/-- Whether an item asks for the summary of the configuration. -/
def isVerbose : RunItem → Bool
  | verbose _ _ => true
  | _ => false

/-- The warnings that an item gives. -/
def warnings : RunItem → List String
  | badSpeed _ _ => ["Warning: --speed expects a positive number"]
  | _ => []

/-- The last value that an item of the sequence has. -/
def last {α : Type} (value? : RunItem → Option α) (items : List RunItem) : Option α :=
  (items.filterMap value?).getLast?

/-- A value counts unless a later item has one. -/
theorem last_cons {α : Type} (value? : RunItem → Option α) (item : RunItem)
    (items : List RunItem) :
    last value? (item :: items) = (last value? items).or (value? item) := by
  unfold last
  cases hitem : value? item with
  | none => rw [List.filterMap_cons_none hitem, Option.or_none]
  | some v =>
      rw [List.filterMap_cons_some hitem, List.getLast?_cons]
      cases (items.filterMap value?).getLast? <;> rfl

end RunItem

namespace RunOptions

/-- The options after one more item. -/
def after (o : RunOptions) (item : RunItem) : RunOptions where
  script := o.script
  kind := item.kind?.or o.kind
  config := item.config?.or o.config
  seed := item.seed?.or o.seed
  speed := item.speed?.getD o.speed
  instant := item.isInstant || o.instant
  verbose := item.isVerbose || o.verbose

theorem take_other {word : String} (plain : word ∉ optionWords) (o : RunOptions)
    (rest : List String) : o.take (word :: rest) = o.take rest := by
  simp only [optionWords, List.mem_cons, List.not_mem_nil, or_false, not_or] at plain
  obtain ⟨hsim, hconfig, hseed, hspeed, hinstant, hv, hverbose⟩ := plain
  rw [take] <;> simp_all

theorem take_words (o : RunOptions) (item : RunItem) (rest : List String) :
    o.take (item.words ++ rest) =
      (((o.after item).take rest).1, item.warnings ++ ((o.after item).take rest).2) := by
  cases item with
  | kind k name named =>
      change o.take ("--sim" :: name :: rest) = _
      rw [take, Kind.readKind_of_isNamed named]
      rfl
  | config path => rfl
  | seed n =>
      change o.take ("--seed" :: toString n.toNat :: rest) = _
      rw [take, readSeed?_toString]
      rfl
  | speed x text reads finite positive =>
      have hread : readSpeed? text = some x :=
        readSpeed?_eq_some_iff.mpr ⟨reads, finite, positive⟩
      change o.take ("--speed" :: text :: rest) = _
      rw [take, hread]
      rfl
  | badSpeed text bad =>
      have hread : readSpeed? text = none := by
        rw [Option.eq_none_iff_forall_ne_some]
        intro x hx
        obtain ⟨hreads, hfinite, hpositive⟩ := readSpeed?_eq_some_iff.mp hx
        exact bad x hreads hfinite hpositive
      change o.take ("--speed" :: text :: rest) = _
      rw [take, hread]
      rfl
  | instant => rfl
  | verbose word spelled =>
      rcases spelled with rfl | rfl
      · rfl
      · rfl
  | other word plain => exact take_other plain o rest

/-- The arguments are taken item by item. -/
theorem take_items (items : List RunItem) (o : RunOptions) :
    o.take (items.flatMap RunItem.words) =
      (items.foldl after o, items.flatMap RunItem.warnings) := by
  induction items generalizing o with
  | nil => rfl
  | cons item items ih =>
      rw [List.flatMap_cons, take_words, ih, List.foldl_cons, List.flatMap_cons]

/-- A field that each item overrides with its own value ends with the last one. -/
theorem foldl_after_eq_last {α : Type} (field : RunOptions → Option α)
    (value? : RunItem → Option α)
    (hstep : ∀ o item, field (o.after item) = (value? item).or (field o)) (items : List RunItem)
    (o : RunOptions) :
    field (items.foldl after o) = (RunItem.last value? items).or (field o) := by
  induction items generalizing o with
  | nil => rfl
  | cons item items ih =>
      rw [List.foldl_cons, ih, hstep, RunItem.last_cons, Option.or_assoc]

/-- A flag is set by the items that set it, and stays set. -/
theorem foldl_after_eq_any (flag : RunOptions → Bool) (sets : RunItem → Bool)
    (hstep : ∀ o item, flag (o.after item) = (sets item || flag o)) (items : List RunItem)
    (o : RunOptions) : flag (items.foldl after o) = (items.any sets || flag o) := by
  induction items generalizing o with
  | nil => rfl
  | cons item items ih =>
      rw [List.foldl_cons, ih, hstep, List.any_cons, ← Bool.or_assoc, Bool.or_comm (items.any sets)]

theorem foldl_after_script (items : List RunItem) (o : RunOptions) :
    (items.foldl after o).script = o.script := by
  induction items generalizing o with
  | nil => rfl
  | cons item items ih => exact ih (o.after item)

theorem foldl_after_speed (items : List RunItem) (o : RunOptions) :
    (items.foldl after o).speed = (RunItem.last RunItem.speed? items).getD o.speed := by
  have hstep : ∀ (o : RunOptions) (item : RunItem),
      some (o.after item).speed = item.speed?.or (some o.speed) := fun o item => by
    rw [after]
    cases item.speed? <;> rfl
  have hlast := foldl_after_eq_last (fun o => some o.speed) RunItem.speed? hstep items o
  rw [← Option.some_inj, hlast]
  cases RunItem.last RunItem.speed? items <;> rfl

/-- The options that a sequence of items stands for: of each option the last value, of each flag
whether it occurs. -/
def ofItems (script : String) (items : List RunItem) : RunOptions where
  script := script
  kind := RunItem.last RunItem.kind? items
  config := RunItem.last RunItem.config? items
  seed := RunItem.last RunItem.seed? items
  speed := (RunItem.last RunItem.speed? items).getD 1.0
  instant := items.any RunItem.isInstant
  verbose := items.any RunItem.isVerbose

/-- What a run without options becomes by a sequence of items. -/
theorem foldl_after_ofScript (script : String) (items : List RunItem) :
    items.foldl after (ofScript script) = ofItems script items := by
  obtain ⟨o, ho⟩ : ∃ o, o = ofScript script := ⟨_, rfl⟩
  have hscript := foldl_after_script items o
  have hkind := foldl_after_eq_last kind RunItem.kind? (fun _ _ => rfl) items o
  have hconfig := foldl_after_eq_last config RunItem.config? (fun _ _ => rfl) items o
  have hseed := foldl_after_eq_last seed RunItem.seed? (fun _ _ => rfl) items o
  have hspeed := foldl_after_speed items o
  have hinstant := foldl_after_eq_any instant RunItem.isInstant (fun _ _ => rfl) items o
  have hverbose := foldl_after_eq_any verbose RunItem.isVerbose (fun _ _ => rfl) items o
  rw [← ho]
  generalize items.foldl after o = taken at *
  cases taken
  subst ho
  simp only [ofScript, Option.or_none, Bool.or_false] at *
  subst_vars
  rfl

end RunOptions

namespace Command

/-- **For every sequence of items, the run has the script, the last value of each option and the
flags that occur.**  The only warnings are about speeds that cannot be used, one for each of them;
such a speed changes nothing else. -/
theorem ofArguments_items (program script : String) (items : List RunItem) :
    ofArguments (program :: "run" :: script :: items.flatMap RunItem.words) =
      (.run (.ofItems script items), items.flatMap RunItem.warnings) := by
  change readRun (script :: items.flatMap RunItem.words) = _
  rw [readRun, RunOptions.take_items, RunOptions.foldl_after_ofScript]

/-- The value of an option is never an option itself. -/
example : ofArguments ["codestep", "run", "a.txt", "--config", "--seed", "7"] =
    (.run { RunOptions.ofScript "a.txt" with config := some "--seed" }, []) := rfl

end Command

end StepScript
