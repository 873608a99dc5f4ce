import Mathlib.Computability.Language
import StepScript.Proofs.Text.Runs
set_option autoImplicit false

/-!
# Numbers: the grammar of decimal literals

`Grammar.decimalLiterals` is the language of `[+-]? (D+ ('.' D*)? | '.' D+) ([eE] [+-]? D+)?`.  It
is the language of the texts of literals whose parts are what they are named for, with a digit
before or after the point.

Main statements: `splitSign_append_of_mem`, which sign is split off a text, and
`Grammar.mem_decimalLiterals_iff`.
-/

namespace StepScript

open scoped Computability

/-! ## Signs and digits -/

/-- A sign or none. -/
def signs : List (List Char) := [[], ['+'], ['-']]

/-- The character is a sign. -/
def isSign (c : Char) : Bool := c = '+' || c = '-'

theorem splitSign_fst_mem (cs : List Char) : (splitSign cs).1 ∈ signs := by
  unfold splitSign
  split <;> simp [signs]

theorem stopsAt_isSign_of_splitSign {cs : List Char} (h : (splitSign cs).1 = []) :
    StopsAt isSign cs := by
  unfold splitSign at h
  split at h
  · cases h
  · cases h
  · next hplus hminus =>
      cases cs with
      | nil => exact stopsAt_nil _
      | cons c cs =>
          have hc : c ≠ '+' ∧ c ≠ '-' :=
            ⟨fun hc => hplus cs (hc ▸ rfl), fun hc => hminus cs (hc ▸ rfl)⟩
          simp [stopsAt_cons, isSign, hc]

/-- The first sign is split off, and no second. -/
theorem splitSign_append_of_mem {sign : List Char} (hsign : sign ∈ signs) {cs : List Char}
    (h : sign = [] → StopsAt isSign cs) : splitSign (sign ++ cs) = (sign, cs) := by
  simp only [signs, List.mem_cons, List.not_mem_nil, or_false] at hsign
  rcases hsign with rfl | rfl | rfl
  · unfold splitSign
    rw [List.nil_append]
    split
    · exact absurd (stopsAt_cons.mp (h rfl)) (by decide)
    · exact absurd (stopsAt_cons.mp (h rfl)) (by decide)
    · rfl
  · rfl
  · rfl

/-- The ASCII digits are ten. -/
theorem isDigit_iff_mem {c : Char} : isDigit c = true ↔ c ∈ "0123456789".toList := by
  constructor
  · intro h
    exact forall_isAscii (P := fun c => isDigit c = true → c ∈ "0123456789".toList) (by decide)
      (isAscii_of_isDigit h) h
  · have hall : "0123456789".toList.all isDigit = true := by decide
    exact List.all_eq_true.mp hall c

theorem isSign_eq_false_of_isHexDigit {c : Char} (h : isHexDigit c = true) : isSign c = false :=
  forall_isAscii (P := fun c => isHexDigit c = true → isSign c = false) (by decide)
    (isAscii_of_isHexDigit h) h

theorem isSign_eq_false_of_isDigit {c : Char} (h : isDigit c = true) : isSign c = false :=
  isSign_eq_false_of_isHexDigit (by rw [isHexDigit, h, Bool.true_or, Bool.true_or])

/-! ## The language -/

namespace Grammar

/-- The texts of one character, out of some. -/
def oneOf (alphabet : String) : Language Char := {cs | ∃ c ∈ alphabet.toList, cs = [c]}

/-- A text of the language, or none. -/
def optional (L : Language Char) : Language Char := 1 + L

/-- Any number of digits. -/
def digits : Language Char := (oneOf "0123456789")∗

/-- One digit or more. -/
def someDigits : Language Char := oneOf "0123456789" * digits

/-- `[+-]? (D+ ('.' D*)? | '.' D+) ([eE] [+-]? D+)?`, where `D` is a digit. -/
def decimalLiterals : Language Char :=
  optional (oneOf "+-") * (someDigits * optional (oneOf "." * digits) + oneOf "." * someDigits) *
    optional (oneOf "eE" * optional (oneOf "+-") * someDigits)

theorem mem_oneOf {alphabet : String} {cs : List Char} :
    cs ∈ oneOf alphabet ↔ ∃ c ∈ alphabet.toList, cs = [c] := Iff.rfl

theorem mem_optional {L : Language Char} {cs : List Char} : cs ∈ optional L ↔ cs = [] ∨ cs ∈ L := by
  rw [optional, Language.mem_add, Language.mem_one]

theorem mem_digits_iff {cs : List Char} : cs ∈ digits ↔ ∀ c ∈ cs, isDigit c = true := by
  rw [digits, Language.mem_kstar]
  constructor
  · rintro ⟨pieces, rfl, hpieces⟩ c hc
    obtain ⟨piece, hpiece, hmem⟩ := List.mem_flatten.mp hc
    obtain ⟨d, hd, rfl⟩ := hpieces piece hpiece
    rw [List.mem_singleton.mp hmem]
    exact isDigit_iff_mem.mpr hd
  · intro h
    refine ⟨cs.map fun c => [c], by rw [← List.flatMap_def, List.flatMap_singleton'], ?_⟩
    intro piece hpiece
    obtain ⟨c, hc, rfl⟩ := List.mem_map.mp hpiece
    exact ⟨c, isDigit_iff_mem.mp (h c hc), rfl⟩

theorem mem_someDigits_iff {cs : List Char} :
    cs ∈ someDigits ↔ cs ≠ [] ∧ ∀ c ∈ cs, isDigit c = true := by
  rw [someDigits, Language.mem_mul]
  constructor
  · rintro ⟨_, ⟨c, hc, rfl⟩, rest, hrest, rfl⟩
    exact ⟨List.cons_ne_nil c rest,
      List.forall_mem_cons.mpr ⟨isDigit_iff_mem.mpr hc, mem_digits_iff.mp hrest⟩⟩
  · rintro ⟨hne, h⟩
    obtain ⟨c, rest, rfl⟩ := List.exists_cons_of_ne_nil hne
    rw [List.forall_mem_cons] at h
    exact ⟨[c], ⟨c, isDigit_iff_mem.mp h.1, rfl⟩, rest, mem_digits_iff.mpr h.2, rfl⟩

theorem mem_optional_sign_iff {cs : List Char} : cs ∈ optional (oneOf "+-") ↔ cs ∈ signs := by
  rw [mem_optional, mem_oneOf, signs, List.mem_cons]
  simp

end Grammar

/-! ## Literals -/

namespace Literal

/-- The text of a fraction. -/
def fractionText : Option (List Char) → List Char
  | none => []
  | some digits => '.' :: digits

/-- The text of an exponent. -/
def exponentText : Option (Char × List Char × List Char) → List Char
  | none => []
  | some (mark, sign, digits) => mark :: (sign ++ digits)

theorem text_eq (l : Literal) :
    l.text = l.sign ++ l.whole ++ fractionText l.fraction ++ exponentText l.exponent := rfl

/-- Digits, and a fraction or none, with a digit before or after the point. -/
structure IsNumeral (whole : List Char) (fraction : Option (List Char)) : Prop where
  isDigit_whole : ∀ c ∈ whole, isDigit c = true
  isDigit_fraction : ∀ digits, fraction = some digits → ∀ c ∈ digits, isDigit c = true
  digit : whole ≠ [] ∨ fraction.getD [] ≠ []

/-- No exponent, or one with a digit. -/
inductive IsExponent : Option (Char × List Char × List Char) → Prop where
  | absent : IsExponent none
  | present {mark : Char} {sign digits : List Char} (mark_eq : mark = 'e' ∨ mark = 'E')
      (sign_mem : sign ∈ signs) (digits_ne_nil : digits ≠ [])
      (isDigit_digits : ∀ c ∈ digits, isDigit c = true) : IsExponent (some (mark, sign, digits))

/-- The parts of a literal are what they are named for. -/
structure WellFormed (l : Literal) : Prop where
  sign : l.sign ∈ signs
  numeral : IsNumeral l.whole l.fraction
  exponent : IsExponent l.exponent

end Literal

namespace Grammar

open Literal

theorem mem_numeral_iff {cs : List Char} :
    cs ∈ someDigits * optional (oneOf "." * digits) + oneOf "." * someDigits ↔
      ∃ whole fraction, IsNumeral whole fraction ∧ whole ++ fractionText fraction = cs := by
  rw [Language.mem_add, Language.mem_mul, Language.mem_mul]
  constructor
  · rintro (⟨whole, hwhole, fraction, hfraction, rfl⟩ | ⟨_, ⟨c, hc, rfl⟩, digits, hdigits, rfl⟩)
    · obtain ⟨hsome, hwhole⟩ := mem_someDigits_iff.mp hwhole
      rcases mem_optional.mp hfraction with rfl | hfraction
      · exact ⟨whole, none, ⟨hwhole, nofun, .inl hsome⟩, rfl⟩
      · obtain ⟨_, ⟨c, hc, rfl⟩, digits, hdigits, rfl⟩ := Language.mem_mul.mp hfraction
        obtain rfl : c = '.' := List.mem_singleton.mp hc
        refine ⟨whole, some digits, ⟨hwhole, ?_, .inl hsome⟩, rfl⟩
        rintro _ ⟨⟩
        exact mem_digits_iff.mp hdigits
    · obtain rfl : c = '.' := List.mem_singleton.mp hc
      obtain ⟨hsome, hdigits⟩ := mem_someDigits_iff.mp hdigits
      refine ⟨[], some digits, ⟨nofun, ?_, .inr hsome⟩, rfl⟩
      rintro _ ⟨⟩
      exact hdigits
  · rintro ⟨whole, fraction, ⟨hwhole, hfraction, hdigit⟩, rfl⟩
    have hpoint : ['.'] ∈ oneOf "." := ⟨'.', List.mem_singleton.mpr rfl, rfl⟩
    by_cases hsome : whole = []
    · subst hsome
      have hsome : fraction.getD [] ≠ [] := hdigit.resolve_left fun h => h rfl
      cases fraction with
      | none => exact absurd rfl hsome
      | some digits =>
          exact .inr ⟨['.'], hpoint, digits,
            mem_someDigits_iff.mpr ⟨hsome, hfraction digits rfl⟩, rfl⟩
    · refine .inl ⟨whole, mem_someDigits_iff.mpr ⟨hsome, hwhole⟩, _, ?_, rfl⟩
      cases fraction with
      | none => exact mem_optional.mpr (.inl rfl)
      | some digits =>
          exact mem_optional.mpr (.inr (Language.mem_mul.mpr
            ⟨['.'], hpoint, digits, mem_digits_iff.mpr (hfraction digits rfl), rfl⟩))

theorem mem_exponent_iff {cs : List Char} :
    cs ∈ optional (oneOf "eE" * optional (oneOf "+-") * someDigits) ↔
      ∃ exponent, IsExponent exponent ∧ exponentText exponent = cs := by
  rw [mem_optional, Language.mem_mul]
  constructor
  · rintro (rfl | ⟨front, hfront, digits, hdigits, rfl⟩)
    · exact ⟨none, .absent, rfl⟩
    · obtain ⟨_, ⟨mark, hmark, rfl⟩, sign, hsign, rfl⟩ := Language.mem_mul.mp hfront
      obtain ⟨hsome, hdigits⟩ := mem_someDigits_iff.mp hdigits
      exact ⟨some (mark, sign, digits),
        .present (by simpa using hmark) (mem_optional_sign_iff.mp hsign) hsome hdigits, rfl⟩
  · rintro ⟨exponent, h, rfl⟩
    cases h with
    | absent => exact .inl rfl
    | @present mark sign digits hmark hsign hsome hdigits =>
        have hfront : mark :: sign ∈ oneOf "eE" * optional (oneOf "+-") :=
          Language.mem_mul.mpr ⟨[mark], ⟨mark, by simpa using hmark, rfl⟩, sign,
            mem_optional_sign_iff.mpr hsign, rfl⟩
        exact .inr ⟨mark :: sign, hfront, digits, mem_someDigits_iff.mpr ⟨hsome, hdigits⟩, rfl⟩

/-- **The language is that of the literals.** -/
theorem mem_decimalLiterals_iff {cs : List Char} :
    cs ∈ decimalLiterals ↔ ∃ l : Literal, l.WellFormed ∧ l.text = cs := by
  rw [decimalLiterals, Language.mem_mul]
  constructor
  · rintro ⟨front, hfront, back, hback, rfl⟩
    obtain ⟨sign, hsign, middle, hmiddle, rfl⟩ := Language.mem_mul.mp hfront
    obtain ⟨whole, fraction, hnumeral, rfl⟩ := mem_numeral_iff.mp hmiddle
    obtain ⟨exponent, hexponent, rfl⟩ := mem_exponent_iff.mp hback
    refine ⟨⟨sign, whole, fraction, exponent⟩,
      ⟨mem_optional_sign_iff.mp hsign, hnumeral, hexponent⟩, ?_⟩
    rw [text_eq, ← List.append_assoc sign]
  · rintro ⟨l, h, rfl⟩
    have hfront : l.sign ++ (l.whole ++ fractionText l.fraction) ∈ optional (oneOf "+-") *
        (someDigits * optional (oneOf "." * digits) + oneOf "." * someDigits) :=
      Language.mem_mul.mpr ⟨l.sign, mem_optional_sign_iff.mpr h.sign, _,
        mem_numeral_iff.mpr ⟨l.whole, l.fraction, h.numeral, rfl⟩, rfl⟩
    refine ⟨_, hfront, _, mem_exponent_iff.mpr ⟨l.exponent, h.exponent, rfl⟩, ?_⟩
    rw [text_eq, ← List.append_assoc l.sign]

end Grammar

end StepScript
