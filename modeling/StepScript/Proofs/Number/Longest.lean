import Mathlib.Data.List.TakeWhile
import StepScript.Proofs.Number.Grammar
set_option autoImplicit false

/-!
# Numbers: the longest literal that a text starts with

The literal that a text starts with is cut off from left to right, each part as long as it goes, an
exponent without digits left aside.  That finds the longest prefix in the grammar: a literal at the
start of the text extends to what the cut finds, because only its last part can go on.  Hence the
cut depends on the literals that the text starts with, and neither on what follows a character that
is in no literal nor on whether the text is read by characters or by bytes.

Main statements: `Literal.cut?_text_append`, `Literal.cut?_eq_none_iff`,
`Literal.isLongestPrefix_iff`, `InPlace.number_eq` and `readsLongestLiteral`.
-/

namespace StepScript

/-! ## The parts of a cut -/

namespace Literal

theorem fractionText_cutFraction (cs : List Char) :
    fractionText (cutFraction cs).1 ++ (cutFraction cs).2 = cs := by
  unfold cutFraction
  split
  · rw [fractionText, List.cons_append, List.takeWhile_append_dropWhile]
  · rfl

theorem exponentText_cutExponent (cs : List Char) :
    exponentText (cutExponent cs).1 ++ (cutExponent cs).2 = cs := by
  cases cs with
  | nil => rfl
  | cons mark rest =>
      rw [cutExponent]
      split
      · dsimp only
        split
        · rfl
        · rw [exponentText, List.cons_append, List.append_assoc, List.takeWhile_append_dropWhile,
            splitSign_append]
      · rfl

/-- An exponent is cut off with a digit, or not at all. -/
theorem isExponent_cutExponent (cs : List Char) : IsExponent (cutExponent cs).1 := by
  cases cs with
  | nil => exact .absent
  | cons mark rest =>
      rw [cutExponent]
      split
      · next hmark =>
          dsimp only
          split
          · exact .absent
          · next hdigits =>
              exact .present hmark (splitSign_fst_mem rest)
                (fun hnil => hdigits (List.isEmpty_iff.mpr hnil))
                fun c hc => List.mem_takeWhile_imp hc
      · exact .absent

theorem cutFraction_suffix (cs : List Char) : (cutFraction cs).2 <:+ cs :=
  ⟨_, fractionText_cutFraction cs⟩

theorem cutExponent_suffix (cs : List Char) : (cutExponent cs).2 <:+ cs :=
  ⟨_, exponentText_cutExponent cs⟩

/-- No fraction without a point. -/
theorem cutFraction_of_ne_point {c : Char} (hc : c ≠ '.') (cs : List Char) :
    cutFraction (c :: cs) = (none, c :: cs) := by
  unfold cutFraction
  split
  · next h => exact absurd (List.cons.inj h).1 hc
  · rfl

/-- A cut put together from its parts. -/
theorem cut?_of_parts {cs sign body whole afterWhole afterFraction rest : List Char}
    {fraction : Option (List Char)} {exponent : Option (Char × List Char × List Char)}
    (hsign : splitSign cs = (sign, body)) (hwhole : body.takeWhile isDigit = whole)
    (hafter : body.dropWhile isDigit = afterWhole)
    (hfraction : cutFraction afterWhole = (fraction, afterFraction))
    (hdigit : whole ≠ [] ∨ fraction.getD [] ≠ [])
    (hexponent : cutExponent afterFraction = (exponent, rest)) :
    cut? cs = some (⟨sign, whole, fraction, exponent⟩, rest) := by
  have hsome : ¬ (whole.isEmpty && (fraction.getD []).isEmpty) = true := by
    rw [Bool.and_eq_true, List.isEmpty_iff, List.isEmpty_iff, not_and_or]
    exact hdigit
  simp only [cut?, hsign, hwhole, hafter, hfraction, hexponent, if_neg hsome]

/-- **What is cut off is a literal**, and it is cut off the front. -/
theorem wellFormed_of_cut? {cs rest : List Char} {l : Literal} (h : cut? cs = some (l, rest)) :
    l.WellFormed ∧ l.text ++ rest = cs := by
  simp only [cut?] at h
  split at h
  · cases h
  · next hsome =>
      cases h
      rw [Bool.and_eq_true, List.isEmpty_iff, List.isEmpty_iff, not_and_or] at hsome
      refine ⟨⟨splitSign_fst_mem cs, ⟨fun c hc => List.mem_takeWhile_imp hc, ?_, hsome⟩,
        isExponent_cutExponent _⟩, ?_⟩
      · intro digits hdigits
        unfold cutFraction at hdigits
        split at hdigits
        · cases hdigits
          exact fun c hc => List.mem_takeWhile_imp hc
        · cases hdigits
      · rw [text_eq, List.append_assoc, exponentText_cutExponent, List.append_assoc,
          fractionText_cutFraction, List.append_assoc, List.takeWhile_append_dropWhile,
          splitSign_append]

/-! ## Extension -/

/-- A literal with as much of the text after it as carries it on, and the rest of that text. -/
def extend (l : Literal) (tail : List Char) : Literal × List Char :=
  let more := tail.takeWhile isDigit
  let rest := tail.dropWhile isDigit
  match l.exponent, l.fraction with
  | some (mark, sign, digits), _ =>
      ({ l with exponent := some (mark, sign, digits ++ more) }, rest)
  | none, some digits =>
      let (exponent, rest) := cutExponent rest
      ({ l with fraction := some (digits ++ more), exponent := exponent }, rest)
  | none, none =>
      let (fraction, rest) := cutFraction rest
      let (exponent, rest) := cutExponent rest
      ({ l with whole := l.whole ++ more, fraction := fraction, exponent := exponent }, rest)

theorem extend_nil (l : Literal) : l.extend [] = (l, []) := by
  obtain ⟨sign, whole, fraction, exponent⟩ := l
  cases exponent with
  | some parts => simp [extend]
  | none =>
      cases fraction with
      | some digits => simp [extend, cutExponent]
      | none => simp [extend, cutFraction, cutExponent]

theorem extend_suffix (l : Literal) (tail : List Char) : (l.extend tail).2 <:+ tail := by
  have hrest := List.dropWhile_suffix (l := tail) isDigit
  obtain ⟨sign, whole, fraction, exponent⟩ := l
  cases exponent with
  | some parts => exact hrest
  | none =>
      cases fraction with
      | some digits => exact (cutExponent_suffix _).trans hrest
      | none => exact (cutExponent_suffix _).trans ((cutFraction_suffix _).trans hrest)

theorem stopsAt_isSign_of_digits {digits : List Char} (hsome : digits ≠ [])
    (hdigits : ∀ c ∈ digits, isDigit c = true) (tail : List Char) :
    StopsAt isSign (digits ++ tail) := by
  obtain ⟨c, rest, rfl⟩ := List.exists_cons_of_ne_nil hsome
  exact stopsAt_cons.mpr (isSign_eq_false_of_isDigit (hdigits c List.mem_cons_self))

/-- A numeral starts with a digit or a point. -/
theorem IsNumeral.stopsAt_isSign {whole : List Char} {fraction : Option (List Char)}
    (h : IsNumeral whole fraction) (tail : List Char) :
    StopsAt isSign (whole ++ (fractionText fraction ++ tail)) := by
  by_cases hsome : whole = []
  · subst hsome
    cases fraction with
    | none => exact absurd rfl (h.digit.resolve_left fun hne => hne rfl)
    | some digits => exact stopsAt_cons.mpr rfl
  · exact stopsAt_isSign_of_digits hsome h.isDigit_whole _

/-- An exponent starts with its mark, and only its digits can go on. -/
theorem cutExponent_text_append {mark : Char} {sign digits : List Char}
    (h : IsExponent (some (mark, sign, digits))) (tail : List Char) :
    mark ≠ '.' ∧ isDigit mark = false ∧
      cutExponent (exponentText (some (mark, sign, digits)) ++ tail) =
        (some (mark, sign, digits ++ tail.takeWhile isDigit), tail.dropWhile isDigit) := by
  cases h with
  | present hmark hsign hsome hdigits =>
      refine ⟨by rintro rfl; revert hmark; decide, by rcases hmark with rfl | rfl <;> rfl, ?_⟩
      have hsplit : splitSign (sign ++ (digits ++ tail)) = (sign, digits ++ tail) :=
        splitSign_append_of_mem hsign fun _ => stopsAt_isSign_of_digits hsome hdigits tail
      have hne : ¬ (digits ++ tail.takeWhile isDigit).isEmpty = true := by
        simp [hsome]
      simp only [exponentText, List.cons_append, List.append_assoc, cutExponent, if_pos hmark,
        hsplit, List.takeWhile_append_of_pos hdigits, List.dropWhile_append_of_pos hdigits, if_neg hne]

/-- Only the digits of a fraction can go on. -/
theorem cutFraction_text_append {digits : List Char} (hdigits : ∀ c ∈ digits, isDigit c = true)
    (tail : List Char) :
    cutFraction (fractionText (some digits) ++ tail) =
      (some (digits ++ tail.takeWhile isDigit), tail.dropWhile isDigit) := by
  rw [fractionText, List.cons_append, cutFraction, List.takeWhile_append_of_pos hdigits,
    List.dropWhile_append_of_pos hdigits]

/-- **A literal at the start of a text extends to the literal that is cut off.** -/
theorem cut?_text_append {l : Literal} (h : l.WellFormed) (tail : List Char) :
    cut? (l.text ++ tail) = some (l.extend tail) := by
  obtain ⟨sign, whole, fraction, exponent⟩ := l
  obtain ⟨hsign, hnumeral, hexponent⟩ := h
  have hsplit : splitSign (text ⟨sign, whole, fraction, exponent⟩ ++ tail) =
      (sign, whole ++ (fractionText fraction ++ (exponentText exponent ++ tail))) := by
    rw [text_eq, List.append_assoc, List.append_assoc, List.append_assoc]
    exact splitSign_append_of_mem hsign fun _ => hnumeral.stopsAt_isSign _
  have hwhole := hnumeral.isDigit_whole
  have hpoint (digits rest : List Char) : StopsAt isDigit (fractionText (some digits) ++ rest) :=
    stopsAt_cons.mpr rfl
  cases exponent with
  | some parts =>
      obtain ⟨mark, expSign, expDigits⟩ := parts
      obtain ⟨hmark, hstart, hcut⟩ := cutExponent_text_append hexponent tail
      have hstop : StopsAt isDigit (exponentText (some (mark, expSign, expDigits)) ++ tail) :=
        stopsAt_cons.mpr hstart
      cases fraction with
      | some digits =>
          have hfraction := cutFraction_text_append (hnumeral.isDigit_fraction digits rfl)
            (exponentText (some (mark, expSign, expDigits)) ++ tail)
          rw [hstop.takeWhile_eq, hstop.dropWhile_eq, List.append_nil] at hfraction
          exact cut?_of_parts hsplit ((hpoint digits _).takeWhile_append hwhole)
            ((hpoint digits _).dropWhile_append hwhole) hfraction hnumeral.digit hcut
      | none =>
          exact cut?_of_parts hsplit (hstop.takeWhile_append hwhole)
            (hstop.dropWhile_append hwhole) (cutFraction_of_ne_point hmark _) hnumeral.digit
            hcut
  | none =>
      cases fraction with
      | some digits =>
          have hfraction := cutFraction_text_append (hnumeral.isDigit_fraction digits rfl) tail
          have hdigit : whole ≠ [] ∨ digits ++ tail.takeWhile isDigit ≠ [] :=
            hnumeral.digit.imp_right fun hne hnil => hne (List.append_eq_nil_iff.mp hnil).1
          exact cut?_of_parts hsplit ((hpoint digits _).takeWhile_append hwhole)
            ((hpoint digits _).dropWhile_append hwhole) hfraction hdigit rfl
      | none =>
          have hsome : whole ≠ [] := hnumeral.digit.resolve_right fun hne => hne rfl
          exact cut?_of_parts hsplit (List.takeWhile_append_of_pos hwhole)
            (List.dropWhile_append_of_pos hwhole) rfl
            (.inl fun hnil => hsome (List.append_eq_nil_iff.mp hnil).1) rfl

/-- A literal is read back from its text. -/
theorem cut?_text {l : Literal} (h : l.WellFormed) : cut? l.text = some (l, []) := by
  have hcut := cut?_text_append h []
  rwa [List.append_nil, extend_nil] at hcut

theorem text_injective {l l' : Literal} (h : l.WellFormed) (h' : l'.WellFormed)
    (htext : l.text = l'.text) : l = l' := by
  have hcut := cut?_text h
  rw [htext, cut?_text h'] at hcut
  cases hcut
  rfl

end Literal

/-! ## The longest prefix -/

/-- The longest of the texts in a language that a text starts with. -/
structure IsLongestPrefix (L : Language Char) (cs p : List Char) : Prop where
  mem : p ∈ L
  starts : p <+: cs
  longest : ∀ q ∈ L, q <+: cs → q.length ≤ p.length

theorem IsLongestPrefix.unique {L : Language Char} {cs p q : List Char}
    (hp : IsLongestPrefix L cs p) (hq : IsLongestPrefix L cs q) : p = q := by
  have hlength := Nat.le_antisymm (hq.longest p hp.mem hp.starts) (hp.longest q hq.mem hq.starts)
  exact (List.prefix_of_prefix_length_le hp.starts hq.starts hlength.le).eq_of_length hlength

namespace Literal

open Grammar

/-- **What is cut off is the longest prefix** in the grammar. -/
theorem isLongestPrefix_of_cut? {cs rest : List Char} {l : Literal}
    (h : cut? cs = some (l, rest)) : IsLongestPrefix decimalLiterals cs l.text := by
  obtain ⟨hl, hcs⟩ := wellFormed_of_cut? h
  refine ⟨mem_decimalLiterals_iff.mpr ⟨l, hl, rfl⟩, ⟨rest, hcs⟩, ?_⟩
  intro q hq hstarts
  obtain ⟨l', hl', rfl⟩ := mem_decimalLiterals_iff.mp hq
  obtain ⟨tail, htail⟩ := hstarts
  -- The other literal extends to the one cut off, so no more of the text is left over.
  rw [← htail, cut?_text_append hl' tail] at h
  have hrest : rest.length ≤ tail.length := by
    have hsuffix := l'.extend_suffix tail
    rw [Option.some.inj h] at hsuffix
    exact hsuffix.length_le
  have hlength := congrArg List.length (hcs.trans htail.symm)
  rw [List.length_append, List.length_append] at hlength
  omega

/-- **Nothing is cut off** exactly when no prefix is in the grammar. -/
theorem cut?_eq_none_iff {cs : List Char} :
    cut? cs = none ↔ ∀ p ∈ decimalLiterals, ¬ p <+: cs := by
  constructor
  · rintro h p hp ⟨tail, rfl⟩
    obtain ⟨l, hl, rfl⟩ := mem_decimalLiterals_iff.mp hp
    rw [cut?_text_append hl] at h
    cases h
  · intro h
    cases hcut : cut? cs with
    | none => rfl
    | some cut =>
        have hlongest := isLongestPrefix_of_cut? hcut
        exact absurd hlongest.starts (h _ hlongest.mem)

theorem isLongestPrefix_iff {cs p : List Char} :
    IsLongestPrefix decimalLiterals cs p ↔ ∃ l rest, cut? cs = some (l, rest) ∧ l.text = p := by
  constructor
  · intro h
    cases hcut : cut? cs with
    | none => exact absurd h.starts (cut?_eq_none_iff.mp hcut p h.mem)
    | some cut => exact ⟨cut.1, cut.2, rfl, (isLongestPrefix_of_cut? hcut).unique h⟩
  · rintro ⟨l, rest, hcut, rfl⟩
    exact isLongestPrefix_of_cut? hcut

/-- The literal cut off depends on the literals that a text starts with. -/
theorem cut?_congr {cs ds : List Char}
    (h : ∀ p ∈ decimalLiterals, p <+: cs ↔ p <+: ds) :
    (cut? cs).map Prod.fst = (cut? ds).map Prod.fst := by
  cases hcut : cut? cs with
  | none =>
      rw [cut?_eq_none_iff] at hcut
      rw [cut?_eq_none_iff.mpr fun p hp => (h p hp).not.mp (hcut p hp)]
  | some cut =>
      have hcs := isLongestPrefix_of_cut? hcut
      have hds : IsLongestPrefix decimalLiterals ds cut.1.text :=
        ⟨hcs.mem, (h _ hcs.mem).mp hcs.starts, fun q hq hstarts =>
          hcs.longest q hq ((h q hq).mpr hstarts)⟩
      obtain ⟨l, rest, hcut', htext⟩ := isLongestPrefix_iff.mp hds
      rw [hcut', Option.map_some, Option.map_some,
        text_injective (wellFormed_of_cut? hcut').1 (wellFormed_of_cut? hcut).1 htext]

/-- The characters that occur in literals. -/
def isCharacter (c : Char) : Bool := isDigit c || c ∈ ['.', 'e', 'E', '+', '-']

theorem isCharacter_of_mem_signs {sign : List Char} (h : sign ∈ signs) :
    ∀ c ∈ sign, isCharacter c = true := by
  have hall : ∀ sign ∈ signs, sign.all isCharacter = true := by decide
  exact List.all_eq_true.mp (hall sign h)

theorem isCharacter_of_isDigit {c : Char} (h : isDigit c = true) : isCharacter c = true := by
  rw [isCharacter, h, Bool.true_or]

theorem isAscii_of_isCharacter {c : Char} (h : isCharacter c = true) : isAscii c = true := by
  have hall : ['.', 'e', 'E', '+', '-'].all isAscii = true := by decide
  rw [isCharacter, Bool.or_eq_true, decide_eq_true_eq] at h
  exact h.elim isAscii_of_isDigit (List.all_eq_true.mp hall c)

theorem isCharacter_of_mem {p : List Char} (hp : p ∈ decimalLiterals) :
    ∀ c ∈ p, isCharacter c = true := by
  obtain ⟨⟨sign, whole, fraction, exponent⟩, ⟨hsign, hnumeral, hexponent⟩, rfl⟩ :=
    mem_decimalLiterals_iff.mp hp
  have hdigits {digits : List Char} (h : ∀ c ∈ digits, isDigit c = true) :
      ∀ c ∈ digits, isCharacter c = true := fun c hc => isCharacter_of_isDigit (h c hc)
  simp only [text_eq, List.forall_mem_append]
  refine ⟨⟨⟨isCharacter_of_mem_signs hsign, hdigits hnumeral.isDigit_whole⟩, ?_⟩, ?_⟩
  · cases fraction with
    | none => nofun
    | some digits =>
        exact List.forall_mem_cons.mpr ⟨rfl, hdigits (hnumeral.isDigit_fraction digits rfl)⟩
  · cases hexponent with
    | absent => nofun
    | present hmark hexpSign hsome hexpDigits =>
        refine List.forall_mem_cons.mpr ⟨?_, List.forall_mem_append.mpr
          ⟨isCharacter_of_mem_signs hexpSign, hdigits hexpDigits⟩⟩
        rcases hmark with rfl | rfl <;> rfl

/-- What follows a character that is in no literal has no part in the cut. -/
theorem cut?_append_of_stopsAt {tail : List Char} (h : StopsAt isCharacter tail) (cs : List Char) :
    (cut? (cs ++ tail)).map Prod.fst = (cut? cs).map Prod.fst :=
  cut?_congr fun _ hp => prefix_append_iff_of_stopsAt (isCharacter_of_mem hp) h

/-- A text and its bytes are cut alike. -/
theorem cut?_bytes (token : String) :
    (cut? (InPlace.bytes token)).map Prod.fst = (cut? token.toList).map Prod.fst := by
  refine cut?_congr fun p hp => ?_
  have hstart := InPlace.prefix_bytes_iff
    (fun c hc => isAscii_of_isCharacter (isCharacter_of_mem hp c hc)) token.toList
  rwa [String.ofList_toList] at hstart

/-- Without a digit after the sign, or after a point that follows it, nothing is cut off. -/
theorem cut?_of_no_digit {sign body : List Char} (hsign : sign ∈ signs)
    (hsecond : sign = [] → StopsAt isSign body) (hdigit : StopsAt isDigit body)
    (hfraction : (cutFraction body).1.getD [] = []) : cut? (sign ++ body) = none := by
  simp only [cut?, splitSign_append_of_mem hsign hsecond, hdigit.takeWhile_eq, hdigit.dropWhile_eq,
    hfraction, List.isEmpty_nil, Bool.and_self, if_true]

/-! ## Reading -/

theorem readFloat?_text {l : Literal} (h : l.WellFormed) : readFloat? l.text = some l.value := by
  rw [readFloat?, read?, cut?_text h]

end Literal

/-- The number that a text starts with is that of the literal cut off. -/
theorem floatPrefix?_of_cut? {cs rest : List Char} {l : Literal}
    (h : Literal.cut? cs = some (l, rest)) :
    readFloat? l.text = some l.value ∧ floatPrefix? cs = some l.value :=
  ⟨Literal.readFloat?_text (Literal.wellFormed_of_cut? h).1,
    by rw [floatPrefix?, h, Option.map_some]⟩

/-- **The cut never fails**, and what is cut off is the literal. -/
theorem InPlace.number_eq {α : Type} (parse : String → Option α) (token : String) :
    number parse token = .ok
      (((Literal.cut? token.toList).map Prod.fst).bind fun l => parse (String.ofList l.text)) := by
  have hbytes := Literal.cut?_bytes token
  rw [number]
  cases hcut : Literal.cut? token.toList with
  | none =>
      rw [hcut, Option.map_none, Option.map_eq_none_iff] at hbytes
      rw [hbytes]
      rfl
  | some cut =>
      obtain ⟨l, rest⟩ := cut
      obtain ⟨rest', hbytes⟩ : ∃ rest', Literal.cut? (bytes token) = some (l, rest') := by
        rw [hcut, Option.map_some, Option.map_eq_some_iff] at hbytes
        obtain ⟨⟨_, rest'⟩, hbytes, rfl⟩ := hbytes
        exact ⟨rest', hbytes⟩
      have hlongest := Literal.isLongestPrefix_of_cut? hcut
      have hascii : ∀ c ∈ l.text, isAscii c = true := fun c hc =>
        Literal.isAscii_of_isCharacter (Literal.isCharacter_of_mem hlongest.mem c hc)
      have hcutAt := cutAt_ofList hascii rest
      rw [(Literal.wellFormed_of_cut? hcut).2, String.ofList_toList] at hcutAt
      simp only [hbytes, hcutAt, Except.map, Option.map_some, Option.bind_some]

theorem floatPrefix?_eq_map (cs : List Char) :
    floatPrefix? cs = ((Literal.cut? cs).map Prod.fst).map Literal.value := by
  rw [Option.map_map]
  rfl

/-- The words that the parser of doubles knows and that are no literals. -/
def wordsOfFloats : List (List Char) := ["inf".toList, "infinity".toList, "nan".toList]

/-- No literal starts with a letter, so none starts with one of these words. -/
theorem Literal.cut?_word {sign word : List Char} (hsign : sign ∈ signs)
    (hword : word.map asciiLower ∈ wordsOfFloats) (tail : List Char) :
    cut? (sign ++ (word ++ tail)) = none := by
  have hall : ∀ w ∈ wordsOfFloats, w.head? = some 'i' ∨ w.head? = some 'n' := by decide
  have hhead := hall _ hword
  cases word with
  | nil => simp at hhead
  | cons c word =>
      rw [List.map_cons, List.head?_cons, Option.some_inj, Option.some_inj] at hhead
      have hall : "0123456789.+-".toList.all
          (fun d => asciiLower d ≠ 'i' ∧ asciiLower d ≠ 'n') = true := by decide
      have hother : ∀ d ∈ "0123456789.+-".toList, c ≠ d := by
        rintro d hd rfl
        have hlower := of_decide_eq_true (List.all_eq_true.mp hall c hd)
        exact hhead.elim hlower.1 hlower.2
      have hdigit : isDigit c = false := Bool.eq_false_iff.mpr fun h =>
        hother c (List.mem_append_left ['.', '+', '-'] (isDigit_iff_mem.mp h)) rfl
      have hsecond : isSign c = false := by
        simp [isSign, hother '+' (by decide), hother '-' (by decide)]
      refine cut?_of_no_digit hsign (fun _ => stopsAt_cons.mpr hsecond) (stopsAt_cons.mpr hdigit) ?_
      rw [List.cons_append, cutFraction_of_ne_point (hother '.' (by decide))]
      rfl

/-- What the number that a token starts with is read from. -/
structure ReadsLongestLiteral (token : String) : Prop where
  /-- A parser is handed the longest prefix in the grammar, or nothing if no prefix is in it.
  Either way no cut is inside a character. -/
  handed :
    (∃ p : String, IsLongestPrefix Grammar.decimalLiterals token.toList p.toList ∧
      ∀ {α : Type} (parse : String → Option α), InPlace.number parse token = .ok (parse p)) ∨
    ((∀ p ∈ Grammar.decimalLiterals, ¬ p <+: token.toList) ∧
      ∀ {α : Type} (parse : String → Option α), InPlace.number parse token = .ok none)
  /-- The number is that of the parser of doubles, which accepts what it is handed. -/
  float : InPlace.number (fun text => readFloat? text.toList) token =
    .ok (floatPrefix? token.toList)
  accepted : ∀ p, IsLongestPrefix Grammar.decimalLiterals token.toList p →
    (readFloat? p).isSome = true ∧ floatPrefix? token.toList = readFloat? p
  none_iff : floatPrefix? token.toList = none ↔
    ∀ p ∈ Grammar.decimalLiterals, ¬ p <+: token.toList
  /-- There is none in a sign or a point alone, nor in a word for infinity or for not a number. -/
  alone : ∀ sign ∈ signs, token.toList = sign ∨ token.toList = sign ++ ['.'] →
    floatPrefix? token.toList = none
  word : ∀ sign ∈ signs, ∀ word tail, word.map asciiLower ∈ wordsOfFloats →
    token.toList = sign ++ (word ++ tail) → floatPrefix? token.toList = none
  /-- What follows a character that is in no literal does not matter. -/
  followed : ∀ tail : String, StopsAt Literal.isCharacter tail.toList →
    floatPrefix? (token ++ tail).toList = floatPrefix? token.toList ∧
      ∀ {α : Type} (parse : String → Option α),
        InPlace.number parse (token ++ tail) = InPlace.number parse token

/-- **The number is read from the longest literal** that a token starts with. -/
theorem readsLongestLiteral (token : String) : ReadsLongestLiteral token where
  handed := by
    cases hcut : Literal.cut? token.toList with
    | none =>
        refine .inr ⟨Literal.cut?_eq_none_iff.mp hcut, fun parse => ?_⟩
        rw [InPlace.number_eq, hcut, Option.map_none, Option.bind_none]
    | some cut =>
        refine .inl ⟨String.ofList cut.1.text, ?_, fun parse => ?_⟩
        · rw [String.toList_ofList]
          exact Literal.isLongestPrefix_of_cut? hcut
        · rw [InPlace.number_eq, hcut, Option.map_some, Option.bind_some]
  float := by
    rw [InPlace.number_eq]
    cases hcut : Literal.cut? token.toList with
    | none => rw [floatPrefix?, hcut, Option.map_none, Option.map_none, Option.bind_none]
    | some cut =>
        obtain ⟨hread, hprefix⟩ := floatPrefix?_of_cut? hcut
        rw [Option.map_some, Option.bind_some, String.toList_ofList, hread, hprefix]
  accepted p hp := by
    obtain ⟨l, rest, hcut, rfl⟩ := Literal.isLongestPrefix_iff.mp hp
    obtain ⟨hread, hprefix⟩ := floatPrefix?_of_cut? hcut
    rw [hread, hprefix]
    exact ⟨rfl, rfl⟩
  none_iff := by rw [floatPrefix?, Option.map_eq_none_iff, Literal.cut?_eq_none_iff]
  alone sign hsign := by
    have hnil : Literal.cut? (sign ++ []) = none :=
      Literal.cut?_of_no_digit hsign (fun _ => stopsAt_nil _) (stopsAt_nil _) rfl
    have hpoint : Literal.cut? (sign ++ ['.']) = none :=
      Literal.cut?_of_no_digit hsign (fun _ => stopsAt_cons.mpr rfl) (stopsAt_cons.mpr rfl) rfl
    rw [List.append_nil] at hnil
    rintro (htoken | htoken)
    · rw [floatPrefix?, htoken, hnil, Option.map_none]
    · rw [floatPrefix?, htoken, hpoint, Option.map_none]
  word sign hsign word tail hword htoken := by
    rw [floatPrefix?, htoken, Literal.cut?_word hsign hword, Option.map_none]
  followed tail htail := by
    have hcut := Literal.cut?_append_of_stopsAt htail token.toList
    rw [← String.toList_append] at hcut
    refine ⟨?_, fun parse => ?_⟩
    · rw [floatPrefix?_eq_map, floatPrefix?_eq_map, hcut]
    · rw [InPlace.number_eq, InPlace.number_eq, hcut]

end StepScript
