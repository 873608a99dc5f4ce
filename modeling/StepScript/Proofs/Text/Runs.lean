import StepScript.Script.InPlace
set_option autoImplicit false

/-!
# Text: runs of characters, and of bytes

A run of characters that pass a test ends where a text begins with none.  If the test passes ASCII
characters only, the run is the same on the bytes of a text: an ASCII character is its own byte, and
the first byte of any other character is no ASCII character.  So a scan of the bytes stops at the
end of a character, and the text can be cut there.

Main statements: `prefix_append_iff_of_stopsAt`; `InPlace.exists_ascii_start`, by which a text and
its bytes start with the same ASCII characters; `InPlace.takeWhile_bytes`,
`InPlace.prefix_bytes_iff` and `InPlace.cutAt_ofList`.
-/

namespace StepScript

/-! ## Runs -/

/-- The text does not begin with a character that passes the test. -/
def StopsAt (p : Char → Bool) (cs : List Char) : Prop := ∀ c ∈ cs.head?, p c = false

theorem stopsAt_nil (p : Char → Bool) : StopsAt p [] := nofun

theorem stopsAt_cons {p : Char → Bool} {c : Char} {cs : List Char} :
    StopsAt p (c :: cs) ↔ p c = false := by
  simp [StopsAt]

theorem stopsAt_dropWhile (p : Char → Bool) (cs : List Char) : StopsAt p (cs.dropWhile p) := by
  intro c hc
  have hhead := List.head?_dropWhile_not p cs
  rw [Option.mem_def.mp hc] at hhead
  exact hhead

theorem StopsAt.mono {p q : Char → Bool} (hpq : ∀ c, q c = true → p c = true) {cs : List Char}
    (h : StopsAt p cs) : StopsAt q cs := fun c hc =>
  Bool.eq_false_iff.mpr fun hq => Bool.eq_false_iff.mp (h c hc) (hpq c hq)

theorem stopsAt_iff_takeWhile_eq_nil {p : Char → Bool} {cs : List Char} :
    StopsAt p cs ↔ cs.takeWhile p = [] := by
  cases cs with
  | nil => exact iff_of_true (stopsAt_nil p) rfl
  | cons c cs =>
      rw [stopsAt_cons, List.takeWhile_cons]
      cases p c <;> simp

namespace StopsAt

variable {p : Char → Bool} {run rest : List Char}

theorem takeWhile_eq (h : StopsAt p rest) : rest.takeWhile p = [] :=
  stopsAt_iff_takeWhile_eq_nil.mp h

theorem dropWhile_eq (h : StopsAt p rest) : rest.dropWhile p = rest := by
  cases rest with
  | nil => rfl
  | cons c rest => rw [List.dropWhile_cons, stopsAt_cons.mp h]; rfl

/-- A run is taken as a whole. -/
theorem takeWhile_append (h : StopsAt p rest) (hrun : ∀ c ∈ run, p c = true) :
    (run ++ rest).takeWhile p = run := by
  rw [List.takeWhile_append_of_pos hrun, h.takeWhile_eq, List.append_nil]

theorem dropWhile_append (h : StopsAt p rest) (hrun : ∀ c ∈ run, p c = true) :
    (run ++ rest).dropWhile p = rest := by
  rw [List.dropWhile_append_of_pos hrun, h.dropWhile_eq]

end StopsAt

/-- A text made of characters that pass a test is not seen to begin another text past the point
where these end. -/
theorem prefix_append_iff_of_stopsAt {p : Char → Bool} {text front back : List Char}
    (htext : ∀ c ∈ text, p c = true) (hback : StopsAt p back) :
    text <+: front ++ back ↔ text <+: front := by
  refine ⟨fun h => ?_, fun h => h.trans (List.prefix_append front back)⟩
  rcases List.prefix_or_prefix_of_prefix h (List.prefix_append front back) with hfront | hfront
  · exact hfront
  · obtain ⟨more, rfl⟩ := hfront
    cases more with
    | nil => exact ⟨[], by rw [List.append_nil, List.append_nil]⟩
    | cons c more =>
        obtain ⟨rest, rfl⟩ := (List.prefix_append_right_inj front).mp h
        have hc := htext c (List.mem_append_right front List.mem_cons_self)
        rw [List.cons_append] at hback
        rw [stopsAt_cons.mp hback] at hc
        cases hc

/-! ## Bytes -/

/-- The character is one of ASCII. -/
def isAscii (c : Char) : Bool := c.toNat < 128

/-- What holds of the first 128 code points holds of ASCII. -/
theorem forall_isAscii {P : Char → Prop} (h : ∀ n < 128, P (Char.ofNat n)) {c : Char}
    (hc : isAscii c = true) : P c := by
  have hcode := h c.toNat (of_decide_eq_true hc)
  rwa [Char.ofNat_toNat] at hcode

theorem isAscii_of_le {c d : Char} (hd : isAscii d = true) (h : c ≤ d) : isAscii c = true := by
  have hle : c.toNat ≤ d.toNat := UInt32.le_iff_toNat_le.mp (Char.le_def.mp h)
  simp only [isAscii, decide_eq_true_eq] at hd ⊢
  omega

theorem isAscii_of_isDigit {c : Char} (h : isDigit c = true) : isAscii c = true := by
  simp only [isDigit, Bool.and_eq_true, decide_eq_true_eq] at h
  exact isAscii_of_le (d := '9') rfl h.2

theorem isAscii_of_isHexDigit {c : Char} (h : isHexDigit c = true) : isAscii c = true := by
  simp only [isHexDigit, Bool.or_eq_true, Bool.and_eq_true, decide_eq_true_eq] at h
  rcases h with (hdigit | ⟨-, hlower⟩) | ⟨-, hupper⟩
  · exact isAscii_of_isDigit hdigit
  · exact isAscii_of_le (d := 'f') rfl hlower
  · exact isAscii_of_le (d := 'F') rfl hupper

namespace InPlace

theorem bytes_cons (c : Char) (cs : List Char) :
    bytes (String.ofList (c :: cs)) =
      (String.utf8EncodeChar c).map (fun byte => Char.ofNat byte.toNat) ++
        bytes (String.ofList cs) := by
  simp [bytes, List.utf8Encode, List.data_toByteArray]

/-- An ASCII character is its own byte. -/
theorem bytes_cons_of_isAscii {c : Char} (h : isAscii c = true) (cs : List Char) :
    bytes (String.ofList (c :: cs)) = c :: bytes (String.ofList cs) := by
  have hcode : c.toNat < 128 := of_decide_eq_true h
  have hencode : String.utf8EncodeChar c = [UInt8.ofNat c.toNat] := by
    rw [String.utf8EncodeChar, if_pos (show c.val.toNat ≤ 0x7f from Nat.le_of_lt_succ hcode)]
    rfl
  have hbyte : (UInt8.ofNat c.toNat).toNat = c.toNat := by
    rw [UInt8.toNat_ofNat']
    omega
  rw [bytes_cons, hencode, List.map_singleton, hbyte, Char.ofNat_toNat, List.singleton_append]

/-- The first byte of any other character is not an ASCII character. -/
theorem stopsAt_bytes_cons {c : Char} (h : isAscii c = false) (cs : List Char) :
    StopsAt isAscii (bytes (String.ofList (c :: cs))) := by
  have hcode : ¬ c.val.toNat ≤ 0x7f := fun hle =>
    (of_decide_eq_false h : ¬ c.toNat < 128) (Nat.lt_succ_of_le hle)
  obtain ⟨byte, more, hencode, hbyte⟩ : ∃ byte more,
      String.utf8EncodeChar c = byte :: more ∧ 128 ≤ byte.toNat := by
    have hhead (code : Nat) (more : List UInt8) (hcode : 128 ≤ code % 256) : ∃ byte more',
        UInt8.ofNat code :: more = byte :: more' ∧ 128 ≤ byte.toNat :=
      ⟨_, _, rfl, by rwa [UInt8.toNat_ofNat']⟩
    rw [String.utf8EncodeChar, if_neg hcode]
    split
    · exact hhead _ _ (by omega)
    · split
      · exact hhead _ _ (by omega)
      · exact hhead _ _ (by omega)
  have hvalid : byte.toNat.isValidChar := .inl (Nat.lt_trans byte.toNat_lt (by decide))
  have hcharacter : (Char.ofNat byte.toNat).toNat = byte.toNat := by
    rw [Char.ofNat, dif_pos hvalid]
    rfl
  rw [bytes_cons, hencode, List.map_cons, List.cons_append, stopsAt_cons, isAscii, hcharacter]
  exact decide_eq_false (Nat.not_lt.mpr hbyte)

/-- **A text and its bytes start with the same ASCII characters**, and go on with something else. -/
theorem exists_ascii_start (cs : List Char) : ∃ front back back',
    cs = front ++ back ∧ bytes (String.ofList cs) = front ++ back' ∧
      (∀ c ∈ front, isAscii c = true) ∧ StopsAt isAscii back ∧ StopsAt isAscii back' := by
  induction cs with
  | nil => exact ⟨[], [], [], rfl, rfl, nofun, stopsAt_nil _, stopsAt_nil _⟩
  | cons c cs ih =>
      cases hc : isAscii c with
      | true =>
          obtain ⟨front, back, back', hcs, hbytes, hfront, hback, hback'⟩ := ih
          refine ⟨c :: front, back, back', ?_, ?_, ?_, hback, hback'⟩
          · rw [hcs, List.cons_append]
          · rw [bytes_cons_of_isAscii hc, hbytes, List.cons_append]
          · exact List.forall_mem_cons.mpr ⟨hc, hfront⟩
      | false =>
          exact ⟨[], c :: cs, bytes (String.ofList (c :: cs)), rfl, rfl, nofun,
            stopsAt_cons.mpr hc, stopsAt_bytes_cons hc cs⟩

theorem bytes_ofList_append {front : List Char} (h : ∀ c ∈ front, isAscii c = true)
    (back : List Char) :
    bytes (String.ofList (front ++ back)) = front ++ bytes (String.ofList back) := by
  induction front with
  | nil => rfl
  | cons c front ih =>
      rw [List.forall_mem_cons] at h
      rw [List.cons_append, bytes_cons_of_isAscii h.1, ih h.2, List.cons_append]

/-- A run of ASCII characters is the same on the bytes. -/
theorem takeWhile_bytes {p : Char → Bool} (hp : ∀ c, p c = true → isAscii c = true)
    (cs : List Char) : (bytes (String.ofList cs)).takeWhile p = cs.takeWhile p := by
  obtain ⟨front, back, back', hcs, hbytes, -, hback, hback'⟩ := exists_ascii_start cs
  have hsame {rest : List Char} (hrest : StopsAt isAscii rest) :
      (front ++ rest).takeWhile p = front.takeWhile p := by
    rw [List.takeWhile_append]
    split
    · next hlength =>
        rw [(hrest.mono hp).takeWhile_eq, List.append_nil,
          (List.takeWhile_prefix p).eq_of_length hlength]
    · rfl
  rw [hbytes, hsame hback', ← hsame hback, ← hcs]

theorem stopsAt_bytes {p : Char → Bool} (hp : ∀ c, p c = true → isAscii c = true) {cs : List Char}
    (h : StopsAt p cs) : StopsAt p (bytes (String.ofList cs)) := by
  rw [stopsAt_iff_takeWhile_eq_nil] at h ⊢
  rw [takeWhile_bytes hp, h]

/-- A text of ASCII characters begins the bytes when it begins the text. -/
theorem prefix_bytes_iff {text : List Char} (htext : ∀ c ∈ text, isAscii c = true)
    (cs : List Char) : text <+: bytes (String.ofList cs) ↔ text <+: cs := by
  obtain ⟨front, back, back', hcs, hbytes, -, hback, hback'⟩ := exists_ascii_start cs
  rw [hbytes, prefix_append_iff_of_stopsAt htext hback', hcs,
    prefix_append_iff_of_stopsAt htext hback]

/-- **A text can be cut after ASCII characters**, whatever follows. -/
theorem cutAt_ofList {front : List Char} (h : ∀ c ∈ front, isAscii c = true) (back : List Char) :
    cutAt (String.ofList (front ++ back)) front.length =
      .ok (String.ofList front, String.ofList back) := by
  have hsize : (String.ofList front).rawEndPos = ⟨front.length⟩ := by
    have hbytes := congrArg List.length (bytes_ofList_append h [])
    rw [List.append_nil, bytes, List.length_map, Array.length_toList, ByteArray.size_data,
      String.size_toByteArray, List.length_append] at hbytes
    exact String.Pos.Raw.ext hbytes
  have hvalid : String.Pos.Raw.IsValid (String.ofList (front ++ back)) ⟨front.length⟩ :=
    String.Pos.Raw.isValid_iff_exists_append.mpr
      ⟨String.ofList front, String.ofList back, String.ofList_append, hsize.symm⟩
  let p := (String.ofList (front ++ back)).pos ⟨front.length⟩ hvalid
  have hpos : (String.ofList (front ++ back)).pos? ⟨front.length⟩ = some p := by
    rw [String.pos?, String.Slice.pos?,
      dif_pos (String.Pos.Raw.isValidForSlice_eq_true_iff.mpr hvalid.toSlice)]
    rfl
  have hsplits : p.Splits (String.ofList front) (String.ofList back) :=
    ⟨String.ofList_append, hsize.symm⟩
  simp only [cutAt, hpos, p.splits.eq_left hsplits, p.splits.eq_right hsplits]

end InPlace

end StepScript
