set_option autoImplicit false

/-!
# Text: white space

The 25 characters with the Unicode property `White_Space`, and the two cuts made at them: `trim`
takes them off both ends of a text, `words` splits a text at runs of them.
-/

namespace StepScript

/-- Unicode `White_Space`. -/
def isWhiteSpace (c : Char) : Bool :=
  let n := c.toNat
  (0x09 ≤ n && n ≤ 0x0D) || n == 0x20 || n == 0x85 || n == 0xA0 || n == 0x1680 ||
    (0x2000 ≤ n && n ≤ 0x200A) || n == 0x2028 || n == 0x2029 || n == 0x202F || n == 0x205F ||
    n == 0x3000

/-- Drops white space at both ends. -/
def trim (cs : List Char) : List Char :=
  ((cs.dropWhile isWhiteSpace).reverse.dropWhile isWhiteSpace).reverse

/-- The words of a text from the last to the first character: the word that is open at the front,
and the finished words after it. -/
def wordsFrom : List Char → List Char × List (List Char)
  | [] => ([], [])
  | c :: cs =>
      let (word, others) := wordsFrom cs
      if isWhiteSpace c then
        ([], if word.isEmpty then others else word :: others)
      else (c :: word, others)

/-- The maximal runs of characters other than white space, in order. -/
def words (cs : List Char) : List (List Char) :=
  let (word, others) := wordsFrom cs
  if word.isEmpty then others else word :: others

theorem wordsFrom_cons_of_white {c : Char} {cs : List Char} (h : isWhiteSpace c = true) :
    wordsFrom (c :: cs) = ([], words cs) := by
  simp [wordsFrom, words, h]

theorem wordsFrom_cons_of_not_white {c : Char} {cs : List Char} (h : isWhiteSpace c = false) :
    wordsFrom (c :: cs) = (c :: (wordsFrom cs).1, (wordsFrom cs).2) := by
  simp [wordsFrom, h]

theorem words_cons_of_white {c : Char} {cs : List Char} (h : isWhiteSpace c = true) :
    words (c :: cs) = words cs := by
  rw [words, wordsFrom_cons_of_white h]
  rfl

end StepScript
