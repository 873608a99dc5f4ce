import StepScript.Script.Operand
set_option autoImplicit false

/-!
# JSON: reading a text as a tree

The tree keeps what a text says before it is known what is wanted: a number keeps its digits,
because how it is rounded depends on the type it is read as, and a text with an escape of half a
character is kept as no text, because it is a fault only where the text is needed.
-/

namespace StepScript

/-- A number as it is written. -/
structure JsonNumber where
  negative : Bool
  whole : List Char
  fraction : Option (List Char)
  /-- Whether the exponent is negative, and its digits. -/
  exponent : Option (Bool × List Char)
  deriving DecidableEq, Repr

/-- A JSON text, before it is known what is wanted. -/
inductive JsonTree where
  | null
  | bool (b : Bool)
  | number (n : JsonNumber)
  | text (s : Option String)
  | list (items : List JsonTree)
  | record (members : List (Option String × JsonTree))
  deriving Repr, Inhabited

namespace JsonTree

/-- Blanks between the parts of a text. -/
def isSpace (c : Char) : Bool := c == ' ' || c == '\n' || c == '\t' || c == '\r'

/-- Goes over blanks. -/
def skipSpaces (cs : List Char) : List Char := cs.dropWhile isSpace

/-- The 16 bits of an escape, and the rest. -/
def escapeUnit? (cs : List Char) : Option (Nat × List Char) :=
  let digits := cs.take 4
  if digits.length = 4 && digits.all isHexDigit then some (hexDigitsValue digits, cs.drop 4)
  else none

/-- What a one-letter escape stands for. -/
def shortEscape? (c : Char) : Option Char :=
  match c with
  | '"' => some '"'
  | '\\' => some '\\'
  | '/' => some '/'
  | 'b' => some '\x08'
  | 'f' => some '\x0c'
  | 'n' => some '\n'
  | 'r' => some '\r'
  | 't' => some '\t'
  | _ => none

/-- A character of a text, or half of one. -/
inductive TextUnit where
  | char (c : Char)
  | half (unit : Nat)
  deriving DecidableEq, Repr

/-- Reads a text from after its opening quote to after its closing quote. -/
def textUnits? : Nat → List Char → Option (List TextUnit × List Char)
  | 0, _ => none
  | _ + 1, [] => none
  | _ + 1, '"' :: rest => some ([], rest)
  | _ + 1, ['\\'] => none
  | fuel + 1, '\\' :: 'u' :: rest =>
      match escapeUnit? rest with
      | none => none
      | some (unit, rest) =>
          let piece : TextUnit :=
            if 0xD800 ≤ unit && unit ≤ 0xDFFF then .half unit else .char (Char.ofNat unit)
          (textUnits? fuel rest).map fun (units, rest) => (piece :: units, rest)
  | fuel + 1, '\\' :: letter :: rest =>
      match shortEscape? letter with
      | none => none
      | some c => (textUnits? fuel rest).map fun (units, rest) => (.char c :: units, rest)
  | fuel + 1, c :: rest =>
      if c.toNat < 0x20 then none
      else (textUnits? fuel rest).map fun (units, rest) => (.char c :: units, rest)

/-- Puts halves together; nothing when a half is left alone. -/
def joinUnits : List TextUnit → Option (List Char)
  | [] => some []
  | .char c :: rest => (joinUnits rest).map (c :: ·)
  | .half high :: .half low :: rest =>
      if high < 0xDC00 && 0xDC00 ≤ low then
        (joinUnits rest).map (Char.ofNat (0x10000 + (high - 0xD800) * 0x400 + (low - 0xDC00)) :: ·)
      else none
  | .half _ :: _ => none

/-- Reads a text after its opening quote. -/
def readText? (cs : List Char) : Option (Option String × List Char) :=
  (textUnits? cs.length.succ cs).map fun (units, rest) =>
    ((joinUnits units).map String.ofList, rest)

/-- Reads the exponent of a number, if there is one. -/
def readExponent? : List Char → Option (Option (Bool × List Char) × List Char)
  | [] => some (none, [])
  | mark :: rest =>
      if mark = 'e' || mark = 'E' then
        let (sign, rest) := splitSign rest
        let digits := rest.takeWhile isDigit
        if digits.isEmpty then none
        else some (some (sign = ['-'], digits), rest.dropWhile isDigit)
      else some (none, mark :: rest)

/-- Reads a number: no leading zeros, and digits on both sides of a point. -/
def readNumber? (cs : List Char) : Option (JsonNumber × List Char) :=
  let negative := cs.head? == some '-'
  let cs := if negative then cs.drop 1 else cs
  let whole := cs.takeWhile isDigit
  let rest := cs.dropWhile isDigit
  if whole.isEmpty || (whole.head? == some '0' && 1 < whole.length) then none
  else
    match rest with
    | '.' :: tail =>
        let digits := tail.takeWhile isDigit
        if digits.isEmpty then none
        else
          (readExponent? (tail.dropWhile isDigit)).map fun (exponent, rest) =>
            (⟨negative, whole, some digits, exponent⟩, rest)
    | _ =>
        (readExponent? rest).map fun (exponent, rest) => (⟨negative, whole, none, exponent⟩, rest)

/-- Goes over a word. -/
def readWord? (word : String) (cs : List Char) : Option (List Char) :=
  let n := word.length
  if cs.take n = word.toList then some (cs.drop n) else none

mutual

/-- Reads a value. -/
def readValue? : Nat → List Char → Option (JsonTree × List Char)
  | 0, _ => none
  | fuel + 1, cs =>
      match skipSpaces cs with
      | [] => none
      | 'n' :: rest => (readWord? "ull" rest).map fun rest => (.null, rest)
      | 't' :: rest => (readWord? "rue" rest).map fun rest => (.bool true, rest)
      | 'f' :: rest => (readWord? "alse" rest).map fun rest => (.bool false, rest)
      | '"' :: rest => (readText? rest).map fun (s, rest) => (.text s, rest)
      | '[' :: rest =>
          match skipSpaces rest with
          | ']' :: rest => some (.list [], rest)
          | rest => (readItems? fuel rest).map fun (items, rest) => (.list items, rest)
      | '\x7b' :: rest =>
          match skipSpaces rest with
          | '\x7d' :: rest => some (.record [], rest)
          | rest => (readMembers? fuel rest).map fun (members, rest) => (.record members, rest)
      | c :: rest => (readNumber? (c :: rest)).map fun (n, rest) => (.number n, rest)

/-- Reads the items of a list up to its end. -/
def readItems? : Nat → List Char → Option (List JsonTree × List Char)
  | 0, _ => none
  | fuel + 1, cs =>
      match readValue? fuel cs with
      | none => none
      | some (item, rest) =>
          match skipSpaces rest with
          | ',' :: rest => (readItems? fuel rest).map fun (items, rest) => (item :: items, rest)
          | ']' :: rest => some ([item], rest)
          | _ => none

/-- Reads the members of a record up to its end. -/
def readMembers? : Nat → List Char → Option (List (Option String × JsonTree) × List Char)
  | 0, _ => none
  | fuel + 1, cs =>
      match skipSpaces cs with
      | '"' :: rest =>
          match readText? rest with
          | none => none
          | some (name, rest) =>
              match skipSpaces rest with
              | ':' :: rest =>
                  match readValue? fuel rest with
                  | none => none
                  | some (value, rest) =>
                      match skipSpaces rest with
                      | ',' :: rest =>
                          (readMembers? fuel rest).map fun (members, rest) =>
                            ((name, value) :: members, rest)
                      | '\x7d' :: rest => some ([(name, value)], rest)
                      | _ => none
              | _ => none
      | _ => none

end

/-- Reads a text as one value. -/
def parse? (text : String) : Option JsonTree :=
  match readValue? (2 * text.length + 2) text.toList with
  | some (tree, rest) => if (skipSpaces rest).isEmpty then some tree else none
  | none => none

end JsonTree

end StepScript
