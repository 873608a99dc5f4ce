import StepScript.Text.GlyphTable
set_option autoImplicit false

/-!
# Text: quoted for a message

A message shows a text between double quotes.  Quotes and backslashes are escaped, the common
controls have short escapes, and a character that would not be seen is written by its code point.
-/

namespace StepScript

/-- Whether a code point lies in one of the ranges. -/
def inRanges (ranges : List (Nat × Nat)) (code : Nat) : Bool :=
  ranges.any fun range => range.1 ≤ code && code ≤ range.2

/-- Lower-case hexadecimal digits of a natural number. -/
def hexText (n : Nat) : String := String.ofList (Nat.toDigits 16 n)

/-- Whether a character would not be seen, or only as a part of the one before it. -/
def isUnseen (c : Char) : Bool :=
  [extendingRanges, glyphlessRanges, fillerRanges].any fun ranges => inRanges ranges c.toNat

/-- One character of a quoted text. -/
def quoteChar (c : Char) : String :=
  if c = '\x00' then "\\0"
  else if c = '\t' then "\\t"
  else if c = '\r' then "\\r"
  else if c = '\n' then "\\n"
  else if c = '"' then "\\\""
  else if c = '\\' then "\\\\"
  else if c.toNat < 0x7F && 0x20 ≤ c.toNat then String.singleton c
  else if isUnseen c then
    "\\u\x7b" ++ hexText c.toNat ++ "\x7d"
  else String.singleton c

/-- A text between double quotes. -/
def quoted (text : String) : String :=
  "\"" ++ String.join (text.toList.map quoteChar) ++ "\""

end StepScript
