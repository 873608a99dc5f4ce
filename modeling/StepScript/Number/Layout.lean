import StepScript.Number.Shortest
set_option autoImplicit false

/-!
# Numbers: how a double is written

All float texts share the shortest digits and differ in a handful of decisions: which magnitudes are
written positionally, whether a whole number keeps `.0`, how an exponent is marked, and what stands
for the values that have no digits.  A `Layout` records the decisions, `write` follows them.
-/

namespace StepScript

/-- The decisions of one way to write doubles. -/
structure Layout where
  /-- Leading exponents below this one use the exponent form; nothing means none do. -/
  positionalFrom : Option Int
  /-- Leading exponents from this one on use the exponent form; nothing means none do. -/
  positionalBelow : Option Int
  /-- Whether a whole number in positional form ends in `.0`. -/
  keepsPoint : Bool
  /-- Whether a positive exponent has a plus sign. -/
  plusExponent : Bool
  /-- Text of not a number. -/
  nan : String
  /-- Texts of the positive and the negative infinity. -/
  infinities : String × String
  /-- Which of two equally near shortest decimals is taken. -/
  tie : Tie
  deriving Repr

namespace Layout

/-- Messages write every digit and no exponent: `0.0000001`, `20`. -/
def plain : Layout :=
  ⟨none, none, false, false, "NaN", ("inf", "-inf"), .away⟩

/-- Decoded commands keep a point and turn to exponents outside `1e-4 ≤ x < 1e16`: `2.0`,
`6.5e-5`. -/
def listing : Layout :=
  ⟨some (-4), some 16, true, false, "NaN", ("inf", "-inf"), .away⟩

/-- JSON keeps a point, turns to exponents outside `1e-5 ≤ x < 1e16`, marks positive exponents with
a plus, and has no text but `null` for what is not finite. -/
def json : Layout :=
  ⟨some (-5), some 16, true, true, "null", ("null", "null"), .toEven⟩

/-- Whether a leading exponent is written positionally. -/
def isPositional (layout : Layout) (leading : Int) : Bool :=
  (match layout.positionalFrom with
    | none => true
    | some low => low ≤ leading) &&
  (match layout.positionalBelow with
    | none => true
    | some high => leading < high)

/-- Positional form of a decimal. -/
def positional (layout : Layout) (d : Decimal) : String :=
  let text := toString d.digits
  match d.exponent with
  | .ofNat k =>
      let whole := text ++ String.ofList (List.replicate k '0')
      if layout.keepsPoint then whole ++ ".0" else whole
  | .negSucc k =>
      let places := k + 1
      if places < text.length then
        let split := text.length - places
        String.ofList (text.toList.take split) ++ "." ++ String.ofList (text.toList.drop split)
      else
        "0." ++ String.ofList (List.replicate (places - text.length) '0') ++ text

/-- Exponent form of a decimal: one digit, the others after a point, the exponent of the first. -/
def scientific (layout : Layout) (d : Decimal) (leading : Int) : String :=
  let text := (toString d.digits).toList
  let mantissa :=
    match text with
    | first :: [] => String.ofList [first]
    | first :: others => String.ofList (first :: '.' :: others)
    | [] => ""
  let sign := if 0 ≤ leading && layout.plusExponent then "+" else ""
  mantissa ++ "e" ++ sign ++ toString leading

/-- Magnitude of a finite double. -/
def magnitude (layout : Layout) (mantissa : Nat) (exponent : Int) : String :=
  if mantissa = 0 then layout.positional ⟨0, 0⟩
  else
    let d := shortest layout.tie mantissa exponent
    let leading := d.exponent + Decimal.width d.digits - 1
    if layout.isPositional leading then layout.positional d else layout.scientific d leading

/-- The text of a double. -/
def write (layout : Layout) (x : Float) : String :=
  match Binary64.ofFloat x with
  | .nan => layout.nan
  | .infinite negative => if negative then layout.infinities.2 else layout.infinities.1
  | .finite negative mantissa exponent =>
      (if negative then "-" else "") ++ layout.magnitude mantissa exponent

/-- The text of a double in a type error: plain, but a whole number keeps its point. -/
def withPoint (x : Float) : String :=
  { plain with keepsPoint := true }.write x

end Layout

/-- A double with a fixed number of decimal places, rounded from its exact value, ties to even. -/
def fixedPlaces (places : Nat) (x : Float) : String :=
  match Binary64.ofFloat x with
  | .nan => "NaN"
  | .infinite negative => if negative then "-inf" else "inf"
  | .finite negative mantissa exponent =>
      let q := Binary64.quotient mantissa exponent
      let unit := Nat.pow 10 places
      let scaled := roundDiv .toEven (q.1 * unit) q.2
      let whole := toString (scaled / unit)
      let fraction := toString (scaled % unit)
      let zeros := String.ofList (List.replicate (places - fraction.length) '0')
      (if negative then "-" else "") ++
        (if places = 0 then whole else whole ++ "." ++ zeros ++ fraction)

end StepScript
