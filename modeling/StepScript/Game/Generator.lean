set_option autoImplicit false

/-!
# The game: random numbers

A permuted congruential generator with 128 bits of state: the state takes one linear congruential
step, its two halves are combined and the result is rotated by its top six bits.  A number below a
bound comes from a 32-bit word by a widening multiplication: the high half of `word · bound` is the
number, and words whose low half lies past the last full zone are drawn again, so every number below
the bound is equally likely.
-/

namespace StepScript

/-- State of the generator, and the odd increment that chooses its sequence. -/
structure Generator where
  state : BitVec 128
  increment : BitVec 128
  deriving DecidableEq, Repr

namespace Generator

/-- Multiplier of the congruential step. -/
def multiplier : BitVec 128 := 0x2360ED051FC65DA44385DF649FCCF645#128

/-- One congruential step. -/
def step (g : Generator) : Generator := { g with state := g.state * multiplier + g.increment }

/-- The 64-bit output of a state. -/
def output (g : Generator) : BitVec 64 :=
  let high := (g.state >>> 64).truncate 64
  let low := g.state.truncate 64
  (high ^^^ low).rotateRight (g.state >>> 122).toNat

/-- One 32-bit word: the low half of the output of the next state. -/
def word (g : Generator) : BitVec 32 × Generator :=
  let g := g.step
  (g.output.truncate 32, g)

/-- One step of the 64-bit generator that fills in the seed. -/
def seedStep (s : BitVec 64) : BitVec 64 :=
  s * 6364136223846793005#64 + 11634580027462260723#64

/-- The 32-bit output of a state of the seeding generator. -/
def seedWord (s : BitVec 64) : BitVec 32 :=
  ((((s >>> 18) ^^^ s) >>> 27).truncate 32).rotateRight (s >>> 59).toNat

/-- So many 32-bit words of the seeding generator. -/
def seedWords : Nat → BitVec 64 → List (BitVec 32)
  | 0, _ => []
  | n + 1, s =>
      let s := seedStep s
      seedWord s :: seedWords n s

/-- Words put together, the first one lowest. -/
def joinWords (ws : List (BitVec 32)) : BitVec 128 :=
  ws.foldr (fun w acc => (acc <<< 32) ||| w.zeroExtend 128) 0

/-- The generator of a seed: four words of state, four words of increment, which is made odd, and
one step after the increment is added. -/
def ofSeed (seed : UInt64) : Generator :=
  let ws := seedWords 8 seed.toBitVec
  let increment := joinWords (ws.drop 4) ||| 1
  step ⟨joinWords (ws.take 4) + increment, increment⟩

/-- Number of zero bits before the first one of a positive 32-bit number. -/
def leadingZeros (bound : UInt32) : Nat := 31 - bound.toNat.log2

/-- Largest low half of an accepted product. -/
def zone (bound : UInt32) : Nat := bound.toNat <<< leadingZeros bound - 1

/-- The number below `bound` that a word gives, if the word is accepted. -/
def ofWord? (bound : UInt32) (w : BitVec 32) : Option UInt32 :=
  let product := w.toNat * bound.toNat
  if product % UInt32.size ≤ zone bound then some (UInt32.ofNat (product / UInt32.size)) else none

/-- Draws words until one is accepted, at most so many times. -/
def drawBelow? : Nat → UInt32 → Generator → Option (UInt32 × Generator)
  | 0, _, _ => none
  | fuel + 1, bound, g =>
      let (w, g) := g.word
      (ofWord? bound w).map (fun n => (n, g)) <|> drawBelow? fuel bound g

/-- The length of the generator's cycle; no search takes more steps. -/
def period : Nat := UInt64.size * UInt64.size

/-- A number below `bound`; zero without a draw when there is none. -/
def below (bound : UInt32) (g : Generator) : UInt32 × Generator :=
  if bound = 0 then (0, g) else (drawBelow? period bound g).getD (0, g)

end Generator

end StepScript
