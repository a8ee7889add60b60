import Verdict.Decimal.Numeral

/-!
The text of a double: positional notation, always with a point, and as few digits as tell the
double apart from all others.

`candidates` lists the decimals to try, fewer digits first and the nearer of two neighbours first;
`shortest` is the first whose text reads back as the double.
-/

namespace Verdict.Decimal

structure Binary where
  significand : Nat
  exponent : Int
deriving DecidableEq, Repr

namespace Binary

def ofFloat (value : Float) : Binary :=
  let bits := value.toBits
  let biased := ((bits >>> 52) &&& 0x7FF).toNat
  let fraction := (bits &&& 0xFFFFFFFFFFFFF).toNat
  if biased = 0 then
    { significand := fraction, exponent := -1074 }
  else
    { significand := Nat.pow 2 52 + fraction, exponent := biased - 1075 }

def ratio (binary : Binary) (scale : Int) : Nat × Nat :=
  (binary.significand * Nat.pow 2 binary.exponent.toNat * Nat.pow 10 (-scale).toNat,
    Nat.pow 2 (-binary.exponent).toNat * Nat.pow 10 scale.toNat)

/-- The least scale with the magnitude below `10 ^ scale`, for a magnitude that is not zero. The
binary logarithm gives it up to one. -/
def scale (binary : Binary) : Int :=
  let guess := ((binary.significand.log2 : Int) + binary.exponent) * 30103 / 100000
  let exceeds (scale : Int) : Bool :=
    let (numerator, denominator) := binary.ratio scale
    numerator < denominator
  ([guess - 1, guess, guess + 1].find? exceeds).getD (guess + 2)

/-- The two multiples of `10 ^ scale` around the magnitude, the nearer first; at the same distance
the greater comes first. -/
def neighbours (binary : Binary) (scale : Int) : List (Nat × Int) :=
  let (numerator, denominator) := binary.ratio scale
  let below := numerator / denominator
  if 2 * (numerator % denominator) < denominator then
    [(below, scale), (below + 1, scale)]
  else
    [(below + 1, scale), (below, scale)]

def maxDigits : Nat := 17

def candidates (binary : Binary) : List (Nat × Int) :=
  (List.range maxDigits).flatMap fun (count : Nat) =>
    binary.neighbours (binary.scale - (count + 1 : Nat))

def exact (binary : Binary) : Nat × Int :=
  (binary.significand * Nat.pow 2 binary.exponent.toNat * Nat.pow 5 (-binary.exponent).toNat,
    min binary.exponent 0)

end Binary

/-- Positional notation of `significand * 10 ^ scale`, with at least one digit on both sides of the
point and no zero after the last other digit of the fraction. -/
def positional (significand : Nat) (scale : Int) : List Char :=
  let places := (-scale).toNat
  let run := digits (significand * Nat.pow 10 scale.toNat)
  let padded := List.replicate (places + 1 - run.length) '0' ++ run
  let whole := padded.take (padded.length - places)
  let fraction := (padded.drop (padded.length - places)).reverse.dropWhile (· == '0')
  whole ++ '.' :: if fraction.isEmpty then ['0'] else fraction.reverse

def readsBack (value : Float) (text : List Char) : Bool :=
  (float? text).any fun read => read.toBits == value.toBits

def shortest (value : Float) : List Char :=
  let binary := Binary.ofFloat value
  let text (decimal : Nat × Int) := positional decimal.1 decimal.2
  ((binary.candidates.map text).find? (readsBack value)).getD (text binary.exact)

def floatText (value : Float) : String :=
  if value.isNaN then
    "NaN"
  else
    let negative := value.toBits >>> 63 == 1
    let magnitude := value.abs
    let text := if magnitude.isInf then "inf" else String.ofList (shortest magnitude)
    if negative then "-" ++ text else text

end Verdict.Decimal
