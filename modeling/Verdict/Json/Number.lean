import Verdict.Decimal.Numeral
import Verdict.Json.Basic

/-!
JSON numbers. A number without point and exponent is an integer as long as it fits 64 bits with
sign; every other number is a double.

The double is not always the nearest one. At most the digits that fit 64 bits count, and their
number is multiplied or divided by one power of ten.
-/

namespace Verdict.Json

structure Written where
  negative : Bool
  whole : List Char
  fraction : Option (List Char)
  exponent : Option Int

namespace Written

def takeDigits (text : List Char) : Option (List Char × List Char) :=
  match text.takeWhile Char.isDigit with
  | [] => none
  | run => some (run, text.dropWhile Char.isDigit)

def takeMinus : List Char → Bool × List Char
  | '-' :: rest => (true, rest)
  | rest => (false, rest)

def takeWhole (text : List Char) : Option (List Char × List Char) :=
  (takeDigits text).filter fun found => found.1.head? != some '0' || found.1.length == 1

def takeFraction : List Char → Option (Option (List Char) × List Char)
  | '.' :: rest => (takeDigits rest).map fun (run, after) => (some run, after)
  | rest => some (none, rest)

def takeExponent (text : List Char) : Option (Option Int × List Char) :=
  match text with
  | [] => some (none, [])
  | mark :: rest =>
    if mark == 'e' || mark == 'E' then
      let sign := Decimal.Numeral.takeSign rest
      (takeDigits sign.2).map fun (run, after) =>
        let size : Int := Decimal.ofDigits run
        (some (if sign.1 then -size else size), after)
    else
      some (none, text)

def take (text : List Char) : Option (Written × List Char) := do
  let sign := takeMinus text
  let (whole, text) ← takeWhole sign.2
  let (fraction, text) ← takeFraction text
  let (exponent, text) ← takeExponent text
  return ({ negative := sign.1, whole, fraction, exponent }, text)

/-- Appends digits to a number as long as it fits 64 bits; with the count of digits left over. -/
def absorb (number : Nat) : List Char → Nat × Nat
  | [] => (number, 0)
  | digit :: rest =>
    let longer := 10 * number + Decimal.digitValue digit
    if longer < UInt64.size then absorb longer rest else (number, rest.length + 1)

def tenTo (places : Nat) : Float :=
  Float.ofScientific 1 false places

def maxPlaces : Nat := 308

def divideByTens (value : Float) (places : Nat) : Float :=
  if places ≤ maxPlaces then
    value / tenTo places
  else if value == 0.0 then
    value
  else
    divideByTens (value / tenTo maxPlaces) (places - maxPlaces)
termination_by places
decreasing_by
  simp only [maxPlaces] at *
  omega

/-- `significand * 10 ^ exponent` as a double, or none if it is out of range. -/
def scaled? (significand : Nat) (exponent : Int) : Option Float :=
  let value := Float.ofNat significand
  if exponent < 0 then
    some (divideByTens value exponent.natAbs)
  else if value == 0.0 then
    some value
  else if exponent.natAbs ≤ maxPlaces then
    let product := value * tenTo exponent.natAbs
    if product.isInf then none else some product
  else
    none

def float? (written : Written) : Option Float :=
  let (significand, dropped) := absorb 0 written.whole
  let fraction := written.fraction.getD []
  let (significand, unused) := absorb significand fraction
  let places := (dropped : Int) + unused - fraction.length
  (scaled? significand (places + written.exponent.getD 0)).map fun value =>
    if written.negative then -value else value

def value? (written : Written) : Option Json :=
  let magnitude : Int := Decimal.ofDigits written.whole
  let number := if written.negative then -magnitude else magnitude
  let whole := written.fraction.isNone && written.exponent.isNone
  if whole && Value.isInteger number && !(written.negative && number == 0) then
    some (.integer (Int64.ofInt number))
  else
    written.float?.map .float

theorem takeDigits_length {text run rest : List Char} (found : takeDigits text = some (run, rest)) :
    rest.length < text.length := by
  unfold takeDigits at found
  split at found
  · simp at found
  · rename_i nonempty
    obtain ⟨-, rfl⟩ := Prod.mk.inj (Option.some.inj found)
    have whole :=
      congrArg List.length (List.takeWhile_append_dropWhile (p := Char.isDigit) (l := text))
    have positive := List.length_pos_iff.mpr nonempty
    simp only [List.length_append] at whole
    omega

theorem takeMinus_length (text : List Char) : (takeMinus text).2.length ≤ text.length := by
  unfold takeMinus
  split <;> simp

theorem takeFraction_length {text rest : List Char} {fraction : Option (List Char)}
    (found : takeFraction text = some (fraction, rest)) : rest.length ≤ text.length := by
  unfold takeFraction at found
  split at found
  · obtain ⟨⟨run, after⟩, taken, same⟩ := Option.map_eq_some_iff.mp found
    obtain ⟨-, rfl⟩ := Prod.mk.inj same
    have := takeDigits_length taken
    simp
    omega
  · obtain ⟨-, rfl⟩ := Prod.mk.inj (Option.some.inj found)
    omega

theorem takeExponent_length {text rest : List Char} {exponent : Option Int}
    (found : takeExponent text = some (exponent, rest)) : rest.length ≤ text.length := by
  unfold takeExponent at found
  split at found
  · obtain ⟨-, rfl⟩ := Prod.mk.inj (Option.some.inj found)
    simp
  · rename_i mark tail
    split at found
    · obtain ⟨⟨run, after⟩, taken, same⟩ := Option.map_eq_some_iff.mp found
      obtain ⟨-, rfl⟩ := Prod.mk.inj same
      have := takeDigits_length taken
      have := Decimal.Numeral.takeSign_length tail
      simp only [List.length_cons]
      omega
    · obtain ⟨-, rfl⟩ := Prod.mk.inj (Option.some.inj found)
      omega

theorem take_length {text rest : List Char} {written : Written}
    (found : take text = some (written, rest)) : rest.length < text.length := by
  simp only [take, bind, Option.bind_eq_some_iff, pure] at found
  obtain ⟨⟨whole, afterWhole⟩, wholeTaken, ⟨fraction, afterFraction⟩, fractionTaken,
    ⟨exponent, afterExponent⟩, exponentTaken, same⟩ := found
  obtain ⟨-, rfl⟩ := Prod.mk.inj (Option.some.inj same)
  have := takeMinus_length text
  have := takeDigits_length (Option.eq_some_of_filter_eq_some wholeTaken)
  have := takeFraction_length fractionTaken
  have := takeExponent_length exponentTaken
  dsimp only at *
  omega

end Written

end Verdict.Json
