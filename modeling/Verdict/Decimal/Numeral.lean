import Verdict.Decimal.Digits

/-!
Decimal numerals: an optional sign, digits with an optional point, and an optional exponent.
`Numeral.ofChars?` reads one, `Numeral.toFloat` rounds it to the nearest double.
-/

namespace Verdict.Decimal

structure Numeral where
  negative : Bool
  significand : Nat
  exponent : Int
deriving DecidableEq, Repr

namespace Numeral

def takeSign : List Char → Bool × List Char
  | '-' :: rest => (true, rest)
  | '+' :: rest => (false, rest)
  | rest => (false, rest)

theorem takeSign_length (text : List Char) : (takeSign text).2.length ≤ text.length := by
  unfold takeSign
  split <;> simp

theorem takeSign_digit {digit : Char} (isDigit : digit.isDigit = true) (rest : List Char) :
    takeSign (digit :: rest) = (false, digit :: rest) := by
  unfold takeSign
  split
  · rename_i shape
    obtain ⟨rfl, -⟩ := List.cons.inj shape
    contradiction
  · rename_i shape
    obtain ⟨rfl, -⟩ := List.cons.inj shape
    contradiction
  · rfl

def integer? (text : List Char) : Option Int :=
  let (negative, run) := takeSign text
  if run.isEmpty || !run.all Char.isDigit then
    none
  else if negative then
    some (-(ofDigits run : Int))
  else
    some (ofDigits run : Int)

def exponent? : List Char → Option Int
  | [] => some 0
  | mark :: rest => if mark == 'e' || mark == 'E' then integer? rest else none

def takeFraction : List Char → List Char × List Char
  | '.' :: rest => (rest.takeWhile Char.isDigit, rest.dropWhile Char.isDigit)
  | rest => ([], rest)

def ofChars? (text : List Char) : Option Numeral :=
  let (negative, unsigned) := takeSign text
  let whole := unsigned.takeWhile Char.isDigit
  let (fraction, rest) := takeFraction (unsigned.dropWhile Char.isDigit)
  if whole.isEmpty && fraction.isEmpty then
    none
  else
    (exponent? rest).map fun exponent =>
      { negative
        significand := ofDigits (whole ++ fraction)
        exponent := exponent - fraction.length }

def exponentBound : Int := 400

/-- The double nearest to a magnitude; a tie goes to the even one, and a magnitude beyond the
largest double to infinity. -/
def magnitude (significand : Nat) (exponent : Int) : Float :=
  let leading := exponent + (digits significand).length
  if significand = 0 || leading < -exponentBound then
    0.0
  else if leading > exponentBound then
    1.0 / 0.0
  else
    Float.ofScientific significand (exponent < 0) exponent.natAbs

def toFloat (numeral : Numeral) : Float :=
  let value := magnitude numeral.significand numeral.exponent
  if numeral.negative then -value else value

end Numeral

def float? (text : List Char) : Option Float :=
  (Numeral.ofChars? text).map Numeral.toFloat

end Verdict.Decimal
