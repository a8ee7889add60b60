import Verdict.Value
import Verdict.Yaml.Tag

/-!
What the text of a plain scalar stands for: null, a truth value, a number, or itself.
-/

namespace Verdict.Yaml.Typing

def nullWords : List String := ["null", "Null", "NULL", "~"]

def trueWords : List String := ["true", "True", "TRUE"]

def falseWords : List String := ["false", "False", "FALSE"]

def infinityWords : List String := [".inf", ".Inf", ".INF"]

def nanWords : List String := [".nan", ".NaN", ".NAN"]

def isNull (text : String) : Bool :=
  text.isEmpty || nullWords.contains text

def truth? (text : String) : Option Bool :=
  if trueWords.contains text then some true
  else if falseWords.contains text then some false
  else none

def radixMarks : List (List Char × Nat) :=
  [(['0', 'x'], 16), (['0', 'o'], 8), (['0', 'b'], 2)]

def magnitude? (radix : Nat) (text : List Char) : Option Nat :=
  if text.isEmpty then
    none
  else
    text.foldlM (fun number char =>
      (Json.hexDigit? char).bind fun digit =>
        if digit < radix then some (radix * number + digit) else none) 0

def isPadded (unsigned : List Char) : Bool :=
  unsigned.length > 1 && unsigned.head? == some '0' && unsigned.all Char.isDigit

def unsigned? (text : List Char) : Option Nat :=
  match radixMarks.find? fun mark => mark.1.isPrefixOf text with
  | some (mark, radix) => magnitude? radix (text.drop mark.length)
  | none => if isPadded text then none else magnitude? 10 text

def integer? (text : List Char) : Option Int :=
  match text with
  | '-' :: rest => (unsigned? rest).map fun magnitude => -(magnitude : Int)
  | '+' :: rest => (unsigned? rest).map fun magnitude => (magnitude : Int)
  | _ => (unsigned? text).map fun magnitude => (magnitude : Int)

def float? (text : List Char) : Option Float :=
  let unplussed := match text with
    | '+' :: rest => rest
    | _ => text
  if unplussed.head? == some '+' || (text.head? == some '+' && unplussed.head? == some '-') then
    none
  else if infinityWords.contains (String.ofList unplussed) then
    some (1.0 / 0.0)
  else if text.head? == some '-' && infinityWords.contains (String.ofList (text.drop 1)) then
    some (-1.0 / 0.0)
  else if nanWords.contains (String.ofList text) then
    some (0.0 / 0.0)
  else
    (Decimal.float? unplussed).filter Float.isFinite

/-- An integer as a value: from 64 bits with sign to 64 bits without one, where it is a double.
Between these and 128 bits it is refused, and beyond them it is no integer. -/
def ofInteger? (number : Int) : Option (Option Value) :=
  if Value.isInteger number then some (some (.integer (Int64.ofInt number)))
  else if 0 ≤ number && number.toNat < UInt64.size then some (some (.float (Float.ofInt number)))
  else if number < 0 then if number.natAbs ≤ Nat.pow 2 127 then some none else none
  else if number.toNat < Nat.pow 2 128 then some none
  else none

def value? (text : String) : Option Value :=
  match truth? text with
  | some truth => some (.boolean truth)
  | none =>
    let chars := text.toList
    match (integer? chars).bind ofInteger? with
    | some value => value
    | none =>
      let unsigned := match chars with
        | '-' :: rest => rest
        | '+' :: rest => rest
        | _ => chars
      if isPadded unsigned then
        some (.string text)
      else
        match float? chars with
        | some number => some (.float number)
        | none => some (.string text)

/-- The value of a scalar with a tag; none if it is refused. A tag of its own kind, with an
exclamation mark in front, is refused too, unless it is no text; then it counts as no tag. -/
def tagged? (tag : Tag) (plain : Bool) (text : String) : Option Value :=
  if tag == Tag.core "bool" then
    (truth? text).map .boolean
  else if tag == Tag.core "int" then
    ((integer? text.toList).bind ofInteger?).join
  else if tag == Tag.core "float" then
    (float? text.toList).map .float
  else if tag == Tag.core "null" || (tag.startsWithMark && tag.isText) then
    none
  else if plain && tag.startsWithMark then
    if isNull text then none else value? text
  else
    some (.string text)

def binding? (tag : Option Tag) (plain : Bool) (text : String) : Option (Option Value) :=
  match tag with
  | none =>
    if !plain then some (some (.string text))
    else if isNull text then some none
    else (value? text).map some
  | some tag =>
    if plain && tag == Tag.core "null" && nullWords.contains text then some none
    else (tagged? tag plain text).map some

end Verdict.Yaml.Typing
