import Verdict.Json.Number
import Verdict.Json.Text

/-! The grammar of JSON: what a text says and in which ways it may be written. Nothing here depends
on how a reader goes about it. -/

namespace Verdict.Json

/-- What a JSON text says. Numbers are kept as they are written, members in their order and with
repeated names. -/
inductive Content where
  | null
  | boolean (truth : Bool)
  | number (written : Written)
  | string (text : String)
  | array (items : List Content)
  | object (members : List (String × Content))

def Gap (text : List Char) : Prop :=
  ∀ char ∈ text, char = ' ' ∨ char = '\n' ∨ char = '\t' ∨ char = '\r'

structure Digits (run : List Char) : Prop where
  given : run ≠ []
  digits : ∀ char ∈ run, char.isDigit = true

inductive Fraction : Option (List Char) → List Char → Prop
  | none : Fraction none []
  | some {run : List Char} (digits : Digits run) : Fraction (some run) ('.' :: run)

inductive Exponent : Option Int → List Char → Prop
  | none : Exponent none []
  | plain {mark : Char} {run : List Char} (marked : mark = 'e' ∨ mark = 'E') (digits : Digits run) :
      Exponent (some (Decimal.ofDigits run)) (mark :: run)
  | plus {mark : Char} {run : List Char} (marked : mark = 'e' ∨ mark = 'E') (digits : Digits run) :
      Exponent (some (Decimal.ofDigits run)) (mark :: '+' :: run)
  | minus {mark : Char} {run : List Char} (marked : mark = 'e' ∨ mark = 'E') (digits : Digits run) :
      Exponent (some (-Decimal.ofDigits run)) (mark :: '-' :: run)

inductive Numeral : Written → List Char → Prop
  | written {negative : Bool} {whole fraction exponent : List Char} {places : Option (List Char)}
      {power : Option Int} (digits : Digits whole)
      (leading : whole.head? = some '0' → whole = ['0']) (fractions : Fraction places fraction)
      (exponents : Exponent power exponent) :
      Numeral { negative, whole, fraction := places, exponent := power }
        ((if negative then ['-'] else []) ++ whole ++ fraction ++ exponent)

inductive Hex : Nat → List Char → Prop
  | digits {a b c d : Char} {first second third fourth : Nat} (a_eq : hexDigit? a = some first)
      (b_eq : hexDigit? b = some second) (c_eq : hexDigit? c = some third)
      (d_eq : hexDigit? d = some fourth) :
      Hex (256 * (16 * first + second) + (16 * third + fourth)) [a, b, c, d]

inductive Letter : Char → List Char → Prop
  | plain {char : Char} (printable : 0x20 ≤ char.toNat) (noQuote : char ≠ '"')
      (noBackslash : char ≠ '\\') : Letter char [char]
  | short {letter char : Char} (escape : (letter, char) ∈ shortEscapes) :
      Letter char ['\\', letter]
  | unit {unit : Nat} {digits : List Char} (hex : Hex unit digits)
      (alone : unit < 0xD800 ∨ 0xE000 ≤ unit) : Letter (Char.ofNat unit) ('\\' :: 'u' :: digits)
  | pair {high low : Nat} {first second : List Char} (highHex : Hex high first)
      (lowHex : Hex low second) (isHigh : 0xD800 ≤ high ∧ high < 0xDC00)
      (isLow : 0xDC00 ≤ low ∧ low < 0xE000) :
      Letter (Char.ofNat (0x10000 + (high - 0xD800) * 0x400 + (low - 0xDC00)))
        ('\\' :: 'u' :: (first ++ '\\' :: 'u' :: second))

inductive Letters : List Char → List Char → Prop
  | nil : Letters [] []
  | cons {char : Char} {chars text rest : List Char} (first : Letter char text)
      (others : Letters chars rest) : Letters (char :: chars) (text ++ rest)

inductive Quoted : String → List Char → Prop
  | quoted {chars text : List Char} (letters : Letters chars text) :
      Quoted (String.ofList chars) ('"' :: (text ++ ['"']))

inductive Series {α : Type} (Item : α → List Char → Prop) : List α → List Char → Prop
  | last {item : α} {before text after : List Char} (gapBefore : Gap before)
      (written : Item item text) (gapAfter : Gap after) :
      Series Item [item] (before ++ (text ++ after))
  | cons {item : α} {items : List α} {before text after rest : List Char} (gapBefore : Gap before)
      (written : Item item text) (gapAfter : Gap after) (others : Series Item items rest) :
      Series Item (item :: items) (before ++ (text ++ (after ++ ',' :: rest)))

inductive Member (Value : Content → List Char → Prop) : String × Content → List Char → Prop
  | member {name : String} {content : Content} {quoted before after text : List Char}
      (named : Quoted name quoted) (gapBefore : Gap before) (gapAfter : Gap after)
      (value : Value content text) :
      Member Value (name, content) (quoted ++ (before ++ ':' :: (after ++ text)))

/-- What a text says, with no white space around it. -/
inductive Writes : Content → List Char → Prop
  | null : Writes .null ['n', 'u', 'l', 'l']
  | isTrue : Writes (.boolean true) ['t', 'r', 'u', 'e']
  | isFalse : Writes (.boolean false) ['f', 'a', 'l', 's', 'e']
  | number {written : Written} {text : List Char} (numeral : Numeral written text) :
      Writes (.number written) text
  | string {string : String} {text : List Char} (quoted : Quoted string text) :
      Writes (.string string) text
  | emptyArray {gap : List Char} (blank : Gap gap) : Writes (.array []) ('[' :: (gap ++ [']']))
  | array {items : List Content} {text : List Char} (series : Series Writes items text) :
      Writes (.array items) ('[' :: (text ++ [']']))
  | emptyObject {gap : List Char} (blank : Gap gap) : Writes (.object []) ('{' :: (gap ++ ['}']))
  | object {members : List (String × Content)} {text : List Char}
      (series : Series (Member Writes) members text) :
      Writes (.object members) ('{' :: (text ++ ['}']))

def Document (content : Content) (text : List Char) : Prop :=
  ∃ before inside after, Gap before ∧ Writes content inside ∧ Gap after ∧
    text = before ++ (inside ++ after)

end Verdict.Json
