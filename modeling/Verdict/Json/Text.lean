import Verdict.Json.Basic

/-!
JSON strings: the characters between quotes, with their escapes.
-/

namespace Verdict.Json

def hexDigit? (char : Char) : Option Nat :=
  if char.isDigit then some (char.toNat - '0'.toNat)
  else if 'a' ≤ char ∧ char ≤ 'f' then some (char.toNat - 'a'.toNat + 10)
  else if 'A' ≤ char ∧ char ≤ 'F' then some (char.toNat - 'A'.toNat + 10)
  else none

def takeUnit : List Char → Option (Nat × List Char)
  | a :: b :: c :: d :: rest => do
    let high ← (hexDigit? a).bind fun a => (hexDigit? b).map fun b => 16 * a + b
    let low ← (hexDigit? c).bind fun c => (hexDigit? d).map fun d => 16 * c + d
    return (256 * high + low, rest)
  | _ => none

def isHighSurrogate (unit : Nat) : Bool :=
  0xD800 ≤ unit && unit < 0xDC00

def isLowSurrogate (unit : Nat) : Bool :=
  0xDC00 ≤ unit && unit < 0xE000

def takeLowSurrogate : List Char → Option (Nat × List Char)
  | '\\' :: 'u' :: rest => (takeUnit rest).filter fun found => isLowSurrogate found.1
  | _ => none

/-- The character of a numeric escape. A surrogate without its other half denotes none. -/
def takeNumeric (text : List Char) : Option (Char × List Char) :=
  match takeUnit text with
  | none => none
  | some (unit, rest) =>
    if isHighSurrogate unit then
      (takeLowSurrogate rest).map fun (low, rest) =>
        (Char.ofNat (0x10000 + (unit - 0xD800) * 0x400 + (low - 0xDC00)), rest)
    else if isLowSurrogate unit then
      none
    else
      some (Char.ofNat unit, rest)

def shortEscapes : List (Char × Char) :=
  [('"', '"'), ('\\', '\\'), ('/', '/'), ('b', '\x08'), ('f', '\x0C'), ('n', '\n'), ('r', '\r'),
    ('t', '\t')]

def takeEscape : List Char → Option (Char × List Char)
  | [] => none
  | 'u' :: rest => takeNumeric rest
  | letter :: rest => (shortEscapes.lookup letter).map (·, rest)

def skipEscape : List Char → Option (Char × List Char)
  | [] => none
  | 'u' :: rest => (takeUnit rest).map fun found => ('u', found.2)
  | letter :: rest => (shortEscapes.lookup letter).map (·, rest)

theorem takeUnit_length {text rest : List Char} {unit : Nat}
    (found : takeUnit text = some (unit, rest)) : rest.length < text.length := by
  unfold takeUnit at found
  split at found
  · simp only [bind, Option.bind_eq_some_iff, pure] at found
    obtain ⟨high, -, low, -, same⟩ := found
    obtain ⟨-, rfl⟩ := Prod.mk.inj (Option.some.inj same)
    simp
    omega
  · simp at found

theorem takeLowSurrogate_length {text rest : List Char} {unit : Nat}
    (found : takeLowSurrogate text = some (unit, rest)) : rest.length < text.length := by
  unfold takeLowSurrogate at found
  split at found
  · have := takeUnit_length (Option.eq_some_of_filter_eq_some found)
    simp
    omega
  · simp at found

theorem takeNumeric_length {text rest : List Char} {char : Char}
    (found : takeNumeric text = some (char, rest)) : rest.length < text.length := by
  unfold takeNumeric at found
  split at found
  · simp at found
  · rename_i unit middle taken
    have := takeUnit_length taken
    split at found
    · obtain ⟨⟨low, after⟩, second, same⟩ := Option.map_eq_some_iff.mp found
      obtain ⟨-, rfl⟩ := Prod.mk.inj same
      have := takeLowSurrogate_length second
      omega
    · split at found
      · simp at found
      · obtain ⟨-, rfl⟩ := Prod.mk.inj (Option.some.inj found)
        omega

theorem takeEscape_length {text rest : List Char} {char : Char}
    (found : takeEscape text = some (char, rest)) : rest.length < text.length := by
  unfold takeEscape at found
  split at found
  · simp at found
  · have := takeNumeric_length found
    simp
    omega
  · obtain ⟨_, -, same⟩ := Option.map_eq_some_iff.mp found
    obtain ⟨-, rfl⟩ := Prod.mk.inj same
    simp

theorem skipEscape_length {text rest : List Char} {char : Char}
    (found : skipEscape text = some (char, rest)) : rest.length < text.length := by
  unfold skipEscape at found
  split at found
  · simp at found
  · obtain ⟨⟨unit, after⟩, taken, same⟩ := Option.map_eq_some_iff.mp found
    obtain ⟨-, rfl⟩ := Prod.mk.inj same
    have := takeUnit_length taken
    simp
    omega
  · obtain ⟨_, -, same⟩ := Option.map_eq_some_iff.mp found
    obtain ⟨-, rfl⟩ := Prod.mk.inj same
    simp

structure Escapes where
  take : List Char → Option (Char × List Char)
  shortens : ∀ {text char rest}, take text = some (char, rest) → rest.length < text.length

def Escapes.decoded : Escapes :=
  { take := takeEscape, shortens := takeEscape_length }

def Escapes.skipped : Escapes :=
  { take := skipEscape, shortens := skipEscape_length }

def takeText (escapes : Escapes) (text : List Char) : Option (List Char × List Char) :=
  match text with
  | [] => none
  | '"' :: rest => some ([], rest)
  | '\\' :: rest =>
    match found : escapes.take rest with
    | none => none
    | some (char, after) =>
      have : after.length < rest.length := escapes.shortens found
      (takeText escapes after).map fun (chars, after) => (char :: chars, after)
  | char :: rest =>
    if char.toNat < 0x20 then
      none
    else
      (takeText escapes rest).map fun (chars, after) => (char :: chars, after)
termination_by text.length

theorem takeText_length {escapes : Escapes} {text rest chars : List Char}
    (found : takeText escapes text = some (chars, rest)) : rest.length < text.length := by
  fun_induction takeText escapes text generalizing chars rest with
  | case1 => simp at found
  | case2 after =>
    obtain ⟨-, rfl⟩ := Prod.mk.inj (Option.some.inj found)
    simp
  | case3 => simp at found
  | case4 text char after taken shorter ih =>
    obtain ⟨⟨others, tail⟩, taken, same⟩ := Option.map_eq_some_iff.mp found
    obtain ⟨-, rfl⟩ := Prod.mk.inj same
    have := ih taken
    simp
    omega
  | case5 => simp at found
  | case6 char text _ _ printable ih =>
    obtain ⟨⟨others, tail⟩, taken, same⟩ := Option.map_eq_some_iff.mp found
    obtain ⟨-, rfl⟩ := Prod.mk.inj same
    have := ih taken
    simp
    omega

end Verdict.Json
