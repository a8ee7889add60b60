import Verdict.Proofs.Json.Mirror
import Verdict.Proofs.Json.Syntax
import Verdict.Proofs.Token.Boundary

/-! The readers of JSON read what the grammar allows. A string ends at its quote, and a number where
the next character cannot belong to it. -/

namespace Verdict.Json

variable {rest : List Char}

theorem skipBlank_gap {gap : List Char} (blank : Gap gap) (rest : List Char) :
    skipBlank (gap ++ rest) = skipBlank rest := by
  apply List.dropWhile_append_of_pos
  intro char member
  rcases blank char member with rfl | rfl | rfl | rfl <;> rfl

theorem skipBlank_cons {char : Char} (dark : isBlank char = false) (rest : List Char) :
    skipBlank (char :: rest) = char :: rest :=
  List.dropWhile_cons_of_neg (ne_true_of_eq_false dark)

/-- What may stand directly after a number: nothing that could belong to one. -/
def Closes (rest : List Char) : Prop :=
  ∀ next, rest.head? = some next →
    next.isDigit = false ∧ next ≠ '.' ∧ next ≠ 'e' ∧ next ≠ 'E'

theorem closes_gap {gap : List Char} (blank : Gap gap) {mark : Char}
    (marks : mark = ',' ∨ mark = '}') (rest : List Char) : Closes (gap ++ mark :: rest) := by
  intro next head
  cases gap with
  | nil =>
    obtain rfl := Option.some.inj head
    rcases marks with rfl | rfl <;> decide
  | cons first others =>
    obtain rfl := Option.some.inj head
    rcases blank first List.mem_cons_self with rfl | rfl | rfl | rfl <;> decide

theorem Digits.head {run : List Char} (digits : Digits run) :
    ∃ first others, run = first :: others ∧
      ∀ other : Char, other.isDigit = false → first ≠ other := by
  obtain ⟨first, others, rfl⟩ := List.exists_cons_of_ne_nil digits.given
  refine ⟨first, others, rfl, ?_⟩
  rintro _ noDigit rfl
  exact Bool.false_ne_true (noDigit.symm.trans (digits.digits first List.mem_cons_self))

namespace Written

theorem takeDigits_append {run : List Char} (digits : Digits run)
    (stops : ∀ next, rest.head? = some next → next.isDigit = false) :
    takeDigits (run ++ rest) = some (run, rest) := by
  obtain ⟨taken, dropped⟩ := Lexeme.cut_append digits.digits stops
  obtain ⟨first, others, rfl⟩ := List.exists_cons_of_ne_nil digits.given
  rw [takeDigits, taken, dropped]

theorem takeWhole_append {run : List Char} (digits : Digits run)
    (leading : run.head? = some '0' → run = ['0'])
    (stops : ∀ next, rest.head? = some next → next.isDigit = false) :
    takeWhole (run ++ rest) = some (run, rest) := by
  rw [takeWhole, takeDigits_append digits stops, Option.filter_some, if_pos]
  by_cases zero : run.head? = some '0'
  · rw [leading zero]
    rfl
  · simp [zero]

variable {places : Option (List Char)} {power : Option Int} {fraction exponent : List Char}

theorem head_fraction (fractions : Fraction places fraction)
    (stops : ∀ next, rest.head? = some next → next.isDigit = false) :
    ∀ next, (fraction ++ rest).head? = some next → next.isDigit = false := by
  cases fractions with
  | none => exact stops
  | some digits =>
    intro next head
    obtain rfl := Option.some.inj head
    rfl

theorem head_exponent (exponents : Exponent power exponent) (closes : Closes rest) :
    ∀ next, (exponent ++ rest).head? = some next → next.isDigit = false ∧ next ≠ '.' := by
  have first {mark next : Char} {tail : List Char} (marked : mark = 'e' ∨ mark = 'E')
      (head : (mark :: tail).head? = some next) : next.isDigit = false ∧ next ≠ '.' := by
    obtain rfl := Option.some.inj head
    rcases marked with rfl | rfl <;> decide
  intro next head
  cases exponents with
  | none => exact ⟨(closes next head).1, (closes next head).2.1⟩
  | plain marked digits => exact first marked head
  | plus marked digits => exact first marked head
  | minus marked digits => exact first marked head

theorem takeMinus_digits {run : List Char} (digits : Digits run) (rest : List Char) :
    takeMinus (run ++ rest) = (false, run ++ rest) := by
  obtain ⟨first, others, rfl, noSign⟩ := digits.head
  rw [List.cons_append, takeMinus]
  exact fun _ shape => noSign '-' (by decide) (List.cons.inj shape).1

theorem takeFraction_append (fractions : Fraction places fraction)
    (stops : ∀ next, rest.head? = some next → next.isDigit = false ∧ next ≠ '.') :
    takeFraction (fraction ++ rest) = some (places, rest) := by
  cases fractions with
  | none =>
    unfold takeFraction
    split
    · rename_i point
      exact absurd rfl (stops '.' (by rw [List.nil_append] at point; rw [point]; rfl)).2
    · rfl
  | some digits =>
    have taken := takeDigits_append digits fun next head => (stops next head).1
    rw [List.cons_append, takeFraction, taken]
    rfl

theorem takeExponent_marked {mark : Char} {run tail : List Char} {negative : Bool}
    (marked : mark = 'e' ∨ mark = 'E')
    (signed : Decimal.Numeral.takeSign tail = (negative, run ++ rest))
    (digits : Digits run) (closes : Closes rest) :
    takeExponent (mark :: tail) =
      some (some (if negative then -(Decimal.ofDigits run : Int) else Decimal.ofDigits run),
        rest) := by
  have marks : (mark == 'e' || mark == 'E') = true := by
    rcases marked with rfl | rfl <;> rfl
  have taken := takeDigits_append digits fun next head => (closes next head).1
  simp only [takeExponent, marks, if_true, signed, taken, Option.map_some]

theorem takeExponent_append (exponents : Exponent power exponent) (closes : Closes rest) :
    takeExponent (exponent ++ rest) = some (power, rest) := by
  cases exponents with
  | none =>
    cases rest with
    | nil => rfl
    | cons next tail =>
      obtain ⟨-, -, noSmall, noCapital⟩ := closes next rfl
      simp [takeExponent, noSmall, noCapital]
  | @plain mark run marked digits =>
    obtain ⟨first, others, rfl⟩ := List.exists_cons_of_ne_nil digits.given
    have signed := Decimal.Numeral.takeSign_digit (digits.digits first List.mem_cons_self)
      (others ++ rest)
    exact takeExponent_marked marked signed digits closes
  | @plus mark run marked digits =>
    have signed : Decimal.Numeral.takeSign ('+' :: (run ++ rest)) = (false, run ++ rest) := rfl
    exact takeExponent_marked marked signed digits closes
  | @minus mark run marked digits =>
    have signed : Decimal.Numeral.takeSign ('-' :: (run ++ rest)) = (true, run ++ rest) := rfl
    exact takeExponent_marked marked signed digits closes

theorem take_append {written : Written} {text : List Char} (numeral : Numeral written text)
    (closes : Closes rest) : take (text ++ rest) = some (written, rest) := by
  cases numeral with
  | @written negative whole fraction exponent places power digits leading fractions exponents =>
    have pointStops := head_exponent exponents closes
    have wholeStops := head_fraction fractions fun next head => (pointStops next head).1
    have signed : takeMinus ((if negative then ['-'] else []) ++
        (whole ++ (fraction ++ (exponent ++ rest)))) =
          (negative, whole ++ (fraction ++ (exponent ++ rest))) := by
      cases negative with
      | true => rfl
      | false => exact takeMinus_digits digits _
    rw [List.append_assoc, List.append_assoc, List.append_assoc]
    simp only [take, signed, takeWhole_append digits leading wholeStops,
      takeFraction_append fractions pointStops, takeExponent_append exponents closes,
      Option.bind_eq_bind, Option.bind_some, Option.pure_def]

end Written

section Strings

variable {escapes : Escapes} {char : Char} {after : List Char}

theorem takeText_quote (rest : List Char) : takeText escapes ('"' :: rest) = some ([], rest) := by
  rw [takeText]

theorem takeText_escape (taken : escapes.take rest = some (char, after)) :
    takeText escapes ('\\' :: rest) =
      (takeText escapes after).map fun read => (char :: read.1, read.2) := by
  rw [takeText]
  split
  · simp_all
  · simp_all

theorem takeText_plain (printable : 0x20 ≤ char.toNat) (noQuote : char ≠ '"')
    (noBackslash : char ≠ '\\') (rest : List Char) :
    takeText escapes (char :: rest) =
      (takeText escapes rest).map fun read => (char :: read.1, read.2) := by
  rw [takeText]
  · exact if_neg (Nat.not_lt.mpr printable)
  · exact noQuote
  · exact noBackslash

theorem takeUnit_append {unit : Nat} {digits : List Char} (hex : Hex unit digits)
    (rest : List Char) : takeUnit (digits ++ rest) = some (unit, rest) := by
  cases hex with
  | digits a_eq b_eq c_eq d_eq => simp [takeUnit, a_eq, b_eq, c_eq, d_eq]

theorem takeEscape_short {letter : Char} (escape : (letter, char) ∈ shortEscapes)
    (rest : List Char) : takeEscape (letter :: rest) = some (char, rest) := by
  simp only [shortEscapes, List.mem_cons, Prod.mk.injEq, List.not_mem_nil, or_false] at escape
  rcases escape with ⟨rfl, rfl⟩ | ⟨rfl, rfl⟩ | ⟨rfl, rfl⟩ | ⟨rfl, rfl⟩ | ⟨rfl, rfl⟩ | ⟨rfl, rfl⟩ |
    ⟨rfl, rfl⟩ | ⟨rfl, rfl⟩ <;> rfl

theorem takeNumeric_unit {unit : Nat} {digits : List Char} (hex : Hex unit digits)
    (alone : unit < 0xD800 ∨ 0xE000 ≤ unit) (rest : List Char) :
    takeNumeric (digits ++ rest) = some (Char.ofNat unit, rest) := by
  have notHigh : isHighSurrogate unit = false := by
    simp only [isHighSurrogate, Bool.and_eq_false_iff, decide_eq_false_iff_not]
    omega
  have notLow : isLowSurrogate unit = false := by
    simp only [isLowSurrogate, Bool.and_eq_false_iff, decide_eq_false_iff_not]
    omega
  simp only [takeNumeric, takeUnit_append hex, notHigh, notLow, Bool.false_eq_true, if_false]

theorem takeNumeric_pair {high low : Nat} {first second : List Char} (highHex : Hex high first)
    (lowHex : Hex low second) (highRange : 0xD800 ≤ high ∧ high < 0xDC00)
    (lowRange : 0xDC00 ≤ low ∧ low < 0xE000) (rest : List Char) :
    takeNumeric (first ++ '\\' :: 'u' :: (second ++ rest)) =
      some (Char.ofNat (0x10000 + (high - 0xD800) * 0x400 + (low - 0xDC00)), rest) := by
  have isHigh : isHighSurrogate high = true := by
    simpa only [isHighSurrogate, Bool.and_eq_true, decide_eq_true_eq] using highRange
  have isLow : isLowSurrogate low = true := by
    simpa only [isLowSurrogate, Bool.and_eq_true, decide_eq_true_eq] using lowRange
  simp only [takeNumeric, takeUnit_append highHex, isHigh, if_true, takeLowSurrogate,
    takeUnit_append lowHex, Option.filter_some, isLow, Option.map_some]

theorem takeText_letter {text : List Char} (letter : Letter char text) (rest : List Char) :
    takeText .decoded (text ++ rest) =
      (takeText .decoded rest).map fun read => (char :: read.1, read.2) := by
  cases letter with
  | plain printable noQuote noBackslash => exact takeText_plain printable noQuote noBackslash rest
  | short escape => exact takeText_escape (takeEscape_short escape rest)
  | unit hex alone => exact takeText_escape (takeNumeric_unit hex alone rest)
  | @pair high low first second highHex lowHex isHigh isLow =>
    rw [List.cons_append, List.cons_append, List.append_assoc]
    exact takeText_escape (takeNumeric_pair highHex lowHex isHigh isLow rest)

theorem takeText_append {chars text : List Char} (letters : Letters chars text)
    (rest : List Char) : takeText .decoded (text ++ '"' :: rest) = some (chars, rest) := by
  induction letters with
  | nil => exact takeText_quote rest
  | cons first others ih => rw [List.append_assoc, takeText_letter first, ih, Option.map_some]

theorem takeName_append {name : String} {text : List Char} (quoted : Quoted name text)
    (rest : List Char) : takeName .kept (text ++ rest) = some (name, rest) := by
  cases quoted with
  | @quoted chars inside letters =>
    rw [List.cons_append, List.append_assoc]
    change (takeText .decoded (inside ++ '"' :: rest)).map _ = _
    rw [takeText_append letters, Option.map_some]

end Strings

namespace Reader

variable {α β : Type} {text gap after source : List Char}

theorem andThen_of_ok {first : Reader α} {following : α → Reader β} {value : α}
    (ran : first.run source = .ok (value, after)) :
    (first.andThen following).run source = (following value).run after := by
  unfold andThen
  dsimp only
  rw [ran]
  rfl

theorem char_run (wanted : Char) (dark : isBlank wanted = false) (blank : Gap gap)
    (rest : List Char) : (char wanted).run (gap ++ wanted :: rest) = .ok ((), rest) := by
  have skipped : skipBlank (gap ++ wanted :: rest) = wanted :: rest := by
    rw [skipBlank_gap blank, skipBlank_cons dark]
  simp only [char, afterBlank, ofOption, skipped, takeChar, beq_self_eq_true, if_true]

theorem name_run {name : String} (quoted : Quoted name text) (blank : Gap gap)
    (rest : List Char) : (Reader.name .kept).run (gap ++ (text ++ rest)) = .ok (name, rest) := by
  have taken := takeName_append quoted rest
  have skipped : skipBlank (gap ++ (text ++ rest)) = text ++ rest := by
    cases quoted with
    | quoted letters => rw [skipBlank_gap blank, List.cons_append, skipBlank_cons rfl]
  simp only [Reader.name, afterBlank, ofOption, skipped, taken]

end Reader

section Scalars

variable {content : Content} {text gap : List Char}

def Content.Scalar : Content → Prop
  | .array _ => False
  | .object _ => False
  | _ => True

def Content.scalar? : Content → Option Json
  | .null => some .null
  | .boolean truth => some (.boolean truth)
  | .number written => written.value?
  | .string text => some (.string text)
  | .array _ => none
  | .object _ => none

theorem Numeral.head {written : Written} (numeral : Numeral written text) :
    ∃ first tail, text = first :: tail ∧
      ∀ other : Char, other.isDigit = false → other ≠ '-' → first ≠ other := by
  cases numeral with
  | @written negative whole fraction exponent places power digits leading fractions exponents =>
    cases negative with
    | true => exact ⟨'-', _, rfl, fun _ _ noMinus => noMinus.symm⟩
    | false =>
      obtain ⟨first, others, rfl, noDigit⟩ := digits.head
      exact ⟨first, _, rfl, fun other dark _ => noDigit other dark⟩

theorem Numeral.digits {written : Written} (numeral : Numeral written text) :
    ∀ char ∈ written.whole ++ written.fraction.getD [], char.isDigit = true := by
  cases numeral with
  | written digits leading fractions exponents =>
    refine List.forall_mem_append.mpr ⟨digits.digits, ?_⟩
    cases fractions with
    | none => nofun
    | some digits => exact digits.digits

theorem takeScalar_number {first : Char}
    (starts : ∀ other : Char, other.isDigit = false → other ≠ '-' → first ≠ other)
    (tail : List Char) :
    takeScalar .kept (first :: tail) =
      (Written.take (first :: tail)).bind fun read =>
        read.1.value?.map fun json => (json, read.2) := by
  have other {char : Char} {rest : List Char} (noDigit : char.isDigit = false)
      (noMinus : char ≠ '-') : first :: tail ≠ char :: rest :=
    fun shape => starts char noDigit noMinus (List.cons.inj shape).1
  rw [takeScalar]
  · cases Written.take (first :: tail) with
    | none => rfl
    | some read =>
      change read.1.value?.bind _ = read.1.value?.map _
      cases read.1.value? <;> rfl
  · nofun
  · exact fun _ => other (by decide) (by decide)
  · exact fun _ => other (by decide) (by decide)
  · exact fun _ => other (by decide) (by decide)
  · exact fun _ => other (by decide) (by decide)

theorem takeScalar_append (writes : Writes content text) (scalar : content.Scalar)
    (closes : Closes rest) :
    takeScalar .kept (text ++ rest) = content.scalar?.map fun json => (json, rest) := by
  cases writes with
  | null => rfl
  | isTrue => rfl
  | isFalse => rfl
  | @number written text numeral =>
    have taken := Written.take_append numeral closes
    obtain ⟨first, tail, rfl, starts⟩ := numeral.head
    rw [List.cons_append] at taken ⊢
    rw [takeScalar_number starts, taken]
    rfl
  | @string string text quoted =>
    cases quoted with
    | @quoted chars inside letters =>
      rw [List.cons_append, List.append_assoc]
      change (takeText .decoded (inside ++ '"' :: rest)).map _ = _
      rw [takeText_append letters]
      rfl
  | emptyArray | array | emptyObject | object => exact scalar.elim

theorem Writes.head (writes : Writes content text) :
    ∃ first tail, text = first :: tail ∧ isBlank first = false ∧
      (content.Scalar ↔ first ≠ '[' ∧ first ≠ '{') := by
  cases writes with
  | null => exact ⟨'n', _, rfl, rfl, iff_of_true trivial (by decide)⟩
  | isTrue => exact ⟨'t', _, rfl, rfl, iff_of_true trivial (by decide)⟩
  | isFalse => exact ⟨'f', _, rfl, rfl, iff_of_true trivial (by decide)⟩
  | number numeral =>
    obtain ⟨first, tail, shape, starts⟩ := numeral.head
    refine ⟨first, tail, shape, ?_, iff_of_true trivial ⟨?_, ?_⟩⟩
    · simp [isBlank, starts ' ', starts '\n', starts '\t', starts '\r']
    · exact starts '[' (by decide) (by decide)
    · exact starts '{' (by decide) (by decide)
  | string quoted =>
    cases quoted with
    | quoted letters => exact ⟨'"', _, rfl, rfl, iff_of_true trivial (by decide)⟩
  | emptyArray => exact ⟨'[', _, rfl, rfl, iff_of_false id (by decide)⟩
  | array => exact ⟨'[', _, rfl, rfl, iff_of_false id (by decide)⟩
  | emptyObject => exact ⟨'{', _, rfl, rfl, iff_of_false id (by decide)⟩
  | object => exact ⟨'{', _, rfl, rfl, iff_of_false id (by decide)⟩

theorem skipBlank_writes (writes : Writes content text) (blank : Gap gap) (rest : List Char) :
    skipBlank (gap ++ (text ++ rest)) = text ++ rest := by
  obtain ⟨first, tail, rfl, dark, -⟩ := writes.head
  rw [skipBlank_gap blank, List.cons_append, skipBlank_cons dark]

namespace Reader

theorem scalar_eq_ok_iff {json : Json} {after : List Char} {source : List Char} :
    (scalar .kept).run source = .ok (json, after) ↔
      takeScalar .kept (skipBlank source) = some (json, after) := by
  simp only [scalar, afterBlank, ofOption]
  cases takeScalar .kept (skipBlank source) with
  | none => simp
  | some read => rw [Except.ok.injEq, Option.some.injEq]

theorem value_eq_scalar {levels : Nat} {source : List Char} {first : Char}
    (head : (skipBlank source).head? = some first) (noArray : first ≠ '[')
    (noObject : first ≠ '{') :
    (value .kept levels).run source = (scalar .kept).run source := by
  cases levels with
  | zero => rfl
  | succ levels =>
    rw [value, peek]
    dsimp only
    rw [head, if_neg (fun same => noArray (Option.some.inj same)),
      if_neg (fun same => noObject (Option.some.inj same))]

theorem value_scalar {levels : Nat} {json : Json} {after : List Char} (writes : Writes content text)
    (scalar : content.Scalar) (blank : Gap gap) (closes : Closes rest) :
    (value .kept levels).run (gap ++ (text ++ rest)) = .ok (json, after) ↔
      content.scalar? = some json ∧ after = rest := by
  have skipped := skipBlank_writes writes blank rest
  obtain ⟨first, tail, shape, -, kind⟩ := writes.head
  have head : (skipBlank (gap ++ (text ++ rest))).head? = some first := by
    rw [skipped, shape]
    rfl
  obtain ⟨noArray, noObject⟩ := kind.mp scalar
  rw [value_eq_scalar head noArray noObject, scalar_eq_ok_iff, skipped,
    takeScalar_append writes scalar closes]
  cases content.scalar? with
  | none => simp
  | some read => simp [eq_comm]

theorem value_container {levels : Nat} {json : Json} {after source : List Char} {first : Char}
    {tail : List Char} (start : skipBlank source = first :: tail)
    (opening : first = '[' ∨ first = '{')
    (ran : (value .kept levels).run source = .ok (json, after)) :
    (∃ items, json = .array items) ∨ ∃ members, json = .object members := by
  cases levels with
  | zero =>
    -- Where no container may be opened, its first character is taken for a number.
    have taken : takeScalar .kept (skipBlank source) = some (json, after) :=
      scalar_eq_ok_iff.mp ran
    rw [start] at taken
    rcases opening with rfl | rfl <;> cases taken
  | succ levels =>
    rw [value, peek] at ran
    dsimp only at ran
    rw [start, List.head?_cons] at ran
    rcases opening with rfl | rfl
    · rw [if_pos rfl, array, andThen_eq_ok_iff] at ran
      obtain ⟨_, _, -, ran⟩ := ran
      obtain ⟨items, -, rfl⟩ := map_eq_ok_iff.mp ran
      exact .inl ⟨_, rfl⟩
    · rw [if_neg (by decide), if_pos rfl, object, andThen_eq_ok_iff] at ran
      obtain ⟨_, _, -, ran⟩ := ran
      obtain ⟨members, -, rfl⟩ := map_eq_ok_iff.mp ran
      exact .inr ⟨_, rfl⟩

end Reader

end Scalars

end Verdict.Json
