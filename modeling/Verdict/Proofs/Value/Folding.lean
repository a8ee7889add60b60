import Verdict.Proofs.Value.Literal

/-! What a literal denotes when its letters are written in another case: the same truth value or
number, and of a string the other spelling. -/

namespace Verdict

open Text

namespace Decimal

variable {text : List Char}

theorem takeWhile_isDigit_fold (text : List Char) :
    (text.map Char.toLower).takeWhile Char.isDigit = text.takeWhile Char.isDigit := by
  have digits : ∀ char ∈ text.takeWhile Char.isDigit, char.isDigit = true :=
    fun _ member => List.mem_takeWhile_imp member
  rw [List.takeWhile_map, isDigit_comp_toLower, map_toLower_of_isDigit digits]

theorem dropWhile_isDigit_fold (text : List Char) :
    (text.map Char.toLower).dropWhile Char.isDigit =
      (text.dropWhile Char.isDigit).map Char.toLower := by
  rw [List.dropWhile_map, isDigit_comp_toLower]

namespace Numeral

theorem takeSign_cons (char : Char) (rest : List Char) :
    takeSign (char :: rest) =
      if char = '-' then (true, rest) else if char = '+' then (false, rest)
      else (false, char :: rest) := by
  unfold takeSign
  split <;> simp_all

theorem takeSign_fold (text : List Char) :
    takeSign (text.map Char.toLower) =
      ((takeSign text).1, (takeSign text).2.map Char.toLower) := by
  cases text with
  | nil => rfl
  | cons char rest =>
    have minus : char.toLower = '-' ↔ char = '-' := toLower_eq_iff (by decide)
    have plus : char.toLower = '+' ↔ char = '+' := toLower_eq_iff (by decide)
    simp only [List.map_cons, takeSign_cons, minus, plus]
    split
    · rfl
    · split <;> rfl

theorem integer?_fold (text : List Char) :
    integer? (text.map Char.toLower) = integer? text := by
  simp only [integer?, takeSign_fold, List.isEmpty_map, List.all_map, isDigit_comp_toLower]
  split
  · rfl
  · rename_i numeral
    simp only [Bool.or_eq_true, not_or, Bool.not_eq_true', Bool.not_eq_false, List.all_eq_true]
      at numeral
    rw [map_toLower_of_isDigit numeral.2]

theorem mark_fold (char : Char) :
    (char.toLower == 'e' || char.toLower == 'E') = (char == 'e' || char == 'E') := by
  rw [Bool.eq_iff_iff]
  simp only [Bool.or_eq_true, beq_iff_eq, ← Char.toNat_inj, toNat_toLower, Char.reduceToNat]
  split <;> omega

theorem exponent?_fold (text : List Char) :
    exponent? (text.map Char.toLower) = exponent? text := by
  cases text with
  | nil => rfl
  | cons mark rest => simp only [List.map_cons, exponent?, mark_fold, integer?_fold]

theorem takeFraction_cons (char : Char) (rest : List Char) :
    takeFraction (char :: rest) =
      if char = '.' then (rest.takeWhile Char.isDigit, rest.dropWhile Char.isDigit)
      else ([], char :: rest) := by
  unfold takeFraction
  split <;> simp_all

theorem takeFraction_fold (text : List Char) :
    takeFraction (text.map Char.toLower) =
      ((takeFraction text).1, (takeFraction text).2.map Char.toLower) := by
  cases text with
  | nil => rfl
  | cons char rest =>
    have point : char.toLower = '.' ↔ char = '.' := toLower_eq_iff (by decide)
    simp only [List.map_cons, takeFraction_cons, point, takeWhile_isDigit_fold,
      dropWhile_isDigit_fold]
    split <;> rfl

theorem ofChars?_fold (text : List Char) :
    ofChars? (text.map Char.toLower) = ofChars? text := by
  simp only [ofChars?, takeSign_fold, takeWhile_isDigit_fold, dropWhile_isDigit_fold,
    takeFraction_fold, exponent?_fold]

end Numeral

end Decimal

namespace Literal

theorem number?_fold (text : List Char) : number? (text.map Char.toLower) = number? text := by
  have point : (text.map Char.toLower).contains '.' = text.contains '.' := by
    rw [Bool.eq_iff_iff, List.contains_iff_mem, List.contains_iff_mem, List.mem_map]
    constructor
    · rintro ⟨char, member, lower⟩
      rwa [eq_of_toLower_eq lower (by decide)] at member
    · intro member
      exact ⟨'.', member, rfl⟩
  rw [number?, number?, point, Decimal.float?, Decimal.float?, Decimal.Numeral.ofChars?_fold,
    Decimal.Numeral.integer?_fold]

theorem looksNumeric_cons (char : Char) (rest : List Char) :
    looksNumeric (char :: rest) =
      if char = '-' then rest.head?.any Char.isDigit else char.isDigit := by
  unfold looksNumeric
  split <;> simp_all

theorem looksNumeric_fold (text : List Char) :
    looksNumeric (text.map Char.toLower) = looksNumeric text := by
  cases text with
  | nil => rfl
  | cons char rest =>
    have minus : char.toLower = '-' ↔ char = '-' := toLower_eq_iff (by decide)
    simp only [List.map_cons, looksNumeric_cons, minus, isDigit_toLower, List.head?_map,
      Option.any_map]

theorem exists_unquoted {text other inner : List Char}
    (same : text.map Char.toLower = other.map Char.toLower)
    (found : unquoted? other = some inner) :
    ∃ own, unquoted? text = some own ∧ own.map Char.toLower = inner.map Char.toLower := by
  have quote : ∀ {char : Char}, char.toLower = '\'' → char = '\'' :=
    (toLower_eq_iff (by decide)).mp
  rw [unquoted?_eq_some_iff.mp found, List.map_cons, List.map_append, List.map_singleton] at same
  obtain ⟨first, rest, rfl, opening, inside⟩ := List.map_eq_cons_iff.mp same
  obtain ⟨own, closing, rfl, sameInner, last⟩ := List.map_eq_append_iff.mp inside
  obtain ⟨final, rfl, closes⟩ := List.map_eq_singleton_iff.mp last
  rw [quote opening, quote closes]
  exact ⟨own, unquoted?_eq_some_iff.mpr rfl, sameInner⟩

end Literal

/-- A value under another spelling of its text: texts stand for their tokens, with or without
quotes, and everything else is identical. -/
inductive Value.Respelled (Pair : String → String → Prop) : Value → Value → Prop
  | boolean (truth : Bool) : Respelled Pair (.boolean truth) (.boolean truth)
  | integer (number : Int64) : Respelled Pair (.integer number) (.integer number)
  | float (number : Float) : Respelled Pair (.float number) (.float number)
  | plain {text other : String} (tokens : Pair text other)
      (same : sameFolded text other = true) : Respelled Pair (.string text) (.string other)
  | quoted {text other : String} (tokens : Pair ("'" ++ text ++ "'") ("'" ++ other ++ "'"))
      (same : sameFolded text other = true) : Respelled Pair (.string text) (.string other)

namespace Literal

variable {Pair : String → String → Prop} {token other : String}

theorem respelled_number {text : List Char} {value : Value} (read : number? text = some value) :
    value.Respelled Pair value := by
  unfold number? at read
  split at read
  · obtain ⟨number, -, rfl⟩ := Option.map_eq_some_iff.mp read
    exact .float number
  · obtain ⟨number, -, fits⟩ := Option.bind_eq_some_iff.mp read
    obtain ⟨-, integer⟩ := Option.ite_none_right_eq_some.mp fits
    rw [← Option.some.inj integer]
    exact .integer _

theorem eq_quoted {inner : List Char} (found : unquoted? token.toList = some inner) :
    token = "'" ++ String.ofList inner ++ "'" := by
  rw [← String.toList_inj, toList_quoted, String.toList_ofList]
  exact unquoted?_eq_some_iff.mp found

theorem ofToken_respelled (pair : Pair token other) (same : sameFolded token other = true) :
    (Value.ofToken token).Respelled Pair (Value.ofToken other) := by
  have folds : token.toList.map Char.toLower = other.toList.map Char.toLower :=
    sameFolded_iff.mp same
  have numbers : number? token.toList = number? other.toList := by
    rw [← number?_fold token.toList, folds, number?_fold]
  have numeric : looksNumeric token.toList = looksNumeric other.toList := by
    rw [← looksNumeric_fold token.toList, folds, looksNumeric_fold]
  unfold Value.ofToken
  rw [sameFolded_congr same "true", sameFolded_congr same "false", numeric, numbers]
  split
  · exact .boolean true
  split
  · exact .boolean false
  cases inner : unquoted? other.toList with
  | some inside =>
    obtain ⟨own, found, sameInside⟩ := exists_unquoted folds inner
    rw [eq_quoted inner, eq_quoted found] at pair
    rw [found]
    refine .quoted pair (sameFolded_iff.mpr ?_)
    rwa [folded, folded, String.toList_ofList, String.toList_ofList]
  | none =>
    have plain : unquoted? token.toList = none := by
      rw [Option.eq_none_iff_forall_ne_some]
      intro own found
      obtain ⟨_, other, -⟩ := exists_unquoted folds.symm found
      rw [inner] at other
      contradiction
    rw [plain]
    split
    · contradiction
    split
    · cases read : number? other.toList with
      | none => exact .plain pair same
      | some value => exact respelled_number read
    · exact .plain pair same

end Literal

end Verdict
