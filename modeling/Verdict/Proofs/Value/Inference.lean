import Mathlib.Data.Nat.Digits.Defs
import Verdict.Proofs.Value.Literal

/-! What a literal token denotes. Digits denote an integer exactly when it fits 64 bits, and the
text of every value denotes it again. -/

namespace Verdict

namespace Literal

variable {text : List Char} {number : Int}

/-- Digits, perhaps after a minus sign, and the whole number that they denote. -/
inductive Whole : List Char → Int → Prop where
  | plain (run : List Char) (given : run ≠ []) (digits : ∀ char ∈ run, char.isDigit = true) :
      Whole run (Nat.ofDigits 10 (run.reverse.map Decimal.digitValue) : Nat)
  | negative (run : List Char) (given : run ≠ []) (digits : ∀ char ∈ run, char.isDigit = true) :
      Whole ('-' :: run) (-(Nat.ofDigits 10 (run.reverse.map Decimal.digitValue) : Nat))

theorem ofDigits_eq (run : List Char) :
    Decimal.ofDigits run = Nat.ofDigits 10 (run.reverse.map Decimal.digitValue) := by
  induction run using List.reverseRecOn with
  | nil => rfl
  | append_singleton run last ih =>
    rw [Decimal.ofDigits_append_singleton, List.reverse_concat, List.map_cons, Nat.ofDigits_cons,
      ih, Nat.add_comm]

namespace Whole

theorem integer?_eq (whole : Whole text number) : Decimal.Numeral.integer? text = some number := by
  cases whole with
  | plain run given digits => rw [integer?_plain given digits, ofDigits_eq]
  | negative run given digits => rw [integer?_negative given digits, ofDigits_eq]

theorem numeric (whole : Whole text number) : Numeric text := by
  have inside : ∀ {first : Char} {rest : List Char},
      (∀ char ∈ first :: rest, char.isDigit = true) →
        ∀ char ∈ rest, Lexeme.isWordChar char = true := by
    intro first rest digits char member
    exact Lexeme.isWordChar_of_isDigit (digits char (List.mem_cons_of_mem first member))
  cases whole with
  | plain run given digits =>
    obtain ⟨first, rest, rfl⟩ := List.exists_cons_of_ne_nil given
    exact .plain first rest (digits first List.mem_cons_self) (inside digits)
  | negative run given digits =>
    obtain ⟨first, rest, rfl⟩ := List.exists_cons_of_ne_nil given
    exact .negative first rest (digits first List.mem_cons_self) (inside digits)

theorem contains_point (whole : Whole text number) : text.contains '.' = false := by
  rw [List.contains_eq_mem, decide_eq_false_iff_not]
  intro point
  cases whole with
  | plain run given digits => exact absurd (digits '.' point) (by decide)
  | negative run given digits =>
    have inRun := (List.mem_cons.mp point).resolve_left (by decide)
    exact absurd (digits '.' inRun) (by decide)

theorem of_integer? (looks : looksNumeric text = true)
    (read : Decimal.Numeral.integer? text = some number) : Whole text number := by
  unfold looksNumeric at looks
  split at looks
  · rename_i run
    simp only [Decimal.Numeral.integer?, Decimal.Numeral.takeSign, if_true,
      Option.ite_none_left_eq_some, Bool.not_eq_true, Bool.or_eq_false_iff,
      List.isEmpty_eq_false_iff, Bool.not_eq_false', List.all_eq_true] at read
    obtain ⟨⟨given, digits⟩, value⟩ := read
    rw [← Option.some.inj value, ofDigits_eq]
    exact .negative run given digits
  · obtain ⟨first, head, digit⟩ := (Option.any_eq_true Char.isDigit text.head?).mp looks
    obtain ⟨rest, rfl⟩ := List.head?_eq_some_iff.mp head
    simp only [Decimal.Numeral.integer?, Decimal.Numeral.takeSign_digit digit, Bool.false_eq_true,
      if_false, Option.ite_none_left_eq_some, Bool.not_eq_true, Bool.or_eq_false_iff,
      List.isEmpty_eq_false_iff, Bool.not_eq_false', List.all_eq_true] at read
    obtain ⟨⟨given, digits⟩, value⟩ := read
    rw [← Option.some.inj value, ofDigits_eq]
    exact .plain (first :: rest) given digits

end Whole

theorem ofInt?_eq_some_iff {stored : Int64} :
    Value.ofInt? number = some (.integer stored) ↔ stored.toInt = number := by
  constructor
  · intro found
    unfold Value.ofInt? at found
    split at found
    · rename_i range
      rw [← Value.integer.inj (Option.some.inj found)]
      have ⟨low, high⟩ := isInteger_iff.mp range
      exact Int64.toInt_ofInt_of_le low high
    · simp at found
  · rintro rfl
    exact ofInt?_toInt stored

theorem Whole.ofToken_eq {token : String} (whole : Whole token.toList number) :
    Value.ofToken token = (Value.ofInt? number).getD (.string token) := by
  rw [whole.numeric.ofToken_eq, number?, whole.contains_point, whole.integer?_eq]
  simp

theorem number?_eq_integer {stored : Int64} (read : number? text = some (.integer stored)) :
    Decimal.Numeral.integer? text = some stored.toInt := by
  unfold number? at read
  split at read
  · simp at read
  · obtain ⟨number, whole, fits⟩ := Option.bind_eq_some_iff.mp read
    rw [whole, ofInt?_eq_some_iff.mp fits]

theorem ofToken_eq_integer_iff {token : String} {stored : Int64} :
    Value.ofToken token = .integer stored ↔ Whole token.toList stored.toInt := by
  constructor
  · intro denotes
    unfold Value.ofToken at denotes
    split at denotes
    · contradiction
    split at denotes
    · contradiction
    split at denotes
    · contradiction
    split at denotes
    · rename_i looks
      refine Whole.of_integer? looks (number?_eq_integer ?_)
      cases read : number? token.toList with
      | none => simp [read] at denotes
      | some value => simpa [read] using denotes
    · contradiction
  · intro whole
    rw [whole.ofToken_eq, ofInt?_toInt, Option.getD_some]

end Literal

open Literal

/-- A token denotes an integer exactly when it is a whole number of 64 bits with sign; a greater or
smaller one is text. The text of every truth value, integer and finite double denotes it again, and
so does every string between quotes. -/
theorem literal_inference_exact :
    (∀ (token : String) (number : Int),
      (∃ stored : Int64, stored.toInt = number ∧ Value.ofToken token = .integer stored) ↔
        Whole token.toList number ∧ -2 ^ 63 ≤ number ∧ number < 2 ^ 63) ∧
    (∀ (token : String) (number : Int), Whole token.toList number →
      ¬(-2 ^ 63 ≤ number ∧ number < 2 ^ 63) → Value.ofToken token = .string token) ∧
    (∀ truth : Bool, Value.ofToken (Value.boolean truth).text = .boolean truth) ∧
    (∀ number : Int64, Value.ofToken (Value.integer number).text = .integer number) ∧
    (∀ number : Float, number.isFinite = true →
      Value.ofToken (Value.float number).text = .float number) ∧
    ∀ text : String, Value.ofToken ("'" ++ text ++ "'") = .string text := by
  refine ⟨fun token number => ⟨?_, ?_⟩, ?_, fun truth => ?_, ofToken_integerText,
    fun number finite => ofToken_floatText finite, ofToken_quoted⟩
  · rintro ⟨stored, rfl, denotes⟩
    exact ⟨ofToken_eq_integer_iff.mp denotes, stored.le_toInt, stored.toInt_lt⟩
  · rintro ⟨whole, low, high⟩
    have restored := Int64.toInt_ofInt_of_le low high
    refine ⟨Int64.ofInt number, restored, ofToken_eq_integer_iff.mpr ?_⟩
    rwa [restored]
  · intro token number whole outside
    rw [whole.ofToken_eq, Value.ofInt?, if_neg (outside ∘ isInteger_iff.mp), Option.getD_none]
  · cases truth <;> rfl

theorem literal_inference_exact_at_limits :
    Value.ofToken "9223372036854775808" = .string "9223372036854775808" ∧
      (∃ stored : Int64, stored.toInt = -9223372036854775808 ∧
        Value.ofToken "-9223372036854775808" = .integer stored) ∧
      Value.ofToken (Value.float 0.5).text = .float 0.5 := by
  obtain ⟨integer, text, -, -, float, -⟩ := literal_inference_exact
  refine ⟨text _ 9223372036854775808 ?_ ?_, (integer _ _).mpr ⟨?_, ?_⟩, float 0.5 ?_⟩
  · exact .plain "9223372036854775808".toList (by decide) (List.all_eq_true.mp rfl)
  · decide
  · exact .negative "9223372036854775808".toList (by decide) (List.all_eq_true.mp rfl)
  · decide
  · decide

end Verdict
