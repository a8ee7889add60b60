import Verdict.Comparison
import Verdict.Proofs.Decimal.Order

/-! The laws of comparison. Two numbers satisfy an operator as their order says, and every other
pair of values is only equal or different, by its texts. -/

namespace Verdict

open Decimal

namespace Operator

def admits (operator : Operator) (order : Option Ordering) : Bool :=
  match operator with
  | .equal => order == some .eq
  | .notEqual => order != some .eq
  | .greater => order == some .gt
  | .greaterOrEqual => order.any Ordering.isGE
  | .less => order == some .lt
  | .lessOrEqual => order.any Ordering.isLE

def mirror : Operator → Operator
  | .equal => .equal
  | .notEqual => .notEqual
  | .greater => .less
  | .greaterOrEqual => .lessOrEqual
  | .less => .greater
  | .lessOrEqual => .greaterOrEqual

variable (operator : Operator)

theorem admits_swap (order : Option Ordering) :
    operator.admits (order.map Ordering.swap) = operator.mirror.admits order := by
  cases operator <;> rcases order with _ | (_ | _ | _) <;> rfl

theorem onEquality_mirror (equal : Bool) :
    operator.mirror.onEquality equal = operator.onEquality equal := by
  cases operator <;> rfl

theorem relates_eq_admits (left right : Float) :
    operator.relates left right = operator.admits (order left right) := by
  rw [Bool.eq_iff_iff]
  cases operator with
  | equal | notEqual => rfl
  | less => rw [relates, admits, decide_eq_true_iff, lt_iff, beq_iff_eq]
  | lessOrEqual => rw [relates, admits, decide_eq_true_iff, le_iff]
  | greater =>
    rw [relates, decide_eq_true_iff, lt_iff, ← beq_iff_eq, order_swap]
    exact Bool.eq_iff_iff.mp (admits_swap .less _)
  | greaterOrEqual =>
    rw [relates, decide_eq_true_iff, le_iff, order_swap]
    exact Bool.eq_iff_iff.mp (admits_swap .lessOrEqual _)

end Operator

namespace Value

variable {actual expected : Value}

def IsNumeric (value : Value) : Prop :=
  (∃ number, value = .integer number) ∨ ∃ number, value = .float number

theorem isNumeric_iff {value : Value} : value.IsNumeric ↔ value.number?.isSome = true := by
  cases value <;> simp [IsNumeric, number?]

theorem satisfies_of_numbers {left right : Float} (leftNumber : actual.number? = some left)
    (rightNumber : expected.number? = some right) (operator : Operator) :
    actual.satisfies operator expected = operator.admits (order left right) := by
  rw [← Operator.relates_eq_admits]
  cases actual <;> cases expected <;> simp_all [satisfies, number?]

theorem satisfies_of_not_numbers (mixed : ¬ (actual.IsNumeric ∧ expected.IsNumeric))
    (operator : Operator) :
    actual.satisfies operator expected = operator.onEquality (actual.text == expected.text) := by
  simp only [isNumeric_iff] at mixed
  cases actual with
  | boolean truth =>
    cases expected with
    | boolean other => cases truth <;> cases other <;> rfl
    | _ => rfl
  | string text => rfl
  | _ => cases expected <;> simp_all [satisfies, number?]

theorem exists_order (numbers : actual.IsNumeric ∧ expected.IsNumeric) :
    ∃ order : Option Ordering, ∀ operator : Operator,
      actual.satisfies operator expected = operator.admits order ∧
        expected.satisfies operator actual = operator.mirror.admits order := by
  obtain ⟨left, leftNumber⟩ := Option.isSome_iff_exists.mp (isNumeric_iff.mp numbers.1)
  obtain ⟨right, rightNumber⟩ := Option.isSome_iff_exists.mp (isNumeric_iff.mp numbers.2)
  refine ⟨order left right, fun operator => ⟨?_, ?_⟩⟩
  · exact satisfies_of_numbers leftNumber rightNumber operator
  · rw [satisfies_of_numbers rightNumber leftNumber, order_swap, Operator.admits_swap]

theorem satisfies_mirror (actual expected : Value) (operator : Operator) :
    expected.satisfies operator actual = actual.satisfies operator.mirror expected := by
  by_cases numbers : actual.IsNumeric ∧ expected.IsNumeric
  · obtain ⟨order, ordered⟩ := exists_order numbers
    rw [(ordered operator).2, (ordered operator.mirror).1]
  · rw [satisfies_of_not_numbers numbers, satisfies_of_not_numbers (mt And.symm numbers),
      Operator.onEquality_mirror, Bool.beq_comm]

theorem satisfies_notEqual (actual expected : Value) :
    actual.satisfies .notEqual expected = !actual.satisfies .equal expected := by
  by_cases numbers : actual.IsNumeric ∧ expected.IsNumeric
  · obtain ⟨order, ordered⟩ := exists_order numbers
    rw [(ordered .notEqual).1, (ordered .equal).1]
    rfl
  · rw [satisfies_of_not_numbers numbers, satisfies_of_not_numbers numbers]
    rfl

theorem satisfies_exclusive (actual expected : Value) :
    [Operator.less, .equal, .greater].Pairwise fun one other =>
      ¬ (actual.satisfies one expected = true ∧ actual.satisfies other expected = true) := by
  by_cases numbers : actual.IsNumeric ∧ expected.IsNumeric
  · obtain ⟨order, ordered⟩ := exists_order numbers
    simp only [fun operator => (ordered operator).1]
    rcases order with _ | (_ | _ | _) <;> decide
  · simp only [satisfies_of_not_numbers numbers]
    cases actual.text == expected.text <;> decide

theorem satisfies_orEqual (numbers : actual.IsNumeric ∧ expected.IsNumeric) :
    actual.satisfies .lessOrEqual expected =
        (actual.satisfies .less expected || actual.satisfies .equal expected) ∧
      actual.satisfies .greaterOrEqual expected =
        (actual.satisfies .greater expected || actual.satisfies .equal expected) := by
  obtain ⟨order, ordered⟩ := exists_order numbers
  simp only [fun operator => (ordered operator).1]
  rcases order with _ | (_ | _ | _) <;> decide

theorem not_satisfies_ordering (mixed : ¬ (actual.IsNumeric ∧ expected.IsNumeric))
    (operator : Operator)
    (ordering : operator ∈ [.less, .lessOrEqual, .greater, .greaterOrEqual]) :
    actual.satisfies operator expected = false := by
  rw [satisfies_of_not_numbers mixed]
  simp only [List.mem_cons, List.not_mem_nil, or_false] at ordering
  rcases ordering with rfl | rfl | rfl | rfl <;> rfl

theorem satisfies_string_iff {value : Value} {text : String} :
    value.satisfies .equal (.string text) = true ↔ value.text = text := by
  have mixed : ¬ (value.IsNumeric ∧ (Value.string text).IsNumeric) := by simp [IsNumeric]
  rw [satisfies_of_not_numbers mixed]
  exact beq_iff_eq

end Value

/-- Values are different if they are not equal, an operator holds if its mirror does with the sides
exchanged, and only numbers are ordered. A string is equal to the values with its text, and an
absent value is in no relation to any other. -/
theorem comparison_laws (actual expected : Value) :
    let holds (left : Value) (operator : Operator) (right : Value) : Bool :=
      compareValues (some left) operator (some right)
    holds actual .notEqual expected = (!holds actual .equal expected) ∧
    holds actual .equal expected = holds expected .equal actual ∧
    holds actual .less expected = holds expected .greater actual ∧
    holds actual .lessOrEqual expected = holds expected .greaterOrEqual actual ∧
    [Operator.less, .equal, .greater].Pairwise (fun one other =>
      ¬ (holds actual one expected = true ∧ holds actual other expected = true)) ∧
    (actual.IsNumeric ∧ expected.IsNumeric →
      holds actual .lessOrEqual expected =
        (holds actual .less expected || holds actual .equal expected) ∧
      holds actual .greaterOrEqual expected =
        (holds actual .greater expected || holds actual .equal expected)) ∧
    (¬ (actual.IsNumeric ∧ expected.IsNumeric) →
      ∀ operator ∈ [.less, .lessOrEqual, .greater, .greaterOrEqual],
        holds actual operator expected = false) ∧
    (∀ text, holds actual .equal (.string text) = true ↔ actual.text = text) ∧
    ∀ (side : Option Value) (operator : Operator),
      compareValues none operator side = false ∧ compareValues side operator none = false := by
  refine ⟨Value.satisfies_notEqual actual expected, Value.satisfies_mirror expected actual .equal,
    Value.satisfies_mirror expected actual .less,
    Value.satisfies_mirror expected actual .lessOrEqual,
    Value.satisfies_exclusive actual expected, Value.satisfies_orEqual,
    Value.not_satisfies_ordering, fun _ => Value.satisfies_string_iff, ?_⟩
  intro side operator
  cases side <;> exact ⟨rfl, rfl⟩

theorem rounded_integer_at_most :
    compareValues (some (.integer 9007199254740993)) .lessOrEqual
        (some (.float 9007199254740992)) = true ∧
      compareValues (some (.boolean true)) .lessOrEqual (some (.string "true")) = false := by
  constructor
  · have numbers : (Value.integer 9007199254740993).IsNumeric ∧
        (Value.float 9007199254740992).IsNumeric := ⟨.inl ⟨_, rfl⟩, .inr ⟨_, rfl⟩⟩
    exact ((comparison_laws _ _).2.2.2.2.2.1 numbers).1.trans (by decide +kernel)
  · exact (comparison_laws _ _).2.2.2.2.2.2.1 (by simp [Value.IsNumeric]) _ (by decide)

end Verdict
