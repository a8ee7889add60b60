import Verdict.Bindings.Argument
import Verdict.Proofs.Decimal.Number
import Verdict.Proofs.Evaluation.Agreement
import Verdict.Proofs.Expr.Canonical
import Verdict.Proofs.Text.Trim
import Verdict.Proofs.Value.Comparison

/-! A binding argument binds what the literal in it denotes in a rule, so a rule that compares the
name with the same literal finds them equal. -/

namespace Verdict

open Lexeme

namespace Lexeme

variable {token : List Char}

theorem Shape.trim_eq (shape : Shape token) : Text.trim token = token := by
  apply Text.trim_eq_self
  · intro char first
    obtain ⟨rest, rfl⟩ := List.head?_eq_some_iff.mp first
    exact shape.visible
  · intro char last
    obtain ⟨before, whole⟩ := List.getLast?_eq_some_iff.mp last
    have member : char ∈ token := whole ▸ List.mem_append_right before List.mem_cons_self
    cases shape with
    | quoted body plain =>
      rw [← List.cons_append, List.append_singleton_inj] at whole
      rw [← whole.2]
      decide
    | unclosed =>
      rw [List.mem_singleton.mp member]
      decide
    | word first inner starts inside =>
      rcases List.mem_cons.mp member with rfl | later
      · exact (Shape.word char inner starts inside).visible
      · exact isBlank_of_isWordChar (inside char later)
    | pair first starts =>
      rcases List.mem_cons.mp member with rfl | later
      · exact (Shape.pair char starts).visible
      · rw [List.mem_singleton.mp later]
        decide
    | single first other noWord visible =>
      rw [List.mem_singleton.mp member]
      exact visible

end Lexeme

def Operator.admitsEqual : Operator → Bool
  | .equal | .lessOrEqual | .greaterOrEqual => true
  | .notEqual | .less | .greater => false

theorem Operator.relates_self {number : Float} (isNumber : number.isNaN = false)
    (operator : Operator) : operator.relates number number = operator.admitsEqual := by
  rw [relates_eq_admits, Decimal.order_self isNumber]
  cases operator <;> rfl

namespace Value

variable {value : Value}

theorem float?_of_number? {token : List Char} {number : Float}
    (read : Literal.number? token = some (.float number)) : Decimal.float? token = some number := by
  unfold Literal.number? at read
  split at read
  · simpa using read
  · obtain ⟨whole, -, fits⟩ := Option.bind_eq_some_iff.mp read
    rw [ofInt?, Option.ite_none_right_eq_some] at fits
    cases fits.2

theorem float?_of_ofToken {token : String} {number : Float}
    (denoted : ofToken token = .float number) : Decimal.float? token.toList = some number := by
  unfold ofToken at denoted
  split at denoted
  · cases denoted
  split at denoted
  · cases denoted
  split at denoted
  · cases denoted
  split at denoted
  · rcases Option.getD_eq_iff.mp denoted with read | ⟨-, impossible⟩
    · exact float?_of_number? read
    · cases impossible
  · cases denoted

theorem isNaN_ofToken {token : String} {number : Float}
    (denoted : (ofToken token).number? = some number) : number.isNaN = false := by
  cases value : ofToken token with
  | integer whole =>
    rw [value] at denoted
    obtain rfl := Option.some.inj denoted
    exact Decimal.isNaN_ofInt whole.toInt
  | float read =>
    rw [value] at denoted
    obtain rfl := Option.some.inj denoted
    exact Decimal.isNaN_float? (float?_of_ofToken value)
  | boolean truth => rw [value] at denoted; cases denoted
  | string text => rw [value] at denoted; cases denoted

theorem satisfies_self (numbers : ∀ number, value.number? = some number → number.isNaN = false)
    (operator : Operator) :
    value.satisfies operator value =
      if value.number?.isSome then operator.admitsEqual else operator.onEquality true := by
  cases value with
  | boolean truth => simp [satisfies, number?]
  | string text => simp [satisfies, number?]
  | integer number => exact operator.relates_self (numbers _ rfl)
  | float number => exact operator.relates_self (numbers _ rfl)

end Value

structure PlainName (name : String) : Prop where
  spelled : ∀ char ∈ name.toList, isWordChar char = true
  given : name ≠ ""
  unnegated : Text.sameFolded name "NOT" = false

namespace PlainName

variable {name : String} (plain : PlainName name)
include plain

theorem shape : Shape name.toList := by
  obtain ⟨first, inner, letters⟩ :=
    List.exists_cons_of_ne_nil (mt String.toList_eq_nil_iff.mp plain.given)
  have spelled := plain.spelled
  rw [letters] at spelled ⊢
  obtain ⟨starts, inside⟩ := List.forall_mem_cons.mp spelled
  exact .word first inner (startsWord_iff.mpr (.inl starts)) inside

theorem ne_of_mem {other : String} {symbol : Char} (member : symbol ∈ other.toList)
    (noWord : isWordChar symbol = false) : name ≠ other := by
  rintro rfl
  exact Bool.false_ne_true (noWord.symm.trans (plain.spelled symbol member))

theorem divides (literal : List Char) :
    (name.toList ++ '=' :: literal).takeWhile (· != '=') = name.toList ∧
      (name.toList ++ '=' :: literal).dropWhile (· != '=') = '=' :: literal := by
  apply cut_before
  intro member
  exact absurd (plain.spelled '=' member) (by decide)

theorem ofArgument?_eq {literal : String} (shape : Shape literal.toList) :
    Bindings.ofArgument? (name ++ "=" ++ literal) = .ok (name, Value.ofToken literal) := by
  have text : (name ++ "=" ++ literal).toList = name.toList ++ '=' :: literal.toList := by simp
  obtain ⟨before, after⟩ := plain.divides literal.toList
  have given : name.toList.isEmpty = false := by
    simpa using plain.given
  simp only [Bindings.ofArgument?, text, before, after, plain.shape.trim_eq, shape.trim_eq, given,
    String.ofList_toList, Bool.false_eq_true, if_false]

theorem compile_comparison {literal : String} (token : tokenize literal = [literal])
    (operator : Operator) :
    compile (name ++ " " ++ operator.symbol ++ " " ++ literal) =
      .ok (.atom (.compare name operator (Value.ofToken literal))) := by
  have opening : name ≠ "(" := plain.ne_of_mem List.mem_cons_self (by decide)
  have quote : name ≠ "'" := plain.ne_of_mem List.mem_cons_self (by decide)
  have symbol : operator.symbol ≠ "'" := by cases operator <;> decide
  refine compile_leaf ⟨name, opening, .compare operator literal⟩ plain.unnegated ?_
  simp only [String.append_assoc]
  rw [tokenize_append plain.shape (separated_append (.inl rfl) _) fun same => absurd same quote,
    tokenize_word operator.shape_symbol (separated_append (.inl rfl) _) symbol, tokenize_space,
    token]
  rfl

end PlainName

def Answers (bindings : Bindings) (text : String) (value : Bool) : Prop :=
  evaluate bindings text = .ok value ∧
    ∃ tree, compile text = .ok tree ∧ tree.evaluate bindings = .ok value

theorem answers_iff_of_compile {bindings : Bindings} {text : String} {tree : Expr}
    (compiled : compile text = .ok tree) {value : Bool} :
    Answers bindings text value ↔ tree.evaluate bindings = .ok value := by
  rw [Answers, evaluate_of_compile compiled bindings, compiled]
  simp

/-- An argument binds the value of its literal, which is equal to that literal in a rule and neither
different from it nor ordered against it; only numbers are also at least and at most themselves. -/
theorem argument_binds_literal {name literal : String} (plain : PlainName name)
    (token : tokenize literal = [literal]) :
    let value := Value.ofToken literal
    let bindings := Bindings.empty.insert name value
    let rule (operator : Operator) := name ++ " " ++ operator.symbol ++ " " ++ literal
    Bindings.ofArgument? (name ++ "=" ++ literal) = .ok (name, value) ∧
    Answers bindings (rule .equal) true ∧
    (∀ operator ∈ [.notEqual, .less, .greater], Answers bindings (rule operator) false) ∧
    ∀ operator ∈ [.lessOrEqual, .greaterOrEqual],
      (Answers bindings (rule operator) true ↔ value.IsNumeric) ∧
      (Answers bindings (rule operator) false ↔ ¬ value.IsNumeric) := by
  intro value bindings rule
  have compares (operator : Operator) {truth : Bool} :
      Answers bindings (rule operator) truth ↔
        (if value.number?.isSome then operator.admitsEqual
          else operator.onEquality true) = truth := by
    rw [answers_iff_of_compile (plain.compile_comparison token operator), Expr.evaluate,
      Atom.evaluate, Bindings.get?_insert, if_pos rfl, Except.ok.injEq, compareValues,
      Value.satisfies_self fun number => Value.isNaN_ofToken]
  refine ⟨plain.ofArgument?_eq (shape_of_mem_tokenize (token ▸ List.mem_cons_self)), ?_, ?_, ?_⟩
  · rw [compares]
    cases value.number?.isSome <;> rfl
  · intro operator strict
    rw [compares]
    cases value.number?.isSome <;> fin_cases strict <;> rfl
  · intro operator weak
    rw [compares, compares, Value.isNumeric_iff]
    cases value.number?.isSome <;> fin_cases weak <;> decide

theorem quoted_argument_equal :
    let bindings := Bindings.empty.insert "K" (.string "a = b")
    Bindings.ofArgument? "K='a = b'" = .ok ("K", .string "a = b") ∧
      Answers bindings "K = 'a = b'" true ∧ Answers bindings "K <= 'a = b'" false := by
  have literal : Value.ofToken "'a = b'" = .string "a = b" := Literal.ofToken_quoted "a = b"
  have plain : PlainName "K" := ⟨List.forall_mem_singleton.mpr (by decide), by decide, by decide⟩
  have token : tokenize "'a = b'" = ["'a = b'"] := by decide +kernel
  obtain ⟨bound, equal, -, weak⟩ := argument_binds_literal plain token
  rw [literal] at bound equal weak
  refine ⟨bound, equal, (weak .lessOrEqual (by decide)).2.mpr ?_⟩
  simp [Value.IsNumeric]

end Verdict
