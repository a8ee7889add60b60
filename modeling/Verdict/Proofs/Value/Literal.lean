import Verdict.Expr.Basic
import Verdict.Proofs.Decimal.ReadBack
import Verdict.Proofs.Text.Folding
import Verdict.Proofs.Token.Boundary

/-! Canonical literals. The text of a literal is one token that denotes it again, unless it is a
double that is not finite or a string with a quote; those are always read as something else. -/

namespace Verdict

open Lexeme

namespace Literal

inductive Numeric : List Char → Prop where
  | plain (digit : Char) (rest : List Char) (isDigit : digit.isDigit = true)
      (inside : ∀ char ∈ rest, isWordChar char = true) : Numeric (digit :: rest)
  | negative (digit : Char) (rest : List Char) (isDigit : digit.isDigit = true)
      (inside : ∀ char ∈ rest, isWordChar char = true) : Numeric ('-' :: digit :: rest)

theorem ne_of_isDigit {char other : Char} (digit : char.isDigit = true)
    (different : other.isDigit = false) : char ≠ other := by
  rintro rfl
  exact Bool.false_ne_true (different.symm.trans digit)

theorem sameFolded_of_head {token word : String} {first letter : Char} {rest : List Char}
    (shape : token.toList = first :: rest) (head : (Text.folded word).head? = some letter)
    (differ : first.toLower ≠ letter) : Text.sameFolded token word = false := by
  rw [← Bool.not_eq_true, Text.sameFolded_iff]
  intro same
  rw [← same, Text.folded, shape] at head
  exact differ (Option.some.inj head)

namespace Numeric

variable {token : String}

theorem looksNumeric_eq {text : List Char} (numeric : Numeric text) : looksNumeric text = true := by
  cases numeric with
  | plain digit rest isDigit inside =>
    unfold looksNumeric
    split
    · rename_i shape
      obtain ⟨rfl, -⟩ := List.cons.inj shape
      contradiction
    · exact isDigit
  | negative digit rest isDigit inside => exact isDigit

theorem unquoted?_eq {text : List Char} (numeric : Numeric text) : unquoted? text = none := by
  unfold unquoted?
  split
  · cases numeric with
    | plain _ _ isDigit inside => contradiction
  · rfl

theorem sameFolded_eq {word : String} (letter : Char) (numeric : Numeric token.toList)
    (head : (Text.folded word).head? = some letter) (noDigit : letter.isDigit = false)
    (noMinus : letter ≠ '-') : Text.sameFolded token word = false := by
  generalize shape : token.toList = text at numeric
  cases numeric with
  | plain digit rest isDigit inside =>
    refine sameFolded_of_head shape head ?_
    rw [Text.toLower_of_isDigit isDigit]
    exact ne_of_isDigit isDigit noDigit
  | negative digit rest isDigit inside =>
    exact sameFolded_of_head shape head noMinus.symm

theorem shape {text : List Char} (numeric : Numeric text) : Shape text := by
  cases numeric with
  | plain digit rest isDigit inside =>
    exact .word digit rest (startsWord_iff.mpr (.inl (isWordChar_of_isDigit isDigit))) inside
  | negative digit rest isDigit inside =>
    have starts := startsWord_iff.mpr (.inr ⟨rfl, digit, rest, isDigit, rfl⟩)
    exact .word '-' (digit :: rest) starts
      (List.forall_mem_cons.mpr ⟨isWordChar_of_isDigit isDigit, inside⟩)

theorem ofToken_eq (numeric : Numeric token.toList) :
    Value.ofToken token = (number? token.toList).getD (.string token) := by
  have notTrue : Text.sameFolded token "true" = false :=
    sameFolded_eq 't' numeric rfl (by decide) (by decide)
  have notFalse : Text.sameFolded token "false" = false :=
    sameFolded_eq 'f' numeric rfl (by decide) (by decide)
  simp [Value.ofToken, notTrue, notFalse, numeric.unquoted?_eq, numeric.looksNumeric_eq]

end Numeric

theorem integer?_plain {run : List Char} (given : run ≠ [])
    (digits : ∀ char ∈ run, char.isDigit = true) :
    Decimal.Numeral.integer? run = some (Decimal.ofDigits run : Int) := by
  have unsigned : Decimal.Numeral.takeSign run = (false, run) := by
    obtain ⟨first, rest, rfl⟩ := List.exists_cons_of_ne_nil given
    exact Decimal.Numeral.takeSign_digit (digits first List.mem_cons_self) rest
  simp [Decimal.Numeral.integer?, unsigned, List.all_eq_true.mpr digits, given]

theorem integer?_negative {run : List Char} (given : run ≠ [])
    (digits : ∀ char ∈ run, char.isDigit = true) :
    Decimal.Numeral.integer? ('-' :: run) = some (-(Decimal.ofDigits run : Int)) := by
  simp [Decimal.Numeral.integer?, Decimal.Numeral.takeSign, List.all_eq_true.mpr digits, given]

theorem toList_integerText (number : Int64) :
    (Value.integerText number).toList =
      if number.toInt < 0 then
        '-' :: Decimal.digits number.toInt.natAbs
      else
        Decimal.digits number.toInt.natAbs := by
  unfold Value.integerText
  simp only
  split
  · simp
  · exact String.toList_ofList

theorem integer?_integerText (number : Int64) :
    Decimal.Numeral.integer? (Value.integerText number).toList = some number.toInt := by
  have given := Decimal.digits_ne_nil number.toInt.natAbs
  have digits : ∀ char ∈ Decimal.digits number.toInt.natAbs, char.isDigit = true :=
    fun _ member => Decimal.isDigit_of_mem_digits member
  rw [toList_integerText]
  split
  · rw [integer?_negative given digits, Decimal.ofDigits_digits]
    congr 1
    omega
  · rw [integer?_plain given digits, Decimal.ofDigits_digits]
    congr 1
    omega

theorem isInteger_iff {number : Int} :
    Value.isInteger number = true ↔ -2 ^ 63 ≤ number ∧ number < 2 ^ 63 := by
  have least : Int64.minValue.toInt = -2 ^ 63 := by decide
  have greatest : Int64.maxValue.toInt = 2 ^ 63 - 1 := by decide
  rw [Value.isInteger, Bool.and_eq_true, decide_eq_true_eq, decide_eq_true_eq, least, greatest,
    Int.le_sub_one_iff]

theorem isInteger_toInt (number : Int64) : Value.isInteger number.toInt = true :=
  isInteger_iff.mpr ⟨number.le_toInt, number.toInt_lt⟩

theorem ofInt?_toInt (number : Int64) : Value.ofInt? number.toInt = some (.integer number) := by
  rw [Value.ofInt?, if_pos (isInteger_toInt number), Int64.ofInt_toInt]

theorem numeric_integerText (number : Int64) : Numeric (Value.integerText number).toList := by
  have digits : ∀ char ∈ Decimal.digits number.toInt.natAbs, char.isDigit = true :=
    fun _ member => Decimal.isDigit_of_mem_digits member
  obtain ⟨first, rest, shape⟩ :=
    List.exists_cons_of_ne_nil (Decimal.digits_ne_nil number.toInt.natAbs)
  rw [shape] at digits
  have firstDigit := digits first List.mem_cons_self
  have inside : ∀ char ∈ rest, isWordChar char = true := by
    intro char member
    exact isWordChar_of_isDigit (digits char (List.mem_cons_of_mem first member))
  rw [toList_integerText, shape]
  split
  · exact .negative first rest firstDigit inside
  · exact .plain first rest firstDigit inside

theorem ofToken_integerText (number : Int64) :
    Value.ofToken (Value.integerText number) = .integer number := by
  have noPoint : (Value.integerText number).toList.contains '.' = false := by
    rw [List.contains_eq_mem, decide_eq_false_iff_not, toList_integerText]
    intro point
    have digit : '.' ∈ Decimal.digits number.toInt.natAbs := by
      split at point
      · exact (List.mem_cons.mp point).resolve_left (by decide)
      · exact point
    exact absurd (Decimal.isDigit_of_mem_digits digit) (by decide)
  rw [(numeric_integerText number).ofToken_eq, number?, noPoint]
  simp [integer?_integerText, ofInt?_toInt]

theorem numeric_floatText {number : Float} (finite : number.isFinite = true) :
    Numeric (Decimal.floatText number).toList := by
  obtain ⟨sign, text, whole, fraction, shape, minus, pointed, -⟩ :=
    Decimal.floatText_reads_back finite
  obtain ⟨first, rest, rfl⟩ := List.exists_cons_of_ne_nil pointed.whole_ne_nil
  have firstDigit := pointed.whole_digits first List.mem_cons_self
  have inside : ∀ char ∈ rest ++ '.' :: fraction, isWordChar char = true := by
    intro char member
    rcases List.mem_append.mp member with digit | digit
    · exact isWordChar_of_isDigit (pointed.whole_digits char (List.mem_cons_of_mem first digit))
    · rcases List.mem_cons.mp digit with rfl | digit
      · decide
      · exact isWordChar_of_isDigit (pointed.fraction_digits char digit)
  rw [shape, pointed.text_eq]
  rcases minus with rfl | rfl
  · exact .plain first _ firstDigit inside
  · exact .negative first _ firstDigit inside

theorem ofToken_floatText {number : Float} (finite : number.isFinite = true) :
    Value.ofToken (Decimal.floatText number) = .float number := by
  obtain ⟨sign, text, whole, fraction, shape, -, pointed, read⟩ :=
    Decimal.floatText_reads_back finite
  have point : (Decimal.floatText number).toList.contains '.' = true := by
    rw [shape, pointed.text_eq]
    simp
  rw [(numeric_floatText finite).ofToken_eq, number?, if_pos point, read]
  rfl

theorem toList_quoted (text : String) :
    ("'" ++ text ++ "'").toList = '\'' :: (text.toList ++ ['\'']) := by
  simp

theorem unquoted?_eq_some_iff {text inner : List Char} :
    unquoted? text = some inner ↔ text = '\'' :: (inner ++ ['\'']) := by
  constructor
  · intro found
    unfold unquoted? at found
    split at found
    · obtain ⟨last, inside⟩ := Option.ite_none_right_eq_some.mp found
      obtain ⟨front, rfl⟩ := List.getLast?_eq_some_iff.mp last
      rw [← Option.some.inj inside, List.dropLast_concat]
    · contradiction
  · rintro rfl
    simp [unquoted?]

theorem ofToken_quoted (text : String) : Value.ofToken ("'" ++ text ++ "'") = .string text := by
  have shape := toList_quoted text
  have notTrue : Text.sameFolded ("'" ++ text ++ "'") "true" = false :=
    sameFolded_of_head shape rfl (by decide)
  have notFalse : Text.sameFolded ("'" ++ text ++ "'") "false" = false :=
    sameFolded_of_head shape rfl (by decide)
  have inner : unquoted? ("'" ++ text ++ "'").toList = some text.toList :=
    unquoted?_eq_some_iff.mpr shape
  simp only [Value.ofToken, notTrue, notFalse, inner, Bool.false_eq_true, if_false,
    String.ofList_toList]

end Literal

def Value.Restorable : Value → Prop
  | .float number => number.isFinite = true
  | .string text => hasQuote text = false
  | _ => True

open Literal

namespace Value

theorem Restorable.ofToken_eq {value : Value} (restorable : value.Restorable) :
    Value.ofToken (Atom.literalText value) = value := by
  cases value with
  | boolean truth => cases truth <;> rfl
  | integer number => exact ofToken_integerText number
  | float number => exact ofToken_floatText restorable
  | string text => exact ofToken_quoted text

theorem shape_boolean (truth : Bool) : Shape (Atom.literalText (.boolean truth)).toList := by
  cases truth with
  | false => exact .spelled 'f' ['a', 'l', 's', 'e'] (by decide) (by decide)
  | true => exact .spelled 't' ['r', 'u', 'e'] (by decide) (by decide)

theorem Restorable.shape {value : Value} (restorable : value.Restorable) :
    Shape (Atom.literalText value).toList := by
  cases value with
  | boolean truth => exact shape_boolean truth
  | integer number => exact (numeric_integerText number).shape
  | float number => exact (numeric_floatText restorable).shape
  | string text =>
    change Shape ("'" ++ text ++ "'").toList
    rw [toList_quoted]
    exact .quoted text.toList (hasQuote_eq_false_iff.mp restorable)

theorem floatText_of_not_isFinite {number : Float} (infinite : ¬ number.isFinite = true) :
    Decimal.floatText number = "NaN" ∨ Decimal.floatText number = "inf" ∨
      Decimal.floatText number = "-inf" := by
  unfold Decimal.floatText
  change ¬ number.toModel.unpack.isFinite = true at infinite
  cases shape : number.toModel.unpack with
  | zero sign =>
    rw [shape] at infinite
    exact absurd rfl infinite
  | finite sign mantissa exponent positive =>
    rw [shape] at infinite
    exact absurd rfl infinite
  | notANumber =>
    have nan : number.isNaN = true := by
      change number.toModel.unpack.isNaN = true
      rw [shape]
      rfl
    rw [if_pos nan]
    exact .inl rfl
  | infinity sign =>
    have notNaN : number.isNaN = false := by
      change number.toModel.unpack.isNaN = false
      rw [shape]
      rfl
    have magnitude : number.abs.isInf = true := by
      change (Float.Model.pack number.toModel.unpack.abs).unpack.isInf = true
      rw [shape]
      change (Float.Model.pack (.infinity .positive)).unpack.isInf = true
      decide
    simp only [notNaN, magnitude, Bool.false_eq_true, if_false, if_true]
    split
    · exact .inr (.inr rfl)
    · exact .inr (.inl rfl)

theorem misread_string {text : String} (quote : hasQuote text = true) (rest : String) :
    ∃ token tokens, tokenize ("'" ++ text ++ "'" ++ rest) = token :: tokens ∧
      (Value.ofToken token == .string text) = false := by
  have member : '\'' ∈ text.toList := by simpa [hasQuote] using quote
  obtain ⟨body, after, plain, split⟩ := exists_body_of_mem member
  have whole : ("'" ++ text ++ "'" ++ rest).toList =
      '\'' :: (body ++ '\'' :: (after ++ '\'' :: rest.toList)) := by
    simp [split]
  have cut : String.ofList ('\'' :: (body ++ ['\''])) = "'" ++ String.ofList body ++ "'" := by
    rw [← String.toList_inj, toList_quoted, String.toList_ofList, String.toList_ofList]
  refine ⟨"'" ++ String.ofList body ++ "'", tokenize (String.ofList (after ++ '\'' :: rest.toList)),
    ?_, ?_⟩
  · rw [tokenize, whole, lexemes, if_neg (by decide), split_quoted plain, List.map_cons, cut,
      tokenize, String.toList_ofList]
  · rw [ofToken_quoted]
    change (String.ofList body == text) = false
    rw [beq_eq_false_iff_ne]
    rintro rfl
    rw [String.toList_ofList] at member
    exact plain member

theorem misread_float {number : Float} (infinite : ¬ number.isFinite = true) {rest : String}
    (separated : Separated rest.toList) :
    ∃ token tokens, tokenize (Decimal.floatText number ++ rest) = token :: tokens ∧
      (Value.ofToken token == .float number) = false := by
  rcases floatText_of_not_isFinite infinite with text | text | text
  · refine ⟨"NaN", tokenize rest, ?_, rfl⟩
    rw [text]
    exact tokenize_append (.spelled 'N' ['a', 'N'] (by decide) (by decide)) separated (by simp)
  · refine ⟨"inf", tokenize rest, ?_, rfl⟩
    rw [text]
    exact tokenize_append (.spelled 'i' ['n', 'f'] (by decide) (by decide)) separated (by simp)
  · have whole : ("-inf" ++ rest).toList = '-' :: 'i' :: 'n' :: 'f' :: rest.toList :=
      String.toList_append
    refine ⟨"-", tokenize (String.ofList ('i' :: 'n' :: 'f' :: rest.toList)), ?_, rfl⟩
    rw [text, tokenize, whole, lexemes, if_neg (by decide),
      split_single (by decide) (by rfl) (by rfl), List.map_cons, tokenize, String.toList_ofList]

theorem exists_misread {value : Value} (broken : ¬ value.Restorable) {rest : String}
    (separated : Separated rest.toList) :
    ∃ token tokens, tokenize (Atom.literalText value ++ rest) = token :: tokens ∧
      (Value.ofToken token == value) = false := by
  cases value with
  | boolean truth => exact absurd trivial broken
  | integer number => exact absurd trivial broken
  | float number => exact misread_float broken separated
  | string text => exact misread_string (by simpa [Restorable] using broken) rest

end Value

end Verdict
