import Mathlib.Data.List.TakeWhile
import Verdict.Token

/-! Where a token ends. What may not follow a token depends on its kind, and whatever else follows
it in a text, it is cut off in the same way as when it stands alone. For most tokens the next
character decides; a quote that opens no quoted run is closed by any later quote. -/

namespace Verdict

namespace Lexeme

variable {first : Char} {inner rest after token : List Char}

def Separated (rest : List Char) : Prop :=
  rest.head?.all (fun char => char == ' ' || char == ')') = true

theorem separated_nil : Separated [] :=
  rfl

theorem separated_append {mark : String} (marks : mark = " " ∨ mark = ")") (rest : String) :
    Separated (mark ++ rest).toList := by
  rw [String.toList_append]
  rcases marks with rfl | rfl <;> rfl

/-- The next character continues no word and completes no operator. -/
def Detached (rest : List Char) : Prop :=
  ∀ next, rest.head? = some next → isWordChar next = false ∧ next ≠ '='

theorem Separated.detached (separated : Separated rest) : Detached rest := by
  intro next head
  rw [Separated, head, Option.all_some, Bool.or_eq_true, beq_iff_eq, beq_iff_eq] at separated
  rcases separated with rfl | rfl <;> decide

theorem isWordChar_quote : isWordChar '\'' = false := by
  decide

theorem isWordChar_of_isDigit (digit : first.isDigit = true) : isWordChar first = true := by
  simp [isWordChar, Char.isAlphanum, digit]

theorem startsWord_iff : startsWord first rest = true ↔
    isWordChar first = true ∨
      first = '-' ∧ ∃ digit inner, digit.isDigit = true ∧ rest = digit :: inner := by
  cases rest <;> simp [startsWord]

theorem startsPair_iff : startsPair first rest = true ↔
    (first = '!' ∨ first = '<' ∨ first = '>') ∧ ∃ tail, rest = '=' :: tail := by
  simp [startsPair, List.head?_eq_some_iff, or_assoc]

theorem startsWord_quote (rest : List Char) : startsWord '\'' rest = false := by
  rw [startsWord, isWordChar_quote]
  rfl

theorem startsPair_quote (rest : List Char) : startsPair '\'' rest = false :=
  rfl

theorem isWordChar_of_startsWord_eq_false (noWord : startsWord first rest = false) :
    isWordChar first = false := by
  rw [← Bool.not_eq_true] at noWord ⊢
  exact fun word => noWord (startsWord_iff.mpr (.inl word))

theorem startsWord_of_sign (sign : first = '!' ∨ first = '<' ∨ first = '>') (rest : List Char) :
    startsWord first rest = false := by
  rcases sign with rfl | rfl | rfl <;> rfl

theorem cut_append {reads : Char → Bool} (inside : ∀ char ∈ inner, reads char = true)
    (stops : ∀ next, after.head? = some next → reads next = false) :
    (inner ++ after).takeWhile reads = inner ∧ (inner ++ after).dropWhile reads = after := by
  rw [List.takeWhile_append_of_pos inside, List.dropWhile_append_of_pos inside]
  cases after with
  | nil => exact ⟨List.append_nil inner, rfl⟩
  | cons next tail =>
    have stop := ne_true_of_eq_false (stops next rfl)
    rw [List.takeWhile_cons_of_neg stop, List.dropWhile_cons_of_neg stop, List.append_nil]
    exact ⟨rfl, rfl⟩

theorem cut_before {mark : Char} (plain : mark ∉ inner) (after : List Char) :
    (inner ++ mark :: after).takeWhile (· != mark) = inner ∧
      (inner ++ mark :: after).dropWhile (· != mark) = mark :: after := by
  refine cut_append ?_ (by simp)
  intro char member
  rw [bne_iff_ne]
  rintro rfl
  exact plain member

theorem quoted?_closed {body : List Char} (plain : '\'' ∉ body) (rest : List Char) :
    quoted? (body ++ '\'' :: rest) = some (body ++ ['\''], rest) := by
  obtain ⟨taken, dropped⟩ := cut_before plain rest
  rw [quoted?, dropped, taken]

theorem quoted?_of_notMem (plain : '\'' ∉ rest) : quoted? rest = none := by
  have dropped : rest.dropWhile (· != '\'') = [] := by
    rw [List.dropWhile_eq_nil_iff]
    intro char member
    rw [bne_iff_ne]
    rintro rfl
    exact plain member
  rw [quoted?, dropped]

theorem exists_body_of_mem (quote : '\'' ∈ rest) :
    ∃ body after, '\'' ∉ body ∧ rest = body ++ '\'' :: after := by
  induction rest with
  | nil => contradiction
  | cons first tail ih =>
    by_cases closing : first = '\''
    · exact ⟨[], tail, List.not_mem_nil, by rw [closing]; rfl⟩
    · have further := (List.mem_cons.mp quote).resolve_left (Ne.symm closing)
      obtain ⟨body, after, plain, rfl⟩ := ih further
      refine ⟨first :: body, after, ?_, rfl⟩
      rintro (_ | ⟨_, member⟩)
      · exact closing rfl
      · exact plain member

theorem split_quoted {body : List Char} (plain : '\'' ∉ body) (rest : List Char) :
    split '\'' (body ++ '\'' :: rest) = ('\'' :: (body ++ ['\'']), rest) := by
  simp only [split, if_true, beq_self_eq_true, quoted?_closed plain]

theorem split_unclosed (plain : '\'' ∉ rest) : split '\'' rest = (['\''], rest) := by
  simp [split, quoted?_of_notMem plain, startsWord_quote, startsPair_quote]

theorem split_word (word : startsWord first rest = true) :
    split first rest = (first :: rest.takeWhile isWordChar, rest.dropWhile isWordChar) := by
  have noQuote : (first == '\'') = false := by
    rw [beq_eq_false_iff_ne]
    rintro rfl
    rw [startsWord_quote] at word
    cases word
  simp [split, noQuote, word]

theorem split_pair (pair : startsPair first rest = true) :
    split first rest = ([first, '='], rest.drop 1) := by
  obtain ⟨sign, tail, rfl⟩ := startsPair_iff.mp pair
  have noQuote : (first == '\'') = false := by
    rcases sign with rfl | rfl | rfl <;> rfl
  simp [split, noQuote, startsWord_of_sign sign, pair]

theorem split_single (other : first ≠ '\'') (noWord : startsWord first rest = false)
    (noPair : startsPair first rest = false) : split first rest = ([first], rest) := by
  have noQuote : (first == '\'') = false := by simpa using other
  simp [split, noQuote, noWord, noPair]

theorem toNat_between {low high : UInt32}
    (inside : (decide (first.val ≥ low) && decide (first.val ≤ high)) = true) :
    low.toNat ≤ first.toNat ∧ first.toNat ≤ high.toNat := by
  obtain ⟨above, below⟩ := Bool.and_eq_true_iff.mp inside
  exact ⟨of_decide_eq_true above, of_decide_eq_true below⟩

theorem isBlank_of_isWordChar (word : isWordChar first = true) : Text.isBlank first = false := by
  have printable : 0x21 ≤ first.toNat ∧ first.toNat < 0x7F := by
    have spelled : (((first.isUpper || first.isLower) || first.isDigit) || first == '_' ||
        first == '.') = true := word
    simp only [Bool.or_eq_true, beq_iff_eq] at spelled
    rcases spelled with (((upper | lower) | digit) | rfl) | rfl
    · have bounds : 65 ≤ first.toNat ∧ first.toNat ≤ 90 := of_decide_eq_true upper
      omega
    · have bounds : 97 ≤ first.toNat ∧ first.toNat ≤ 122 := toNat_between lower
      omega
    · have bounds : 48 ≤ first.toNat ∧ first.toNat ≤ 57 := toNat_between digit
      omega
    · decide
    · decide
  rw [Text.isBlank, ← Bool.not_eq_true, Text.inRanges_iff]
  rintro ⟨range, member, low, high⟩
  simp only [Text.blankRanges, List.mem_cons, List.not_mem_nil, or_false] at member
  rcases member with rfl | rfl | rfl | rfl | rfl | rfl | rfl | rfl | rfl | rfl <;>
    simp only at low high <;> omega

theorem startsWord_takeWhile (starts : startsWord first rest = true) :
    startsWord first (rest.takeWhile isWordChar) = true := by
  rw [startsWord_iff] at starts ⊢
  rcases starts with word | ⟨minus, digit, inner, isDigit, rfl⟩
  · exact .inl word
  · refine .inr ⟨minus, digit, inner.takeWhile isWordChar, isDigit, ?_⟩
    rw [List.takeWhile_cons_of_pos (isWordChar_of_isDigit isDigit)]

inductive Shape : List Char → Prop where
  | quoted (body : List Char) (plain : '\'' ∉ body) : Shape ('\'' :: (body ++ ['\'']))
  | unclosed : Shape ['\'']
  | word (first : Char) (inner : List Char) (starts : startsWord first inner = true)
      (inside : ∀ char ∈ inner, isWordChar char = true) : Shape (first :: inner)
  | pair (first : Char) (starts : startsPair first ['='] = true) : Shape [first, '=']
  | single (first : Char) (other : first ≠ '\'') (noWord : isWordChar first = false)
      (visible : Text.isBlank first = false) : Shape [first]

theorem Shape.spelled (first : Char) (inner : List Char) (starts : startsWord first inner = true)
    (inside : inner.all isWordChar = true) : Shape (first :: inner) :=
  .word first inner starts (List.all_eq_true.mp inside)

inductive Kind where
  | quoted
  | quote
  | word
  | signed
  | pair
  | symbol

def Kind.Spells : Kind → List Char → Prop
  | .quoted, token => ∃ body, '\'' ∉ body ∧ token = '\'' :: (body ++ ['\''])
  | .quote, token => token = ['\'']
  | .word, token => token ≠ [] ∧ ∀ char ∈ token, isWordChar char = true
  | .signed, token => ∃ digit inner, digit.isDigit = true ∧
      (∀ char ∈ inner, isWordChar char = true) ∧ token = '-' :: digit :: inner
  | .pair, token => token = ['!', '='] ∨ token = ['<', '='] ∨ token = ['>', '=']
  | .symbol, token => ∃ char, char ≠ '\'' ∧ isWordChar char = false ∧
      Text.isBlank char = false ∧ token = [char]

/-- What may not follow a token: more of its word, the digit of a signed number, the second half of
an operator, or a quote that would close it. -/
structure Ended (token after : List Char) : Prop where
  word : Kind.word.Spells token ∨ Kind.signed.Spells token →
    ∀ next, after.head? = some next → isWordChar next = false
  minus : token = ['-'] → ∀ next, after.head? = some next → next.isDigit = false
  operator : token = ['!'] ∨ token = ['<'] ∨ token = ['>'] → after.head? ≠ some '='
  quote : token = ['\''] → '\'' ∉ after

theorem spells_of_startsWord (starts : startsWord first inner = true)
    (inside : ∀ char ∈ inner, isWordChar char = true) :
    Kind.word.Spells (first :: inner) ∨ Kind.signed.Spells (first :: inner) := by
  rcases startsWord_iff.mp starts with word | ⟨rfl, digit, tail, isDigit, rfl⟩
  · exact .inl ⟨List.cons_ne_nil _ _, List.forall_mem_cons.mpr ⟨word, inside⟩⟩
  · exact .inr ⟨digit, tail, isDigit, (List.forall_mem_cons.mp inside).2, rfl⟩

namespace Ended

theorem of_quoted (body after : List Char) : Ended ('\'' :: (body ++ ['\''])) after where
  word := by simp [Kind.Spells, isWordChar_quote]
  minus := by simp
  operator := by simp
  quote := by simp

theorem of_unclosed (plain : '\'' ∉ after) : Ended ['\''] after where
  word := by simp [Kind.Spells, isWordChar_quote]
  minus := by simp
  operator := by simp
  quote _ := plain

theorem of_word (starts : startsWord first rest = true) :
    Ended (first :: rest.takeWhile isWordChar) (rest.dropWhile isWordChar) := by
  -- What starts a word is neither a lone sign nor a quote.
  have notAlone {symbol : Char} (single : startsWord symbol [] = false) :
      first :: rest.takeWhile isWordChar ≠ [symbol] := by
    rintro same
    have whole := startsWord_takeWhile starts
    obtain ⟨rfl, empty⟩ := List.cons.inj same
    rw [empty, single] at whole
    cases whole
  have stops := List.head?_dropWhile_not isWordChar rest
  exact {
    word := by
      intro _ next head
      rwa [head] at stops
    minus := fun alone => absurd alone (notAlone (by decide))
    operator := by
      rintro (alone | alone | alone) <;> exact absurd alone (notAlone (by decide))
    quote := fun alone => absurd alone (notAlone (by decide)) }

theorem of_pair (noWord : isWordChar first = false) : Ended [first, '='] after where
  word := by
    rintro (⟨-, word⟩ | ⟨digit, inner, isDigit, -, same⟩)
    · rw [List.forall_mem_cons, noWord] at word
      cases word.1
    · obtain ⟨-, rfl, -⟩ : first = '-' ∧ '=' = digit ∧ [] = inner := by simpa using same
      cases isDigit
  minus := by simp
  operator := by simp
  quote := by simp

theorem of_single (other : first ≠ '\'') (noWord : startsWord first after = false)
    (noPair : startsPair first after = false) : Ended [first] after where
  word := by
    rintro (⟨-, word⟩ | ⟨digit, inner, -, -, same⟩)
    · rw [List.forall_mem_singleton, isWordChar_of_startsWord_eq_false noWord] at word
      cases word
    · simp at same
  minus alone next head := by
    obtain ⟨tail, rfl⟩ := List.head?_eq_some_iff.mp head
    rw [← Bool.not_eq_true, startsWord_iff] at noWord
    rw [← Bool.not_eq_true]
    exact fun isDigit => noWord (.inr ⟨List.singleton_inj.mp alone, next, tail, isDigit, rfl⟩)
  operator alone head := by
    rw [← Bool.not_eq_true, startsPair_iff] at noPair
    simp only [List.singleton_inj] at alone
    exact noPair ⟨alone, List.head?_eq_some_iff.mp head⟩
  quote alone := absurd (List.singleton_inj.mp alone) other

end Ended

theorem Detached.ended (detached : Detached after) (closed : token = ['\''] → '\'' ∉ after) :
    Ended token after where
  word _ next head := (detached next head).1
  minus _ next head := by
    rw [← Bool.not_eq_true]
    intro digit
    exact Bool.false_ne_true ((detached next head).1.symm.trans (isWordChar_of_isDigit digit))
  operator _ head := (detached '=' head).2 rfl
  quote := closed

theorem cut_split (visible : Text.isBlank first = false) (rest : List Char) :
    Shape (split first rest).1 ∧ Ended (split first rest).1 (split first rest).2 := by
  by_cases quote : first = '\''
  · subst quote
    by_cases closed : '\'' ∈ rest
    · obtain ⟨body, after, plain, rfl⟩ := exists_body_of_mem closed
      rw [split_quoted plain]
      exact ⟨.quoted body plain, .of_quoted body after⟩
    · rw [split_unclosed closed]
      exact ⟨.unclosed, .of_unclosed closed⟩
  · cases starts : startsWord first rest with
    | true =>
      rw [split_word starts]
      exact ⟨.word first _ (startsWord_takeWhile starts) (List.all_eq_true.mp List.all_takeWhile),
        .of_word starts⟩
    | false =>
      have noWord := isWordChar_of_startsWord_eq_false starts
      cases pair : startsPair first rest with
      | true =>
        rw [split_pair pair]
        have starts := startsPair_iff.mpr ⟨(startsPair_iff.mp pair).1, [], rfl⟩
        exact ⟨.pair first starts, .of_pair noWord⟩
      | false =>
        rw [split_single quote starts pair]
        exact ⟨.single first quote noWord visible, .of_single quote starts pair⟩

namespace Shape

theorem visible (shape : Shape (first :: inner)) : Text.isBlank first = false := by
  cases shape with
  | quoted body plain => decide
  | unclosed => decide
  | word _ _ starts inside =>
    rcases startsWord_iff.mp starts with word | ⟨rfl, -⟩
    · exact isBlank_of_isWordChar word
    · decide
  | pair _ starts =>
    rcases (startsPair_iff.mp starts).1 with rfl | rfl | rfl <;> decide
  | single _ other noWord visible => exact visible

theorem split_append (shape : Shape (first :: inner)) (ended : Ended (first :: inner) after) :
    split first (inner ++ after) = (first :: inner, after) := by
  cases shape with
  | quoted body plain =>
    rw [List.append_assoc]
    exact split_quoted plain after
  | unclosed => exact split_unclosed (ended.quote rfl)
  | word _ _ starts inside =>
    have extended : startsWord first (inner ++ after) = true := by
      rw [startsWord_iff] at starts ⊢
      rcases starts with word | ⟨minus, digit, tail, isDigit, rfl⟩
      · exact .inl word
      · exact .inr ⟨minus, digit, tail ++ after, isDigit, rfl⟩
    have stops := ended.word (spells_of_startsWord starts inside)
    obtain ⟨taken, dropped⟩ := cut_append inside stops
    rw [split_word extended, taken, dropped]
  | pair _ starts =>
    exact split_pair (startsPair_iff.mpr ⟨(startsPair_iff.mp starts).1, after, rfl⟩)
  | single _ other noWord visible =>
    refine split_single other ?_ ?_
    · rw [List.nil_append, ← Bool.not_eq_true, startsWord_iff, noWord]
      rintro (word | ⟨rfl, digit, tail, isDigit, rfl⟩)
      · cases word
      · exact Bool.false_ne_true ((ended.minus rfl digit rfl).symm.trans isDigit)
    · rw [List.nil_append, ← Bool.not_eq_true, startsPair_iff]
      rintro ⟨sign, tail, rfl⟩
      exact ended.operator (by simpa using sign) rfl

end Shape

theorem ne_nil_of_shape (shape : Shape token) : token ≠ [] := by
  cases shape <;> exact List.cons_ne_nil _ _

end Lexeme

open Lexeme

theorem lexemes_nil : lexemes [] = [] := by
  rw [lexemes]

theorem lexemes_space (rest : List Char) : lexemes (' ' :: rest) = lexemes rest := by
  rw [lexemes, if_pos (by decide)]

theorem lexemes_append {token after : List Char} (shape : Shape token) (ended : Ended token after) :
    lexemes (token ++ after) = token :: lexemes after := by
  obtain ⟨first, inner, rfl⟩ := List.exists_cons_of_ne_nil (ne_nil_of_shape shape)
  rw [List.cons_append, lexemes, if_neg (by simp [shape.visible]), shape.split_append ended]

theorem lexemes_symbol {symbol : Char} (parenthesis : symbol = '(' ∨ symbol = ')')
    (rest : List Char) : lexemes (symbol :: rest) = [symbol] :: lexemes rest := by
  have noWord : startsWord symbol rest = false := by
    rcases parenthesis with rfl | rfl <;> rfl
  have noPair : startsPair symbol rest = false := by
    rcases parenthesis with rfl | rfl <;> rfl
  have visible : ¬ Text.isBlank symbol = true := by
    rcases parenthesis with rfl | rfl <;> decide
  have other : symbol ≠ '\'' := by
    rcases parenthesis with rfl | rfl <;> decide
  rw [lexemes, if_neg visible, split_single other noWord noPair]

theorem shape_of_mem_lexemes {text token : List Char} (member : token ∈ lexemes text) :
    Shape token := by
  fun_induction lexemes text with
  | case1 => contradiction
  | case2 first rest blank ih => exact ih member
  | case3 first rest visible ih =>
    rcases List.mem_cons.mp member with rfl | later
    · exact (cut_split (by simpa using visible) rest).1
    · exact ih later

def hasQuote (text : String) : Bool :=
  text.toList.contains '\''

theorem hasQuote_append (left right : String) :
    hasQuote (left ++ right) = (hasQuote left || hasQuote right) := by
  simp [hasQuote]

theorem hasQuote_eq_false_iff {text : String} : hasQuote text = false ↔ '\'' ∉ text.toList := by
  simp [hasQuote]

theorem tokenize_empty : tokenize "" = [] := by
  simp [tokenize, lexemes_nil]

theorem tokenize_space (rest : String) : tokenize (" " ++ rest) = tokenize rest := by
  have shape : (" " ++ rest).toList = ' ' :: rest.toList := String.toList_append
  rw [tokenize, shape, lexemes_space]
  rfl

theorem tokenize_parenthesis {mark : String} (parenthesis : mark = "(" ∨ mark = ")")
    (rest : String) : tokenize (mark ++ rest) = mark :: tokenize rest := by
  obtain ⟨symbol, single, known⟩ : ∃ symbol, mark.toList = [symbol] ∧
      (symbol = '(' ∨ symbol = ')') := by
    rcases parenthesis with rfl | rfl
    · exact ⟨'(', rfl, .inl rfl⟩
    · exact ⟨')', rfl, .inr rfl⟩
  rw [tokenize, String.toList_append, single, List.singleton_append, lexemes_symbol known,
    List.map_cons, ← single, String.ofList_toList]
  rfl

theorem tokenize_append {token rest : String} (shape : Shape token.toList)
    (separated : Separated rest.toList) (unclosed : token = "'" → hasQuote rest = false) :
    tokenize (token ++ rest) = token :: tokenize rest := by
  have alone : token.toList = ['\''] → '\'' ∉ rest.toList := by
    intro quote
    exact hasQuote_eq_false_iff.mp (unclosed (String.toList_inj.mp quote))
  rw [tokenize, String.toList_append, lexemes_append shape (separated.detached.ended alone),
    List.map_cons, String.ofList_toList]
  rfl

theorem shape_of_mem_tokenize {text token : String} (member : token ∈ tokenize text) :
    Shape token.toList := by
  obtain ⟨lexeme, present, rfl⟩ := List.mem_map.mp member
  rw [String.toList_ofList]
  exact shape_of_mem_lexemes present

end Verdict
