import Verdict.Text.Blank

/-!
Tokens of a rule expression. A token carries no class: whether it is a keyword, a name, an
operator or a literal is decided later, from its text alone.

The main facts are `Lexeme.split_append` (a token and what follows it are the text) and
`lexemes` itself, which ends because every token takes at least one character.
-/

namespace Verdict

namespace Lexeme

def isWordChar (char : Char) : Bool :=
  char.isAlphanum || char == '_' || char == '.'

def startsWord (first : Char) (rest : List Char) : Bool :=
  isWordChar first || (first == '-' && rest.head?.any Char.isDigit)

def startsPair (first : Char) (rest : List Char) : Bool :=
  (first == '!' || first == '<' || first == '>') && rest.head? == some '='

/-- The rest of a quoted run with its closing quote, and the text after it; none when the quote is
never closed. -/
def quoted? (rest : List Char) : Option (List Char × List Char) :=
  match rest.dropWhile (· != '\'') with
  | [] => none
  | quote :: after => some (rest.takeWhile (· != '\'') ++ [quote], after)

def split (first : Char) (rest : List Char) : List Char × List Char :=
  match if first == '\'' then quoted? rest else none with
  | some (inner, after) => (first :: inner, after)
  | none =>
    if startsWord first rest then
      (first :: rest.takeWhile isWordChar, rest.dropWhile isWordChar)
    else if startsPair first rest then
      (first :: rest.take 1, rest.drop 1)
    else
      ([first], rest)

theorem quoted?_append {rest inner after : List Char} (found : quoted? rest = some (inner, after)) :
    inner ++ after = rest := by
  unfold quoted? at found
  split at found
  · simp at found
  · rename_i quote tail shape
    obtain ⟨rfl, rfl⟩ := Prod.mk.inj (Option.some.inj found)
    rw [List.append_assoc, List.singleton_append, ← shape, List.takeWhile_append_dropWhile]

theorem split_append (first : Char) (rest : List Char) :
    (split first rest).1 ++ (split first rest).2 = first :: rest := by
  unfold split
  split
  · rename_i inner after found
    split at found
    · simp [quoted?_append found]
    · simp at found
  · split
    · simp
    · split
      · exact congrArg (first :: ·) (List.take_append_drop 1 rest)
      · rfl

theorem split_token_ne_nil (first : Char) (rest : List Char) : (split first rest).1 ≠ [] := by
  unfold split
  split
  · simp
  · split
    · simp
    · split <;> simp

theorem split_rest_length_le (first : Char) (rest : List Char) :
    (split first rest).2.length ≤ rest.length := by
  have whole := congrArg List.length (split_append first rest)
  have positive := List.length_pos_iff.mpr (split_token_ne_nil first rest)
  simp only [List.length_append, List.length_cons] at whole
  omega

end Lexeme

def lexemes : List Char → List (List Char)
  | [] => []
  | first :: rest =>
    if Text.isBlank first then
      lexemes rest
    else
      (Lexeme.split first rest).1 :: lexemes (Lexeme.split first rest).2
termination_by text => text.length
decreasing_by
  · simp
  · have := Lexeme.split_rest_length_le first rest
    simp only [List.length_cons]
    omega

def tokenize (text : String) : List String :=
  (lexemes text.toList).map String.ofList

end Verdict
