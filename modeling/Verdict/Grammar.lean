import Verdict.Expr.Basic
import Verdict.Fallible
import Verdict.Token

/-!
The grammar of rule expressions, from loosest to tightest: OR, AND, NOT, then groups in parentheses
and atoms. Operators of one level associate to the left.

One descent serves every use of a rule text. A `Reading` says what the parts of an expression are
read as; `expression` walks over the tokens in the same way for every reading and never looks at the
values that it combines.
-/

namespace Verdict

def maxNesting : Nat := 256

/-- What atoms, negations, conjunctions and disjunctions are read as. Negation cannot fail. -/
structure Reading (α : Type) where
  atom : Atom → Except RuleError α
  negate : α → α
  both : α → α → Except RuleError α
  either : α → α → Except RuleError α

/-- A step over tokens that takes at least one of them whenever it succeeds. -/
structure Parser (α : Type) where
  run : List String → Except RuleError (α × List String)
  shortens : ∀ {tokens value rest}, run tokens = .ok (value, rest) → rest.length < tokens.length

namespace Grammar

variable {α : Type}

def takeWord (word : String) : List String → Option (List String)
  | [] => none
  | token :: rest => if Text.sameFolded token word then some rest else none

theorem takeWord_shortens {word : String} {tokens rest : List String}
    (found : takeWord word tokens = some rest) : rest.length < tokens.length := by
  cases tokens with
  | nil => simp [takeWord] at found
  | cons token tail =>
    simp only [takeWord] at found
    split at found
    · rw [← Option.some.inj found]
      simp
    · simp at found

def requireWord (word : String) (tokens : List String) : Except RuleError (List String) :=
  match takeWord word tokens with
  | some rest => .ok rest
  | none => .error (.expectedToken word tokens.head?)

/-- An atom is a bare variable if the expression ends after it, or goes on with AND, OR or a closing
parenthesis. -/
def endsAtom : List String → Bool
  | [] => true
  | token :: _ =>
    token == ")" || Text.sameFolded token "AND" || Text.sameFolded token "OR"

def comparison (name : String) : List String → Except RuleError (Atom × List String)
  | [] => .error .unexpectedEnd
  | symbol :: rest =>
    match Operator.ofToken? symbol with
    | none => .error (.unknownOperator symbol)
    | some operator =>
      match rest with
      | [] => .error .unexpectedEnd
      | literal :: rest => .ok (.compare name operator (Value.ofToken literal), rest)

def atom : List String → Except RuleError (Atom × List String)
  | [] => .error .unexpectedEnd
  | name :: rest =>
    if endsAtom rest then
      .ok (.bare name, rest)
    else
      match takeWord "NOT" rest with
      | some rest => do
        let rest ← requireWord "NULL" rest
        .ok (.present name, rest)
      | none =>
        match takeWord "NULL" rest with
        | some rest => .ok (.absent name, rest)
        | none => comparison name rest

theorem requireWord_shortens {word : String} {tokens rest : List String}
    (found : requireWord word tokens = .ok rest) : rest.length < tokens.length := by
  unfold requireWord at found
  split at found
  · rename_i taken
    rw [← Except.ok.inj found]
    exact takeWord_shortens taken
  · simp at found

theorem comparison_shortens {name : String} {tokens rest : List String} {value : Atom}
    (found : comparison name tokens = .ok (value, rest)) : rest.length < tokens.length := by
  unfold comparison at found
  split at found
  · simp at found
  · split at found
    · simp at found
    · split at found
      · simp at found
      · obtain ⟨-, rfl⟩ := Prod.mk.inj (Except.ok.inj found)
        simp only [List.length_cons]
        omega

theorem atom_shortens {tokens rest : List String} {value : Atom}
    (found : atom tokens = .ok (value, rest)) : rest.length < tokens.length := by
  unfold atom at found
  split at found
  · simp at found
  · rename_i name tail
    simp only [List.length_cons]
    split at found
    · obtain ⟨-, rfl⟩ := Prod.mk.inj (Except.ok.inj found)
      omega
    · split at found
      · rename_i taken
        have := takeWord_shortens taken
        obtain ⟨afterNull, required, found⟩ := Fallible.bind_eq_ok_iff.mp found
        obtain ⟨-, rfl⟩ := Prod.mk.inj (Except.ok.inj found)
        have := requireWord_shortens required
        omega
      · split at found
        · rename_i taken
          obtain ⟨-, rfl⟩ := Prod.mk.inj (Except.ok.inj found)
          have := takeWord_shortens taken
          omega
        · have := comparison_shortens found
          omega

def operand (reading : Reading α) (inside : Option (Parser α)) (tokens : List String) :
    Except RuleError (α × List String) :=
  match takeWord "(" tokens with
  | some rest =>
    match inside with
    | none => .error (.nestingTooDeep maxNesting)
    | some inside => do
      let (value, rest) ← inside.run rest
      let rest ← requireWord ")" rest
      .ok (value, rest)
  | none => do
    let (found, rest) ← atom tokens
    let value ← reading.atom found
    .ok (value, rest)

theorem operand_shortens {reading : Reading α} {inside : Option (Parser α)}
    {tokens rest : List String} {value : α}
    (found : operand reading inside tokens = .ok (value, rest)) : rest.length < tokens.length := by
  unfold operand at found
  split at found
  · rename_i afterOpening opening
    have opened := takeWord_shortens opening
    split at found
    · simp at found
    · rename_i inner
      obtain ⟨⟨innerValue, afterInner⟩, ran, found⟩ := Fallible.bind_eq_ok_iff.mp found
      obtain ⟨afterClosing, closed, found⟩ := Fallible.bind_eq_ok_iff.mp found
      obtain ⟨-, rfl⟩ := Prod.mk.inj (Except.ok.inj found)
      have := inner.shortens ran
      have := requireWord_shortens closed
      omega
  · obtain ⟨⟨leaf, afterAtom⟩, ran, found⟩ := Fallible.bind_eq_ok_iff.mp found
    obtain ⟨leafValue, -, found⟩ := Fallible.bind_eq_ok_iff.mp found
    obtain ⟨-, rfl⟩ := Prod.mk.inj (Except.ok.inj found)
    exact atom_shortens ran

/-- NOT is taken once; a second one is the variable of an atom. -/
def negation (reading : Reading α) (inside : Option (Parser α)) (tokens : List String) :
    Except RuleError (α × List String) :=
  match takeWord "NOT" tokens with
  | some rest => do
    let (value, rest) ← operand reading inside rest
    .ok (reading.negate value, rest)
  | none => operand reading inside tokens

theorem negation_shortens {reading : Reading α} {inside : Option (Parser α)}
    {tokens rest : List String} {value : α}
    (found : negation reading inside tokens = .ok (value, rest)) : rest.length < tokens.length := by
  unfold negation at found
  split at found
  · rename_i afterNot taken
    obtain ⟨⟨innerValue, afterInner⟩, ran, found⟩ := Fallible.bind_eq_ok_iff.mp found
    obtain ⟨-, rfl⟩ := Prod.mk.inj (Except.ok.inj found)
    have := takeWord_shortens taken
    have := operand_shortens ran
    omega
  · exact operand_shortens found

def chainRest (word : String) (join : α → α → Except RuleError α) (link : Parser α) (left : α)
    (tokens : List String) : Except RuleError (α × List String) :=
  match taken : takeWord word tokens with
  | none => .ok (left, tokens)
  | some afterWord =>
    match ran : link.run afterWord with
    | .error fault => .error fault
    | .ok (right, rest) =>
      match join left right with
      | .error fault => .error fault
      | .ok value =>
        have : rest.length < tokens.length :=
          Nat.lt_trans (link.shortens ran) (takeWord_shortens taken)
        chainRest word join link value rest
termination_by tokens.length

theorem chainRest_length_le {word : String} {join : α → α → Except RuleError α} {link : Parser α}
    {left value : α} {tokens rest : List String}
    (found : chainRest word join link left tokens = .ok (value, rest)) :
    rest.length ≤ tokens.length := by
  fun_induction chainRest word join link left tokens with
  | case1 left tokens none =>
    obtain ⟨-, rfl⟩ := Prod.mk.inj (Except.ok.inj found)
    omega
  | case2 => simp at found
  | case3 => simp at found
  | case4 left tokens afterWord taken right middle ran joined same shorter ih =>
    have := ih found
    omega

def chain (word : String) (join : α → α → Except RuleError α) (link : Parser α) : Parser α where
  run tokens := do
    let (left, rest) ← link.run tokens
    chainRest word join link left rest
  shortens := by
    intro tokens value rest found
    obtain ⟨⟨left, afterLeft⟩, ran, found⟩ := Fallible.bind_eq_ok_iff.mp found
    have := link.shortens ran
    have := chainRest_length_le found
    omega

def conjunction (reading : Reading α) (inside : Option (Parser α)) : Parser α :=
  chain "AND" reading.both { run := negation reading inside, shortens := negation_shortens }

def disjunction (reading : Reading α) (inside : Option (Parser α)) : Parser α :=
  chain "OR" reading.either (conjunction reading inside)

def expression (reading : Reading α) : Nat → Parser α
  | 0 => disjunction reading none
  | levels + 1 => disjunction reading (some (expression reading levels))

end Grammar

def Reading.read {α : Type} (reading : Reading α) (text : String) : Except RuleError α := do
  let (value, rest) ← (Grammar.expression reading maxNesting).run (tokenize text)
  match rest with
  | [] => .ok value
  | token :: _ => .error (.trailingToken token)

end Verdict
