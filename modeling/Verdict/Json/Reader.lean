import Verdict.Fallible
import Verdict.Json.Number
import Verdict.Json.Text

/-!
Readers of JSON values. A reader takes one thing from the front of a text, and the first fault from
the left is the fault of the whole.
-/

namespace Verdict.Json

namespace Reader

variable {α β σ : Type}

def fail (fault : List Char → Fault) : Reader α where
  run text := .error (fault text)
  shortens := by
    intro text value rest found
    simp at found

def ofOption (take : List Char → Option (α × List Char))
    (shortens : ∀ {text value rest}, take text = some (value, rest) → rest.length < text.length) :
    Reader α where
  run text :=
    match take text with
    | some result => .ok result
    | none => .error .malformed
  shortens := by
    intro text value rest found
    split at found
    · rename_i result taken
      rw [Except.ok.inj found] at taken
      exact shortens taken
    · simp at found

def andThen (first : Reader α) (next : α → Reader β) : Reader β where
  run text := do
    let (value, rest) ← first.run text
    (next value).run rest
  shortens := by
    intro text value rest found
    obtain ⟨⟨middle, after⟩, ran, found⟩ := Fallible.bind_eq_ok_iff.mp found
    have := first.shortens ran
    have := (next middle).shortens found
    omega

def convert (reader : Reader α) (change : α → Except Fault β) : Reader β where
  run text := do
    let (value, rest) ← reader.run text
    let changed ← change value
    .ok (changed, rest)
  shortens := by
    intro text value rest found
    obtain ⟨⟨middle, after⟩, ran, found⟩ := Fallible.bind_eq_ok_iff.mp found
    obtain ⟨changed, -, found⟩ := Fallible.bind_eq_ok_iff.mp found
    obtain ⟨-, rfl⟩ := Prod.mk.inj (Except.ok.inj found)
    exact reader.shortens ran

def map (reader : Reader α) (change : α → β) : Reader β :=
  reader.convert fun value => .ok (change value)

def afterBlank (reader : Reader α) : Reader α where
  run text := reader.run (skipBlank text)
  shortens := by
    intro text value rest found
    have := reader.shortens found
    have := skipBlank_length_le text
    omega

def peek (choose : Option Char → Reader α) : Reader α where
  run text := (choose (skipBlank text).head?).run text
  shortens := fun found => (choose _).shortens found

def takeChar (wanted : Char) : List Char → Option (Unit × List Char)
  | [] => none
  | char :: rest => if char == wanted then some ((), rest) else none

theorem takeChar_length {wanted : Char} {text rest : List Char} {value : Unit}
    (found : takeChar wanted text = some (value, rest)) : rest.length < text.length := by
  unfold takeChar at found
  split at found
  · simp at found
  · split at found
    · obtain ⟨-, rfl⟩ := Prod.mk.inj (Option.some.inj found)
      simp
    · simp at found

def char (wanted : Char) : Reader Unit :=
  (ofOption (takeChar wanted) takeChar_length).afterBlank

def items (close : Char) (step : σ → Reader σ) (state : σ) (text : List Char) :
    Except Fault (σ × List Char) :=
  match ran : (step state).run text with
  | .error fault => .error fault
  | .ok (next, rest) =>
    match found : skipBlank rest with
    | [] => .error .malformed
    | mark :: after =>
      have : after.length < text.length := by
        have := (step state).shortens ran
        have := skipBlank_length_le rest
        simp only [found, List.length_cons] at this
        omega
      if mark == close then .ok (next, after)
      else if mark == ',' then items close step next after
      else .error .malformed
termination_by text.length

theorem items_length {close : Char} {step : σ → Reader σ} {state value : σ} {text rest : List Char}
    (found : items close step state text = .ok (value, rest)) : rest.length < text.length := by
  fun_induction items close step state text with
  | case1 => simp at found
  | case2 => simp at found
  | case3 state text next middle ran mark after shape shorter closing =>
    obtain ⟨-, rfl⟩ := Prod.mk.inj (Except.ok.inj found)
    exact shorter
  | case4 state text next middle ran mark after shape shorter open_ comma ih =>
    have := ih found
    omega
  | case5 => simp at found

def maybeItems (close : Char) (step : σ → Reader σ) (state : σ) (text : List Char) :
    Except Fault (σ × List Char) :=
  match skipBlank text with
  | [] => .error .malformed
  | first :: rest =>
    if first == close then .ok (state, rest) else items close step state (first :: rest)

theorem maybeItems_length {close : Char} {step : σ → Reader σ} {state value : σ}
    {text rest : List Char} (found : maybeItems close step state text = .ok (value, rest)) :
    rest.length < text.length := by
  have blank := skipBlank_length_le text
  unfold maybeItems at found
  split at found
  · simp at found
  · rename_i first tail shape
    rw [shape] at blank
    split at found
    · obtain ⟨-, rfl⟩ := Prod.mk.inj (Except.ok.inj found)
      simp only [List.length_cons] at blank
      omega
    · have := items_length found
      omega

/-- What stands between an opening and a closing character; the opening one is already read. Every
item is read into the state that the items before it have left. -/
def series (close : Char) (step : σ → Reader σ) (state : σ) : Reader σ where
  run := maybeItems close step state
  shortens := maybeItems_length

def whole (reader : Reader α) (text : String) : Except Fault α := do
  let (value, rest) ← reader.run text.toList
  if (skipBlank rest).isEmpty then .ok value else .error .malformed

end Reader

/-- Whether a value is kept or only has to be skipped. In a skipped value numbers may be of any size
and halves of surrogate pairs may stand alone. -/
inductive Use where
  | kept
  | skipped
deriving DecidableEq

def Use.escapes : Use → Escapes
  | .kept => .decoded
  | .skipped => .skipped

def Use.number? : Use → Written → Option Json
  | .kept, written => written.value?
  | .skipped, _ => some .null

def takeWord (word : String) (value : Json) (text : List Char) : Option (Json × List Char) :=
  if word.toList.isPrefixOf text then some (value, text.drop word.length) else none

def takeScalar (use : Use) (text : List Char) : Option (Json × List Char) :=
  match text with
  | [] => none
  | '"' :: rest =>
    (takeText use.escapes rest).map fun (chars, after) => (.string (String.ofList chars), after)
  | 'n' :: _ => takeWord "null" .null text
  | 't' :: _ => takeWord "true" (.boolean true) text
  | 'f' :: _ => takeWord "false" (.boolean false) text
  | _ => do
    let (written, after) ← Written.take text
    let value ← use.number? written
    return (value, after)

theorem takeWord_length {word : String} {value result : Json} {text rest : List Char}
    (nonempty : 0 < word.length) (found : takeWord word value text = some (result, rest)) :
    rest.length < text.length := by
  unfold takeWord at found
  split at found
  · rename_i start
    obtain ⟨-, rfl⟩ := Prod.mk.inj (Option.some.inj found)
    have fits := (List.isPrefixOf_iff_prefix.mp start).length_le
    simp only [String.length_toList] at fits
    simp only [List.length_drop]
    omega
  · simp at found

theorem takeScalar_length {use : Use} {text rest : List Char} {value : Json}
    (found : takeScalar use text = some (value, rest)) : rest.length < text.length := by
  unfold takeScalar at found
  split at found
  · simp at found
  · obtain ⟨⟨chars, after⟩, taken, same⟩ := Option.map_eq_some_iff.mp found
    obtain ⟨-, rfl⟩ := Prod.mk.inj same
    have := takeText_length taken
    simp
    omega
  · exact takeWord_length (by decide) found
  · exact takeWord_length (by decide) found
  · exact takeWord_length (by decide) found
  · simp only [bind, Option.bind_eq_some_iff, pure] at found
    obtain ⟨⟨written, after⟩, taken, _, -, same⟩ := found
    obtain ⟨-, rfl⟩ := Prod.mk.inj (Option.some.inj same)
    exact Written.take_length taken

def takeName (use : Use) : List Char → Option (String × List Char)
  | '"' :: rest =>
    (takeText use.escapes rest).map fun (chars, after) => (String.ofList chars, after)
  | _ => none

theorem takeName_length {use : Use} {text rest : List Char} {name : String}
    (found : takeName use text = some (name, rest)) : rest.length < text.length := by
  unfold takeName at found
  split at found
  · obtain ⟨⟨chars, after⟩, taken, same⟩ := Option.map_eq_some_iff.mp found
    obtain ⟨-, rfl⟩ := Prod.mk.inj same
    have := takeText_length taken
    simp
    omega
  · simp at found

namespace Reader

def scalar (use : Use) : Reader Json :=
  (ofOption (takeScalar use) takeScalar_length).afterBlank

def name (use : Use) : Reader String :=
  (ofOption (takeName use) takeName_length).afterBlank

def array (inner : Reader Json) : Reader Json :=
  (char '[').andThen fun _ =>
    (series ']' (fun items => inner.map (· :: items)) []).map fun items =>
      .array items.reverse

def object (use : Use) (inner : Reader Json) : Reader Json :=
  (char '{').andThen fun _ =>
    (series '}' (fun members => (name use).andThen fun name =>
      (char ':').andThen fun _ =>
        inner.map fun value => (name, value) :: members) []).map fun members =>
      .object members.reverse

def value (use : Use) : Nat → Reader Json
  | 0 => scalar use
  | levels + 1 => peek fun first =>
    if first = some '[' then array (value use levels)
    else if first = some '{' then object use (value use levels)
    else scalar use

def skipped : Reader Json where
  run text := (value .skipped text.length).run text
  shortens := fun found => (value .skipped _).shortens found

/-- The fault of a value of a kind that is not wanted. A scalar has to be well formed before its
kind matters, an array or object is refused at its first character. -/
def unfitFault (text : List Char) : Fault :=
  if (skipBlank text).head? = some '[' || (skipBlank text).head? = some '{' then
    .unfit
  else
    match (scalar .kept).run text with
    | .ok _ => .unfit
    | .error fault => fault

def unfit {α : Type} : Reader α :=
  fail unfitFault

def string : Reader String :=
  peek fun first => if first = some '"' then name .kept else unfit

end Reader

def maxDepth : Nat := 127

end Verdict.Json
