import Verdict.Bindings.Json
import Verdict.Bindings.Yaml
import Verdict.Proofs.Json.Mirror

/-! Tables that are read from texts, by what the texts list. The members of a JSON object or a YAML
mapping are entered in their order: the last member of a name counts, and null takes a name out. -/

namespace Verdict

namespace Bindings

def enterAll (bindings : Bindings) (entries : List (String × Option Value)) : Bindings :=
  entries.foldl (fun bindings entry => bindings.enter entry.1 entry.2) bindings

@[simp] theorem enterAll_cons (bindings : Bindings) (entry : String × Option Value)
    (rest : List (String × Option Value)) :
    bindings.enterAll (entry :: rest) = (bindings.enter entry.1 entry.2).enterAll rest :=
  rfl

theorem get?_enter (bindings : Bindings) (name wanted : String) (value : Option Value) :
    (bindings.enter name value).get? wanted =
      if name = wanted then value else bindings.get? wanted := by
  cases value with
  | some value => exact get?_insert bindings name wanted value
  | none => simp [enter, erase, get?, Std.ExtTreeMap.getElem?_erase]

def entryOfJson? (member : String × Json) : Option (String × Option Value) :=
  (valueOfJson? member.2).toOption.map (Prod.mk member.1)

def entriesOfJson? : Json → Option (List (String × Option Value))
  | .object members => members.mapM entryOfJson?
  | _ => none

def jsonEntries? (text : String) : Option (List (String × Option Value)) :=
  ((Json.Reader.value .kept Json.maxDepth).whole text).toOption.bind entriesOfJson?

section Json

open Json Json.Reader

def ofMembers? (members : List (String × Json)) : Option Bindings :=
  (members.reverse.mapM entryOfJson?).map empty.enterAll

theorem ofMembers?_cons (name : String) (json : Json) (members : List (String × Json)) :
    ofMembers? ((name, json) :: members) =
      (ofMembers? members).bind fun bindings =>
        (valueOfJson? json).toOption.map (bindings.enter name) := by
  rw [ofMembers?, ofMembers?, List.reverse_cons, List.mapM_append]
  cases members.reverse.mapM entryOfJson? with
  | none => rfl
  | some entries =>
    cases read : (valueOfJson? json).toOption with
    | none => simp [entryOfJson?, read]
    | some value => simp [entryOfJson?, read, enterAll]

def objectMember (inner : Reader Json) (members : List (String × Json)) :
    Reader (List (String × Json)) :=
  (name .kept).andThen fun name =>
    (char ':').andThen fun _ => inner.map fun json => (name, json) :: members

theorem ofMembers?_eq_none {inner : Reader Json} {members next : List (String × Json)}
    {text rest : List Char} (hidden : ofMembers? members = none)
    (ran : (objectMember inner members).run text = .ok (next, rest)) : ofMembers? next = none := by
  simp only [objectMember, andThen_eq_ok_iff, map_eq_ok_iff] at ran
  obtain ⟨name, _, -, -, _, -, json, -, rfl⟩ := ran
  rw [ofMembers?_cons, hidden]
  rfl

theorem mirrors_member (levels : Nat) {members : List (String × Json)} {bindings : Bindings}
    (seen : ofMembers? members = some bindings) :
    Mirrors ofMembers? (objectMember (value .kept levels) members)
      (jsonMember levels bindings) := by
  refine .andThen fun name => .andThen fun _ => .convert fun {json result} => ?_
  rw [ofMembers?_cons, seen, Option.bind_some]
  cases valueOfJson? json with
  | error fault => simp [Except.toOption]
  | ok value => simp [Except.toOption]

theorem entriesOfJson?_of_array {inner : Reader Json} {json : Json} {text rest : List Char}
    (ran : (Reader.array inner).run text = .ok (json, rest)) : entriesOfJson? json = none := by
  simp only [Reader.array, andThen_eq_ok_iff, map_eq_ok_iff] at ran
  obtain ⟨_, _, -, items, -, rfl⟩ := ran
  rfl

theorem entriesOfJson?_of_number {written : Written} {json : Json}
    (read : written.value? = some json) : entriesOfJson? json = none := by
  unfold Written.value? at read
  extract_lets at read
  split at read
  · cases read
    rfl
  · obtain ⟨_, -, rfl⟩ := Option.map_eq_some_iff.mp read
    rfl

theorem entriesOfJson?_of_scalar {json : Json} {text rest : List Char}
    (ran : (scalar .kept).run text = .ok (json, rest)) : entriesOfJson? json = none := by
  have taken : takeScalar .kept (skipBlank text) = some (json, rest) := by
    simp only [scalar, afterBlank, ofOption] at ran
    split at ran
    · rename_i result taken
      rw [taken, Except.ok.inj ran]
    · cases ran
  unfold takeScalar takeWord at taken
  split at taken
  · cases taken
  · obtain ⟨result, -, same⟩ := Option.map_eq_some_iff.mp taken
    cases same
    rfl
  · split at taken <;> cases taken
    rfl
  · split at taken <;> cases taken
    rfl
  · split at taken <;> cases taken
    rfl
  · simp only [bind, Option.bind_eq_some_iff, pure] at taken
    obtain ⟨⟨written, after⟩, -, number, read, same⟩ := taken
    cases same
    exact entriesOfJson?_of_number read

theorem mirrors_unfit {α β : Type} {view : α → Option β} {reader : Reader α}
    (hidden : ∀ {text value rest}, reader.run text = .ok (value, rest) → view value = none) :
    Mirrors view reader unfit := by
  constructor
  intro text result rest
  refine iff_of_false nofun ?_
  rintro ⟨value, ran, seen⟩
  rw [hidden ran] at seen
  cases seen

theorem mirrors_table (levels : Nat) :
    Mirrors (fun json => (entriesOfJson? json).map empty.enterAll) (value .kept (levels + 1))
      (jsonTable levels) := by
  refine .peek fun first => ?_
  by_cases opening : first = some '{'
  · subst opening
    rw [if_neg (by decide), if_pos rfl, if_pos rfl]
    refine .andThen fun _ => .map ?_
    exact .series (mirrors_member levels) ofMembers?_eq_none rfl
  · rw [if_neg opening, if_neg opening]
    apply mirrors_unfit
    intro text json rest ran
    split at ran
    · rw [entriesOfJson?_of_array ran]
      rfl
    · rw [entriesOfJson?_of_scalar ran]
      rfl

/-- A JSON table is the fold of the members of its object. -/
theorem ofJson?_eq_ok_iff {text : String} {bindings : Bindings} :
    ofJson? text = .ok bindings ↔ (jsonEntries? text).map empty.enterAll = some bindings := by
  have read : (jsonTable (maxDepth - 1)).whole text = .ok bindings ↔
      (jsonEntries? text).map empty.enterAll = some bindings := by
    rw [(mirrors_table (maxDepth - 1)).whole, jsonEntries?]
    change (∃ value, (Reader.value .kept maxDepth).whole text = .ok value ∧ _) ↔ _
    cases (Reader.value .kept maxDepth).whole text with
    | error fault => simp [Except.toOption]
    | ok json => simp [Except.toOption]
  rw [← read, ofJson?]
  cases (jsonTable (maxDepth - 1)).whole text with
  | error fault => simp
  | ok table => simp

end Json

section Yaml

open Yaml

def entryOfNode (member : Node × Node) : Resolve (String × Option Value) := do
  let name ← member.1.text
  let value ← valueOfNode member.2
  return (name, value)

def entriesOfNode : Node → Resolve (List (String × Option Value))
  | .mapping members => members.mapM entryOfNode
  | .scalar _ true "" => return []
  | _ => failure

def yamlEntries? (text : String) : Option (List (String × Option Value)) :=
  (Document.ofText? text).bind (·.resolve entriesOfNode)

theorem enterMembers_eq (bindings : Bindings) (members : List (Node × Node)) :
    bindings.enterMembers members = bindings.enterAll <$> members.mapM entryOfNode := by
  induction members generalizing bindings with
  | nil => simp [enterMembers, enterAll]
  | cons member rest ih => simp [enterMembers, entryOfNode, ih]

theorem ofNode_eq (node : Node) : ofNode node = empty.enterAll <$> entriesOfNode node := by
  fun_cases ofNode node with
  | case1 members => exact enterMembers_eq empty members
  | case2 tag => rfl
  | case3 _ noMapping noEmpty =>
    rw [entriesOfNode]
    · rfl
    · exact noMapping
    · exact noEmpty

theorem resolve_map {α β : Type} (document : Document) (read : Node → Resolve α) (view : α → β) :
    document.resolve (fun node => view <$> read node) = (document.resolve read).map view := by
  simp only [Document.resolve, StateT.run'_eq, StateT.run_map, Option.map_eq_map, Option.map_map]
  rfl

theorem ofYaml?_eq_ok_iff {text : String} {bindings : Bindings} :
    ofYaml? text = .ok bindings ↔ (yamlEntries? text).map empty.enterAll = some bindings := by
  have read : (Document.ofText? text).bind (·.resolve ofNode) =
      (yamlEntries? text).map empty.enterAll := by
    rw [yamlEntries?, Option.map_bind, show ofNode = _ from funext ofNode_eq]
    exact congrArg _ (funext fun document => resolve_map document entriesOfNode empty.enterAll)
  rw [ofYaml?, read]
  cases (yamlEntries? text).map empty.enterAll <;> simp

end Yaml

end Bindings

end Verdict
