import Mathlib.Data.List.Sort
import Verdict.Files.Load
import Verdict.Proofs.Lookup
import Verdict.Proofs.Text.ByteOrder
import Verdict.Proofs.Token.Boundary

/-! The rule sets of a directory. They stand in the order of their file names, however the directory
is listed, and an entry that holds no rule set leaves no trace. -/

namespace Verdict

namespace Path

structure IsName (name : String) : Prop where
  given : name ≠ ""
  undivided : '/' ∉ name.toList
  noSelf : name ≠ "."
  noParent : name ≠ ".."

variable {name extension : String}

theorem IsName.parts_eq (proper : IsName name) : parts name = [name] := by
  rw [parts, List.splitOn_eq_singleton proper.undivided, List.map_singleton, String.ofList_toList]

theorem IsName.fileName?_eq (proper : IsName name) : fileName? name = some name := by
  have kept : (!name.isEmpty && name != ".") = true := by
    simp [proper.given, proper.noSelf]
  rw [fileName?, proper.parts_eq, List.filter_singleton, kept]
  simp [proper.noParent]

theorem IsName.extension?_eq_some_iff (proper : IsName name) :
    extension? name = some extension ↔
      ∃ stem, stem ≠ "" ∧ name = stem ++ "." ++ extension ∧ '.' ∉ extension.toList := by
  rw [extension?, proper.fileName?_eq]
  constructor
  · intro found
    have whole := List.takeWhile_append_dropWhile (p := (· != '.')) (l := name.toList.reverse)
    have plain : '.' ∉ name.toList.reverse.takeWhile (· != '.') := by
      intro member
      simpa using List.mem_takeWhile_imp member
    dsimp only [Option.bind_some, bind] at found
    split at found
    · rename_i first second before dropped
      obtain rfl := Option.some.inj found
      have point : first = '.' := by
        have head := List.head?_dropWhile_not (· != '.') name.toList.reverse
        rw [dropped] at head
        simpa using head
      rw [dropped, point] at whole
      generalize name.toList.reverse.takeWhile (· != '.') = after at whole plain ⊢
      refine ⟨String.ofList (second :: before).reverse, by simp, ?_, by simpa using plain⟩
      rw [← String.toList_inj, ← List.reverse_inj, ← whole]
      simp
    · cases found
  · rintro ⟨stem, given, rfl, plain⟩
    obtain ⟨last, front, letters⟩ : ∃ last front, stem.toList.reverse = last :: front := by
      refine List.exists_cons_of_ne_nil ?_
      rwa [ne_eq, List.reverse_eq_nil_iff, String.toList_eq_nil_iff]
    have text : (stem ++ "." ++ extension).toList.reverse =
        extension.toList.reverse ++ '.' :: last :: front := by
      simp [← letters]
    obtain ⟨taken, dropped⟩ := Lexeme.cut_before (mt List.mem_reverse.mp plain) (last :: front)
    simp only [Option.bind_some, bind, text, taken, dropped, List.reverse_reverse,
      String.ofList_toList]

end Path

theorem isRuleSetName_iff {name : String} :
    isRuleSetName name = true ↔
      Path.extension? name = some "yaml" ∨ Path.extension? name = some "yml" := by
  unfold isRuleSetName
  cases Path.extension? name <;> simp

namespace RuleSet

/-- An entry of a directory that holds a rule set: its name has one of the two extensions, and its
content is text that can be parsed and compiled. -/
structure Holds (name : String) (content : Option String) (set : RuleSet) : Prop where
  named : Path.extension? name = some "yaml" ∨ Path.extension? name = some "yml"
  written : ∃ text definition, content = some text ∧
    Definition.ofYaml? text = .ok definition ∧ compile definition = .ok set

/-- The rule sets that names stand for, one for each name that stands for any, in the order of the
bytes of the names. -/
def InNameOrder (stands : String → RuleSet → Prop) (sets : List RuleSet) : Prop :=
  ∃ named : List (String × RuleSet), sets = named.map Prod.snd ∧
    (named.Pairwise fun first second => Text.bytes first.1 < Text.bytes second.1) ∧
    ∀ name set, (name, set) ∈ named ↔ stands name set

theorem InNameOrder.unique {stands : String → RuleSet → Prop} {sets others : List RuleSet}
    (ordered : InNameOrder stands sets) (other : InNameOrder stands others) : sets = others := by
  obtain ⟨first, rfl, increasing, members⟩ := ordered
  obtain ⟨second, rfl, otherIncreasing, otherMembers⟩ := other
  let before (first second : String × RuleSet) : Prop := Text.bytes first.1 < Text.bytes second.1
  have : Std.Irrefl before := ⟨fun entry => List.lt_irrefl _⟩
  have : Std.Antisymm before := ⟨fun _ _ less more => absurd more (List.lt_asymm less)⟩
  have same : first = second := increasing.eq_of_mem_iff otherIncreasing fun entry =>
    (members entry.1 entry.2).trans (otherMembers entry.1 entry.2).symm
  rw [same]

theorem ofContent?_eq_ok_iff {content : Option String} {set : RuleSet} :
    ofContent? content = .ok set ↔ ∃ text definition, content = some text ∧
      Definition.ofYaml? text = .ok definition ∧ compile definition = .ok set := by
  cases content with
  | none => simp [ofContent?]
  | some text =>
    rw [ofContent?, Fallible.bind_eq_ok_iff]
    simp

theorem holds_iff {name : String} {content : Option String} {set : RuleSet} :
    Holds name content set ↔ isRuleSetName name = true ∧ ofContent? content = .ok set := by
  rw [isRuleSetName_iff, ofContent?_eq_ok_iff]
  exact ⟨fun held => ⟨held.named, held.written⟩, fun ⟨named, written⟩ => ⟨named, written⟩⟩

section Entries

variable {entries other : List (String × Option String)}

def fileSet? (entry : String × Option String) : Option (String × RuleSet) :=
  (ofContent? entry.2).toOption.map (Prod.mk entry.1)

theorem fileSet?_eq_some_iff {entry : String × Option String} {name : String} {set : RuleSet} :
    fileSet? entry = some (name, set) ↔ entry.1 = name ∧ ofContent? entry.2 = .ok set := by
  unfold fileSet?
  cases ofContent? entry.2 <;> simp [Except.toOption]

def sorted (entries : List (String × Option String)) : List (String × Option String) :=
  (entries.filter fun entry => isRuleSetName entry.1).mergeSort
    fun left right => decide (left.1 ≤ right.1)

theorem mem_sorted_iff {entry : String × Option String} :
    entry ∈ sorted entries ↔ entry ∈ entries ∧ isRuleSetName entry.1 = true := by
  rw [sorted, List.mem_mergeSort, List.mem_filter]

theorem ofEntries_eq (entries : List (String × Option String)) :
    ofEntries entries = ((sorted entries).filterMap fileSet?).map Prod.snd := by
  have drop (entry : String × Option String) :
      (fileSet? entry).map Prod.snd = (ofContent? entry.2).toOption := by
    rw [fileSet?, Option.map_map]
    exact Option.map_id'
  rw [List.map_filterMap]
  simp only [drop]
  rfl

theorem sorted_increase (distinct : (entries.map Prod.fst).Nodup) :
    (sorted entries).Pairwise fun first second => first.1 < second.1 := by
  have ascending : (sorted entries).Pairwise fun first second => first.1 ≤ second.1 := by
    refine (List.pairwise_mergeSort ?_ ?_ _).imp of_decide_eq_true
    · simpa using fun _ _ _ => String.le_trans
    · simpa using fun first second => String.le_total first second
  have apart : (sorted entries).Pairwise fun first second => first.1 ≠ second.1 := by
    rw [← List.pairwise_map]
    have kept : ((entries.filter fun entry => isRuleSetName entry.1).map Prod.fst).Nodup :=
      distinct.sublist (List.filter_sublist.map Prod.fst)
    exact ((List.mergeSort_perm _ _).map Prod.fst).nodup_iff.mpr kept
  exact (ascending.and apart).imp fun both => lt_of_le_of_ne both.1 both.2

theorem ofEntries_inNameOrder (distinct : (entries.map Prod.fst).Nodup) :
    InNameOrder (fun name set => ∃ content, (name, content) ∈ entries ∧ Holds name content set)
      (ofEntries entries) := by
  refine ⟨(sorted entries).filterMap fileSet?, ofEntries_eq entries, ?_, ?_⟩
  · refine (sorted_increase distinct).filterMap fileSet? ?_
    rintro first second less ⟨name, set⟩ read ⟨otherName, otherSet⟩ otherRead
    obtain ⟨rfl, -⟩ := fileSet?_eq_some_iff.mp read
    obtain ⟨rfl, -⟩ := fileSet?_eq_some_iff.mp otherRead
    exact Text.bytes_lt_bytes_iff.mpr less
  · intro name set
    rw [List.mem_filterMap]
    constructor
    · rintro ⟨entry, member, read⟩
      obtain ⟨rfl, loaded⟩ := fileSet?_eq_some_iff.mp read
      obtain ⟨listed, named⟩ := mem_sorted_iff.mp member
      exact ⟨entry.2, listed, holds_iff.mpr ⟨named, loaded⟩⟩
    · rintro ⟨content, listed, held⟩
      obtain ⟨named, loaded⟩ := holds_iff.mp held
      exact ⟨(name, content), mem_sorted_iff.mpr ⟨listed, named⟩,
        fileSet?_eq_some_iff.mpr ⟨rfl, loaded⟩⟩

theorem ofEntries_congr (distinct : (entries.map Prod.fst).Nodup)
    (otherDistinct : (other.map Prod.fst).Nodup)
    (same : ∀ name content set, Holds name content set →
      ((name, content) ∈ other ↔ (name, content) ∈ entries)) :
    ofEntries other = ofEntries entries := by
  have alike : (fun name set => ∃ content, (name, content) ∈ other ∧ Holds name content set) =
      fun name set => ∃ content, (name, content) ∈ entries ∧ Holds name content set := by
    funext name set
    refine propext (exists_congr fun content => and_congr_left fun held => ?_)
    exact same name content set held
  exact (alike ▸ ofEntries_inNameOrder otherDistinct).unique (ofEntries_inNameOrder distinct)

variable {before after : List (String × Option String)} {entry : String × Option String}

theorem distinct_cons_iff :
    ((before ++ entry :: after).map Prod.fst).Nodup ↔
      entry.1 ∉ (before ++ after).map Prod.fst ∧ ((before ++ after).map Prod.fst).Nodup := by
  rw [(List.perm_middle.map Prod.fst).nodup_iff, List.map_cons, List.nodup_cons]

theorem ofEntries_skip (distinct : ((before ++ entry :: after).map Prod.fst).Nodup)
    (empty : ∀ set, ¬Holds entry.1 entry.2 set) :
    ofEntries (before ++ entry :: after) = ofEntries (before ++ after) := by
  refine ofEntries_congr (distinct_cons_iff.mp distinct).2 distinct ?_
  intro name content set held
  have other : (name, content) ≠ entry := by
    rintro rfl
    exact empty set held
  rw [List.perm_middle.mem_iff, List.mem_cons, or_iff_right other]

end Entries

end RuleSet

namespace Files

theorem nodup_eraseDups (names : List String) : names.eraseDups.Nodup := by
  -- The names that are left after the first one are fewer, but they are no tail.
  induction size : names.length using Nat.strongRecOn generalizing names with
  | ind size ih =>
    subst size
    cases names with
    | nil => exact List.nodup_nil
    | cons first rest =>
      rw [List.eraseDups_cons, List.nodup_cons]
      refine ⟨by simp [List.mem_eraseDups], ih _ ?_ _ rfl⟩
      exact Nat.lt_succ_of_le (List.length_filter_le _ _)

variable {files other : Files} {path : String} {names : List String}

theorem names_nodup (listed : files.names? path = some names) : names.Nodup := by
  simp only [names?, Option.bind_eq_bind, Option.bind_eq_some_iff, Option.pure_def,
    Option.some.injEq] at listed
  obtain ⟨place, -, -, -, rfl⟩ := listed
  exact nodup_eraseDups _

theorem ruleSets?_inNameOrder (listed : files.names? path = some names) :
    ∃ sets, files.ruleSets? path = .ok sets ∧
      RuleSet.InNameOrder (fun name set => name ∈ names ∧
        (Path.extension? name = some "yaml" ∨ Path.extension? name = some "yml") ∧
        files.ruleSet? (path ++ "/" ++ name) = .ok set) sets := by
  let entry (name : String) : String × Option String := (name, files.text? (path ++ "/" ++ name))
  have distinct : ((names.map entry).map Prod.fst).Nodup := by
    rw [List.map_map]
    exact (List.map_id names).symm ▸ names_nodup listed
  refine ⟨RuleSet.ofEntries (names.map entry), by rw [ruleSets?, listed], ?_⟩
  have ordered := RuleSet.ofEntries_inNameOrder distinct
  have stands : (fun name set => ∃ content, (name, content) ∈ names.map entry ∧
        RuleSet.Holds name content set) = fun name set => name ∈ names ∧
      (Path.extension? name = some "yaml" ∨ Path.extension? name = some "yml") ∧
        files.ruleSet? (path ++ "/" ++ name) = .ok set := by
    funext name set
    simp only [RuleSet.holds_iff, isRuleSetName_iff, List.mem_map, entry, Prod.mk.injEq]
    refine propext ⟨?_, ?_⟩
    · rintro ⟨content, ⟨member, known, rfl, rfl⟩, held⟩
      exact ⟨known, held⟩
    · rintro ⟨known, held⟩
      exact ⟨_, ⟨name, known, rfl, rfl⟩, held⟩
  rwa [stands] at ordered

section Order

variable (perm : other.entries.Perm files.entries)
include perm

theorem isDirectory_of_perm (place : List String) :
    other.isDirectory place = files.isDirectory place := by
  rw [isDirectory, isDirectory, perm.any_eq]

theorem walk_of_perm (parts place : List String) :
    other.walk place parts = files.walk place parts := by
  induction parts generalizing place with
  | nil => rfl
  | cons part rest ih => simp only [walk, isDirectory_of_perm perm, ih]

theorem locate_of_perm (path : String) : other.locate path = files.locate path := by
  simp only [locate, walk_of_perm perm]

theorem text?_of_perm (distinct : (files.entries.map Prod.fst).Nodup) (path : String) :
    other.text? path = files.text? path := by
  simp only [text?, locate_of_perm perm, lookup_of_perm perm distinct]

theorem names?_of_perm (listed : files.names? path = some names) :
    ∃ others, other.names? path = some others ∧ ∀ name, name ∈ others ↔ name ∈ names := by
  simp only [names?, locate_of_perm perm, isDirectory_of_perm perm, Option.bind_eq_bind,
    Option.bind_eq_some_iff, Option.pure_def, Option.some.injEq] at listed ⊢
  obtain ⟨place, located, checked, directory, rfl⟩ := listed
  refine ⟨_, ⟨place, located, checked, directory, rfl⟩, fun name => ?_⟩
  rw [List.mem_eraseDups, List.mem_eraseDups]
  exact (perm.filterMap _).mem_iff

theorem ruleSets?_of_perm (distinct : (files.entries.map Prod.fst).Nodup)
    (listed : files.names? path = some names) : other.ruleSets? path = files.ruleSets? path := by
  obtain ⟨others, otherListed, same⟩ := names?_of_perm perm listed
  obtain ⟨sets, found, ordered⟩ := ruleSets?_inNameOrder listed
  obtain ⟨otherSets, otherFound, otherOrdered⟩ := ruleSets?_inNameOrder otherListed
  simp only [same, ruleSet?, text?_of_perm perm distinct] at otherOrdered
  rw [found, otherFound, otherOrdered.unique ordered]

end Order

end Files

namespace RuleSet

/-- A directory gives one rule set for each entry that holds one, in the byte order of the names of
the entries, in whatever order they are listed. An entry that holds none may be added, taken away or
changed for another such entry, and the rule sets stay the same. -/
theorem directory_in_name_order :
    (∀ name extension, Path.IsName name → (Path.extension? name = some extension ↔
      ∃ stem, stem ≠ "" ∧ name = stem ++ "." ++ extension ∧ '.' ∉ extension.toList)) ∧
    (∀ entries : List (String × Option String), (entries.map Prod.fst).Nodup →
      InNameOrder (fun name set => ∃ content, (name, content) ∈ entries ∧ Holds name content set)
        (ofEntries entries) ∧
      (∀ other, other.Perm entries → ofEntries other = ofEntries entries) ∧
      ∀ before entry after, entries = before ++ entry :: after →
        (∀ set, ¬Holds entry.1 entry.2 set) →
        ofEntries (before ++ after) = ofEntries entries ∧
        ∀ changed : String × Option String, changed.1 ∉ (before ++ after).map Prod.fst →
          (∀ set, ¬Holds changed.1 changed.2 set) →
          ofEntries (before ++ changed :: after) = ofEntries entries) ∧
    ∀ (files : Files) path names, files.names? path = some names →
      (∃ sets, files.ruleSets? path = .ok sets ∧
        InNameOrder (fun name set => name ∈ names ∧
          (Path.extension? name = some "yaml" ∨ Path.extension? name = some "yml") ∧
          files.ruleSet? (path ++ "/" ++ name) = .ok set) sets) ∧
      ∀ other : Files, (files.entries.map Prod.fst).Nodup → other.entries.Perm files.entries →
        other.ruleSets? path = files.ruleSets? path := by
  refine ⟨fun name extension proper => proper.extension?_eq_some_iff, ?_, ?_⟩
  · intro entries distinct
    refine ⟨ofEntries_inNameOrder distinct, ?_, ?_⟩
    · intro other perm
      refine ofEntries_congr distinct ((perm.map Prod.fst).nodup_iff.mpr distinct) ?_
      exact fun name content set _ => perm.mem_iff
    · rintro before entry after rfl empty
      refine ⟨(ofEntries_skip distinct empty).symm, fun changed unlisted alsoEmpty => ?_⟩
      have fewer := (distinct_cons_iff.mp distinct).2
      rw [ofEntries_skip distinct empty,
        ofEntries_skip (distinct_cons_iff.mpr ⟨unlisted, fewer⟩) alsoEmpty]
  · intro files path names listed
    exact ⟨Files.ruleSets?_inNameOrder listed,
      fun other distinct perm => Files.ruleSets?_of_perm perm distinct listed⟩

theorem ofContent?_without_rules {name text : String}
    (written : (Yaml.Document.ofText? text).bind (·.resolve Definition.ofNode) =
      some { name, description := "", rules := [] }) :
    ofContent? (some text) = .ok { name, description := "", rules := [] } := by
  rw [ofContent?, Definition.ofYaml?, written]
  rfl

theorem unreadable_file_passed_over :
    let files : Files := { entries := [
      (["b.yaml"], some "name: second\nrules: []\n".toUTF8),
      (["aa.yaml"], some ⟨#[0xff]⟩),
      (["a.yml"], some "name: first\nrules: []\n".toUTF8)] }
    files.ruleSets? "." = .ok [{ name := "first", description := "", rules := [] },
      { name := "second", description := "", rules := [] }] ∧
    ({ entries := files.entries.reverse } : Files).ruleSets? "." = files.ruleSets? "." := by
  intro files
  let first : RuleSet := { name := "first", description := "", rules := [] }
  let second : RuleSet := { name := "second", description := "", rules := [] }
  have firstLoaded : files.ruleSet? "./a.yml" = .ok first := by
    have text : files.text? "./a.yml" = some "name: first\nrules: []\n" := by decide +kernel
    rw [Files.ruleSet?, text]
    exact ofContent?_without_rules (by decide +kernel)
  have secondLoaded : files.ruleSet? "./b.yaml" = .ok second := by
    have text : files.text? "./b.yaml" = some "name: second\nrules: []\n" := by decide +kernel
    rw [Files.ruleSet?, text]
    exact ofContent?_without_rules (by decide +kernel)
  have unreadable : files.text? "./aa.yaml" = none := by decide +kernel
  have listed : files.names? "." = some ["b.yaml", "aa.yaml", "a.yml"] := by decide +kernel
  obtain ⟨⟨sets, found, ordered⟩, reordered⟩ := directory_in_name_order.2.2 files "." _ listed
  refine ⟨?_, reordered _ (by decide) (List.reverse_perm _)⟩
  rw [found, ordered.unique ⟨[("a.yml", first), ("b.yaml", second)], rfl, ?_, ?_⟩]
  · rfl
  · simp only [Text.bytes_lt_bytes_iff]
    decide
  · intro name set
    constructor
    · intro member
      rcases List.mem_pair.mp member with same | same
      · cases same
        exact ⟨by simp, .inr (by decide +kernel), firstLoaded⟩
      · cases same
        exact ⟨by simp, .inl (by decide +kernel), secondLoaded⟩
    · rintro ⟨member, -, loaded⟩
      simp only [List.mem_cons, List.not_mem_nil, or_false] at member
      rcases member with rfl | rfl | rfl
      · rw [Except.ok.inj (loaded.symm.trans secondLoaded)]
        simp
      · change ofContent? (files.text? "./aa.yaml") = _ at loaded
        rw [unreadable] at loaded
        cases loaded
      · rw [Except.ok.inj (loaded.symm.trans firstLoaded)]
        simp

end RuleSet

end Verdict
