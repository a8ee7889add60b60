import Verdict.Bindings.Edit
import Verdict.Evaluation
import Verdict.Proofs.Bindings.Entries
import Verdict.Proofs.Lookup

/-! What two tables of bindings hold after a run of steps: under every name the value that was
written last and not cleared since. -/

namespace Verdict.Bindings

section Pairs

def given (pairs : List (String × Value)) : List (String × Option Value) :=
  pairs.map (Prod.map id some)

theorem lookup_given (pairs : List (String × Value)) (name : String) :
    (given pairs).reverse.lookup name = (pairs.reverse.lookup name).map some := by
  rw [given, ← List.map_reverse]
  induction pairs.reverse with
  | nil => rfl
  | cons pair rest ih =>
    rw [List.map_cons, lookup_cons, lookup_cons, ih, apply_ite (Option.map some)]
    rfl

end Pairs

section Tables

variable (bindings other : Bindings) (pairs : List (String × Value)) (name : String)

theorem get?_enterAll (entries : List (String × Option Value)) :
    (bindings.enterAll entries).get? name =
      (entries.reverse.lookup name).getD (bindings.get? name) := by
  induction entries generalizing bindings with
  | nil => rfl
  | cons entry rest ih =>
    rw [enterAll_cons, ih, get?_enter, List.reverse_cons, List.lookup_append, lookup_cons]
    cases rest.reverse.lookup name with
    | some value => rfl
    | none => split <;> rfl

theorem insertAll_eq_enterAll : bindings.insertAll pairs = bindings.enterAll (given pairs) := by
  rw [insertAll, enterAll, given, List.foldl_map]
  rfl

theorem get?_insertAll :
    (bindings.insertAll pairs).get? name = (pairs.reverse.lookup name).or (bindings.get? name) := by
  rw [insertAll_eq_enterAll, get?_enterAll, lookup_given]
  cases pairs.reverse.lookup name <;> rfl

theorem distinct_toList : (bindings.toList.map Prod.fst).Nodup := by
  rw [toList, Std.ExtTreeMap.map_fst_toList_eq_keys]
  exact Std.ExtTreeMap.nodup_keys

theorem lookup_toList : bindings.toList.reverse.lookup name = bindings.get? name := by
  ext value
  rw [lookup_of_perm (List.reverse_perm _) bindings.distinct_toList,
    lookup_eq_some_iff_mem bindings.distinct_toList, toList,
    Std.ExtTreeMap.mem_toList_iff_getElem?_eq_some]
  rfl

theorem get?_ofList : (ofList pairs).get? name = pairs.reverse.lookup name := by
  rw [ofList, get?_insertAll, get?_empty, Option.or_none]

theorem get?_extend :
    (bindings.extend other).get? name = (other.get? name).or (bindings.get? name) := by
  rw [extend, get?_insertAll, lookup_toList]

theorem ofList_append (later : List (String × Value)) :
    ofList (pairs ++ later) = (ofList pairs).extend (ofList later) := by
  apply ext_get?
  intro name
  rw [get?_extend, get?_ofList, get?_ofList, get?_ofList, List.reverse_append, List.lookup_append]

theorem extend_assoc (third : Bindings) :
    (bindings.extend other).extend third = bindings.extend (other.extend third) := by
  apply ext_get?
  intro name
  rw [get?_extend, get?_extend, get?_extend, get?_extend, Option.or_assoc]

theorem exists_names : ∃ names : List String, names.Nodup ∧
    (∀ name, name ∈ names ↔ bindings.contains name = true) ∧ bindings.size = names.length :=
  ⟨bindings.table.keys, Std.ExtTreeMap.nodup_keys, fun _ => Std.ExtTreeMap.mem_keys,
    Std.ExtTreeMap.length_keys.symm⟩

theorem isEmpty_iff_size_eq_zero : bindings.isEmpty = true ↔ bindings.size = 0 := by
  rw [isEmpty, size, Std.ExtTreeMap.isEmpty_eq_size_beq_zero, beq_iff_eq]

end Tables

inductive Event where
  | cleared
  | written (name : String) (value : Option Value)

/-- All that has happened to a table, the newest event first. -/
abbrev Log := List Event

namespace Log

def newest? (wanted : String) : Log → Option Value
  | [] => none
  | .cleared :: _ => none
  | .written name value :: older => if name = wanted then value else newest? wanted older

def entries : Log → List (String × Value)
  | [] => []
  | .cleared :: _ => []
  | .written name value :: older =>
    (value.map (Prod.mk name)).toList ++ (entries older).filter fun entry => entry.1 != name

def clear (log : Log) : Log :=
  .cleared :: log

def write (log : Log) (entries : List (String × Option Value)) : Log :=
  (entries.map fun entry => Event.written entry.1 entry.2).reverse ++ log

def replace (log : Log) : Option (List (String × Option Value)) → Log
  | some entries => log.clear.write entries
  | none => log

def enter (log : Log) : Except Failure (String × Value) → Log
  | .ok pair => log.write (given [pair])
  | .error _ => log

def edit (log : Log) : Edit → Log
  | .insert name value => log.write (given [(name, value)])
  | .collect pairs => log.clear.write (given pairs)
  | .json text => log.replace (jsonEntries? text)
  | .yaml text => log.replace (yamlEntries? text)
  | .argument text => log.enter (ofArgument? text)
  | .extend other => log.write (given other.toList)

theorem newest?_eq_some_iff {log : Log} {name : String} {value : Value} :
    log.newest? name = some value ↔
      ∃ newer older, log = newer ++ .written name (some value) :: older ∧
        .cleared ∉ newer ∧ ∀ other, .written name other ∉ newer := by
  induction log with
  | nil => simp [newest?]
  | cons event log ih =>
    constructor
    · intro found
      cases event with
      | cleared => cases found
      | written written stored =>
        rw [newest?] at found
        split at found
        · rename_i same
          exact ⟨[], log, by rw [same, found]; rfl, List.not_mem_nil, fun _ => List.not_mem_nil⟩
        · rename_i different
          obtain ⟨newer, older, rfl, kept, last⟩ := ih.mp found
          refine ⟨.written written stored :: newer, older, rfl, ?_, ?_⟩
          · simpa using kept
          · intro other
            simpa [Ne.symm different] using last other
    · rintro ⟨newer, older, split, kept, last⟩
      cases newer with
      | nil =>
        cases split
        rw [newest?, if_pos rfl]
      | cons latest newer =>
        obtain ⟨rfl, rfl⟩ := List.cons.inj split
        cases event with
        | cleared => exact absurd List.mem_cons_self kept
        | written written stored =>
          have different : written ≠ name := by
            rintro rfl
            exact last stored List.mem_cons_self
          rw [newest?, if_neg different]
          exact ih.mpr ⟨newer, older, rfl, fun cleared => kept (List.mem_cons_of_mem _ cleared),
            fun other written => last other (List.mem_cons_of_mem _ written)⟩

theorem newest?_write (log : Log) (entries : List (String × Option Value)) (name : String) :
    (log.write entries).newest? name = (entries.reverse.lookup name).getD (log.newest? name) := by
  rw [write, ← List.map_reverse]
  induction entries.reverse with
  | nil => rfl
  | cons entry earlier ih =>
    rw [lookup_cons, List.map_cons, List.cons_append, newest?, ih]
    split <;> rfl

theorem mem_entries_iff {log : Log} {name : String} {value : Value} :
    (name, value) ∈ log.entries ↔ log.newest? name = some value := by
  induction log with
  | nil => simp [entries, newest?]
  | cons event log ih =>
    cases event with
    | cleared => simp [entries, newest?]
    | written written stored =>
      rw [entries, newest?, List.mem_append, List.mem_filter, ih]
      by_cases same : written = name
      · cases stored <;> simp [same, eq_comm]
      · cases stored <;> simp [same, Ne.symm same]

theorem distinct_entries (log : Log) : (log.entries.map Prod.fst).Nodup := by
  induction log with
  | nil => exact List.nodup_nil
  | cons event log ih =>
    cases event with
    | cleared => exact List.nodup_nil
    | written written stored =>
      have older : (((entries log).filter fun entry => entry.1 != written).map Prod.fst).Nodup :=
        ih.sublist (List.filter_sublist.map Prod.fst)
      cases stored with
      | none => exact older
      | some value =>
        refine List.nodup_cons.mpr ⟨?_, older⟩
        intro repeated
        obtain ⟨entry, kept, same⟩ := List.mem_map.mp repeated
        exact absurd same (by simpa using (List.mem_filter.mp kept).2)

theorem lookup_entries (log : Log) (name : String) :
    log.entries.reverse.lookup name = log.newest? name := by
  ext value
  rw [lookup_of_perm (List.reverse_perm _) log.distinct_entries,
    lookup_eq_some_iff_mem log.distinct_entries, mem_entries_iff]

end Log

def Follows (bindings : Bindings) (log : Log) : Prop :=
  ∀ name, bindings.get? name = log.newest? name

namespace Follows

variable {bindings : Bindings} {log : Log}

theorem cleared (log : Log) : empty.Follows log.clear :=
  get?_empty

theorem enterAll (follows : bindings.Follows log) (entries : List (String × Option Value)) :
    (bindings.enterAll entries).Follows (log.write entries) := by
  intro name
  rw [get?_enterAll, Log.newest?_write, follows]

theorem insertAll (follows : bindings.Follows log) (pairs : List (String × Value)) :
    (bindings.insertAll pairs).Follows (log.write (given pairs)) := by
  rw [insertAll_eq_enterAll]
  exact follows.enterAll (given pairs)

theorem replaced {read : Option (List (String × Option Value))}
    (holds : read.map empty.enterAll = some bindings) (log : Log) :
    bindings.Follows (log.replace read) := by
  obtain ⟨entries, rfl, rfl⟩ := Option.map_eq_some_iff.mp holds
  exact (cleared log).enterAll entries

end Follows

/-- The logs of two tables after one more step. A merge writes the entries that the other table has
at that time. -/
def record (logs : Side → Log) (step : Step) (side : Side) : Log :=
  match step with
  | .edit target edit => if target = side then (logs side).edit edit else logs side
  | .merge target source =>
    if target = side then (logs side).write (given (logs source).entries) else logs side

def logsOf (steps : List Step) : Side → Log :=
  steps.foldl record fun _ => []

theorem insertArguments_singleton (bindings : Bindings) (text : String) :
    bindings.insertArguments [text] =
      (ofArgument? text).map fun pair => bindings.insert pair.1 pair.2 := by
  rw [insertArguments]
  cases ofArgument? text <;> rfl

theorem Follows.apply {bindings next : Bindings} {log : Log} {edit : Edit}
    (follows : bindings.Follows log) (applied : edit.apply bindings = .ok next) :
    next.Follows (log.edit edit) := by
  cases edit with
  | insert name value =>
    cases applied
    exact follows.insertAll [(name, value)]
  | collect pairs =>
    cases applied
    exact (Follows.cleared log).insertAll pairs
  | json text => exact .replaced (ofJson?_eq_ok_iff.mp applied) log
  | yaml text => exact .replaced (ofYaml?_eq_ok_iff.mp applied) log
  | argument text =>
    rw [Edit.apply, insertArguments_singleton] at applied
    rw [Log.edit]
    cases read : ofArgument? text with
    | error failure =>
      rw [read] at applied
      cases applied
    | ok pair =>
      rw [read] at applied
      cases applied
      exact follows.insertAll [pair]
  | extend other =>
    cases applied
    exact follows.insertAll other.toList

theorem Log.replace_of_unread {log : Log} {read : Option (List (String × Option Value))}
    (unread : ∀ table, read.map empty.enterAll ≠ some table) : log.replace read = log := by
  cases read with
  | none => rfl
  | some entries => exact absurd rfl (unread _)

theorem Log.edit_of_failure {bindings : Bindings} {edit : Edit} {failure : Failure} (log : Log)
    (failed : edit.apply bindings = .error failure) : log.edit edit = log := by
  cases edit with
  | insert name value => cases failed
  | collect pairs => cases failed
  | json text =>
    exact replace_of_unread fun table read => by
      cases failed.symm.trans (ofJson?_eq_ok_iff.mpr read)
  | yaml text =>
    exact replace_of_unread fun table read => by
      cases failed.symm.trans (ofYaml?_eq_ok_iff.mpr read)
  | argument text =>
    rw [Edit.apply, insertArguments_singleton] at failed
    rw [Log.edit]
    cases read : ofArgument? text with
    | error other => rfl
    | ok pair =>
      rw [read] at failed
      cases failed
  | extend other => cases failed

namespace Pair

variable {pair : Pair}

theorem get_set (pair : Pair) (target side : Side) (bindings : Bindings) :
    (pair.set target bindings).get side = if target = side then bindings else pair.get side := by
  cases target <;> cases side <;> rfl

theorem edit_cases (pair : Pair) (side : Side) (edit : Edit) :
    (∃ failure, edit.apply (pair.get side) = .error failure ∧
      pair.edit side edit = (pair, some failure)) ∨
    ∃ next, edit.apply (pair.get side) = .ok next ∧
      pair.edit side edit = (pair.set side next, none) := by
  rw [Pair.edit]
  cases applied : edit.apply (pair.get side) with
  | error failure => exact .inl ⟨failure, rfl, rfl⟩
  | ok next => exact .inr ⟨next, rfl, rfl⟩

theorem perform_of_failure {step : Step} {failure : Failure}
    (failed : (pair.perform step).2 = some failure) : (pair.perform step).1 = pair := by
  have unchanged (side : Side) (edit : Edit) (failed : (pair.edit side edit).2 = some failure) :
      (pair.edit side edit).1 = pair := by
    rcases pair.edit_cases side edit with ⟨other, -, edited⟩ | ⟨next, -, edited⟩
    · rw [edited]
    · rw [edited] at failed
      cases failed
  cases step with
  | edit side edit => exact unchanged side edit failed
  | merge side source => exact unchanged side _ failed

theorem follows_perform {logs : Side → Log}
    (follows : ∀ side, (pair.get side).Follows (logs side)) (step : Step) (side : Side) :
    ((pair.perform step).1.get side).Follows (record logs step side) := by
  cases step with
  | edit target edit =>
    rw [perform, record]
    rcases pair.edit_cases target edit with ⟨failure, failed, edited⟩ | ⟨next, applied, edited⟩
    · rw [edited, Log.edit_of_failure _ failed, ite_self]
      exact follows side
    · rw [edited, get_set]
      split
      · rename_i same
        subst same
        exact (follows target).apply applied
      · exact follows side
  | merge target source =>
    -- The source is read before the target changes, so they may be one table.
    rw [perform, record, Pair.edit, Edit.apply, get_set]
    split
    · rename_i same
      subst same
      intro name
      rw [get?_extend, Log.newest?_write, lookup_given, Log.lookup_entries, follows source,
        follows target]
      cases (logs source).newest? name <;> rfl
    · exact follows side

theorem follows_after (steps : List Step) (side : Side) :
    ((after steps).get side).Follows (logsOf steps side) := by
  have run : ∀ (pair : Pair) (logs : Side → Log),
      (∀ side, (pair.get side).Follows (logs side)) → ∀ side,
        ((steps.foldl (fun pair step => (pair.perform step).1) pair).get side).Follows
          (steps.foldl record logs side) := by
    induction steps with
    | nil => exact fun pair logs follows => follows
    | cons step steps ih =>
      exact fun pair logs follows => ih _ _ (follows_perform follows step)
  refine run empty _ ?_ side
  intro side name
  cases side <;> exact get?_empty name

end Pair

/-- After any run of steps on two tables, a name has the value that was written last under it and
not cleared since; what is present, the size and emptiness follow. A failing step changes nothing.
Collecting and merging obey the laws of such tables, and tables that agree on every name give every
expression the same verdict. -/
theorem tables_follow_writes (steps : List Step) :
    let pair := Pair.after steps
    let logs := logsOf steps
    (∀ side name value, (pair.get side).get? name = some value ↔
      ∃ newer older, logs side = newer ++ .written name (some value) :: older ∧
        .cleared ∉ newer ∧ ∀ other, .written name other ∉ newer) ∧
    (∀ side name, (pair.get side).contains name = true ↔
      ∃ value, (pair.get side).get? name = some value) ∧
    (∀ side, ∃ names : List String, names.Nodup ∧
      (∀ name, name ∈ names ↔ ∃ value, (pair.get side).get? name = some value) ∧
      (pair.get side).size = names.length) ∧
    (∀ side, (pair.get side).isEmpty = true ↔ (pair.get side).size = 0) ∧
    (∀ step failure, (pair.perform step).2 = some failure → (pair.perform step).1 = pair) ∧
    (∀ pairs later : List (String × Value),
      ofList (pairs ++ later) = (ofList pairs).extend (ofList later)) ∧
    (∀ first second third : Bindings,
      (first.extend second).extend third = first.extend (second.extend third)) ∧
    ∀ (others : List Step) (side other : Side),
      let table := pair.get side
      let same := (Pair.after others).get other
      (∀ name, table.get? name = same.get? name) →
        (∀ text, evaluate table text = evaluate same text) ∧
        ∀ tree : Expr, tree.evaluate table = tree.evaluate same := by
  intro pair logs
  have present (side : Side) (name : String) : (pair.get side).contains name = true ↔
      ∃ value, (pair.get side).get? name = some value := by
    rw [contains_eq_isSome_get?, Option.isSome_iff_exists]
  refine ⟨?_, present, ?_, fun side => isEmpty_iff_size_eq_zero _,
    fun step failure => Pair.perform_of_failure, ofList_append, extend_assoc, ?_⟩
  · intro side name value
    rw [Pair.follows_after steps side name, Log.newest?_eq_some_iff]
  · intro side
    obtain ⟨names, distinct, listed, length⟩ := (pair.get side).exists_names
    exact ⟨names, distinct, fun name => (listed name).trans (present side name), length⟩
  · intro others side other table same agree
    have equal : table = same := ext_get? agree
    rw [equal]
    exact ⟨fun _ => rfl, fun _ => rfl⟩

end Verdict.Bindings
