import Verdict.Proofs.Evaluation.Surfaces
import Verdict.Proofs.Text.Trim
import Verdict.Proofs.Token.Boundary

/-! The bindings of a command. Its arguments override the file from left to right, and the first
fault of the file or of an argument is all that the command reports. -/

namespace Verdict

namespace Argument

/-- What an argument binds a name to. The first equals sign stands between the name and the literal,
and white space around either does not count. -/
inductive Binds (argument name : String) : Value → Prop
  | divided {before after literal : String} (text : argument = before ++ "=" ++ after)
      (first : '=' ∉ before.toList) (trimmed : Text.TrimsTo before name) (given : name ≠ "")
      (denoted : Text.TrimsTo after literal) : Binds argument name (Value.ofToken literal)

def IsBinding (argument : String) : Prop :=
  ∃ name value, Binds argument name value

/-- Why an argument binds nothing, and how that is put. -/
inductive BindsNothing (argument : String) : String → Prop
  | undivided (unmarked : '=' ∉ argument.toList) :
      BindsNothing argument ("missing '=' in '" ++ argument ++ "'")
  | unnamed {before after : String} (text : argument = before ++ "=" ++ after)
      (first : '=' ∉ before.toList) (blank : ∀ char ∈ before.toList, Text.isBlank char = true) :
      BindsNothing argument ("empty name in '" ++ argument ++ "'")

theorem divided_or_not (argument : String) :
    '=' ∉ argument.toList ∨
      ∃ before after, argument = before ++ "=" ++ after ∧ '=' ∉ before.toList := by
  refine or_iff_not_imp_left.mpr fun marked => ?_
  obtain ⟨before, after, split, first⟩ := List.eq_append_cons_of_mem (not_not.mp marked)
  refine ⟨String.ofList before, String.ofList after, ?_, by simpa using first⟩
  rw [← String.toList_inj, split]
  simp

end Argument

namespace Bindings

inductive Overridden (table : Bindings) (arguments : List String) (name : String) :
    Option Value → Prop
  | last {before after : List String} {argument : String} {value : Value}
      (split : arguments = before ++ argument :: after) (binds : Argument.Binds argument name value)
      (silent : ∀ later ∈ after, ∀ value, ¬Argument.Binds later name value) :
      Overridden table arguments name (some value)
  | untouched (silent : ∀ argument ∈ arguments, ∀ value, ¬Argument.Binds argument name value) :
      Overridden table arguments name (table.get? name)

section Argument

variable {argument before after name : String} {value : Value} {failure : Failure}

theorem ofArgument?_undivided (unmarked : '=' ∉ argument.toList) :
    ofArgument? argument =
      .error (.invalidBinding ("missing '=' in '" ++ argument ++ "'")) := by
  have dropped : argument.toList.dropWhile (· != '=') = [] := by
    rw [List.dropWhile_eq_nil_iff]
    intro char member
    rw [bne_iff_ne]
    rintro rfl
    exact unmarked member
  simp only [ofArgument?, dropped]

theorem ofArgument?_divided (first : '=' ∉ before.toList) (after : String) :
    ofArgument? (before ++ "=" ++ after) =
      if Text.trim before.toList = [] then
        .error (.invalidBinding ("empty name in '" ++ (before ++ "=" ++ after) ++ "'"))
      else
        .ok (String.ofList (Text.trim before.toList),
          Value.ofToken (String.ofList (Text.trim after.toList))) := by
  have text : (before ++ "=" ++ after).toList = before.toList ++ '=' :: after.toList := by simp
  obtain ⟨taken, dropped⟩ := Lexeme.cut_before first after.toList
  simp only [ofArgument?, text, taken, dropped, List.isEmpty_iff]

theorem ofArgument?_eq_ok_iff :
    ofArgument? argument = .ok (name, value) ↔ Argument.Binds argument name value := by
  constructor
  · intro found
    rcases Argument.divided_or_not argument with unmarked | ⟨before, after, rfl, first⟩
    · rw [ofArgument?_undivided unmarked] at found
      cases found
    · rw [ofArgument?_divided first] at found
      split at found
      · cases found
      · rename_i named
        obtain ⟨rfl, rfl⟩ := Prod.mk.inj (Except.ok.inj found)
        refine .divided rfl first (Text.trim_eq_iff.mp ?_) ?_ (Text.trim_eq_iff.mp ?_)
        · rw [String.toList_ofList]
        · rwa [ne_eq, ← String.toList_eq_nil_iff, String.toList_ofList]
        · rw [String.toList_ofList]
  · rintro ⟨rfl, first, trimmed, given, denoted⟩
    rw [ofArgument?_divided first, Text.trim_eq_iff.mpr trimmed, Text.trim_eq_iff.mpr denoted,
      if_neg (mt String.toList_eq_nil_iff.mp given), String.ofList_toList, String.ofList_toList]

theorem ofArgument?_eq_error_iff :
    ofArgument? argument = .error failure ↔
      ∃ reason, Argument.BindsNothing argument reason ∧ failure = .invalidBinding reason := by
  constructor
  · intro failed
    rcases Argument.divided_or_not argument with unmarked | ⟨before, after, rfl, first⟩
    · rw [ofArgument?_undivided unmarked] at failed
      exact ⟨_, .undivided unmarked, (Except.error.inj failed).symm⟩
    · rw [ofArgument?_divided first] at failed
      split at failed
      · rename_i empty
        exact ⟨_, .unnamed rfl first (Text.trim_eq_nil_iff.mp empty),
          (Except.error.inj failed).symm⟩
      · cases failed
  · rintro ⟨reason, nothing, rfl⟩
    cases nothing with
    | undivided unmarked => exact ofArgument?_undivided unmarked
    | unnamed text first blank =>
      rw [text, ofArgument?_divided first, if_pos (Text.trim_eq_nil_iff.mpr blank)]

theorem binds_or_nothing (argument : String) :
    Argument.IsBinding argument ∨ ∃ reason, Argument.BindsNothing argument reason := by
  cases read : ofArgument? argument with
  | ok pair => exact .inl ⟨pair.1, pair.2, ofArgument?_eq_ok_iff.mp read⟩
  | error failure =>
    obtain ⟨reason, nothing, -⟩ := ofArgument?_eq_error_iff.mp read
    exact .inr ⟨reason, nothing⟩

end Argument

section Arguments

variable {table bindings : Bindings} {arguments before after : List String} {argument : String}

theorem insertArguments_cons (pair : String × Value) (read : ofArgument? argument = .ok pair) :
    table.insertArguments (argument :: arguments) =
      (table.insert pair.1 pair.2).insertArguments arguments := by
  rw [insertArguments, read]
  rfl

theorem exists_insertArguments (binding : ∀ argument ∈ arguments, Argument.IsBinding argument) :
    ∃ bindings, table.insertArguments arguments = .ok bindings ∧
      ∀ name, Overridden table arguments name (bindings.get? name) := by
  induction arguments generalizing table with
  | nil => exact ⟨table, rfl, fun name => .untouched (by simp)⟩
  | cons argument rest ih =>
    obtain ⟨⟨bound, value, binds⟩, binding⟩ := List.forall_mem_cons.mp binding
    obtain ⟨bindings, inserted, overridden⟩ := @ih (table.insert bound value) binding
    refine ⟨bindings, ?_, fun name => ?_⟩
    · rw [insertArguments_cons _ (ofArgument?_eq_ok_iff.mpr binds), inserted]
    · generalize found : bindings.get? name = result
      cases found ▸ overridden name with
      | @last front back other _ split later silent =>
        have longer : argument :: rest = (argument :: front) ++ other :: back :=
          congrArg (argument :: ·) split
        exact .last longer later silent
      | untouched silent =>
        rw [get?_insert]
        by_cases same : bound = name
        · subst same
          rw [if_pos rfl]
          exact .last (List.nil_append _).symm binds silent
        · rw [if_neg same]
          refine .untouched (List.forall_mem_cons.mpr ⟨fun other alsoBinds => ?_, silent⟩)
          have read := ofArgument?_eq_ok_iff.mpr binds
          rw [ofArgument?_eq_ok_iff.mpr alsoBinds] at read
          exact same (congrArg Prod.fst (Except.ok.inj read)).symm

theorem insertArguments_eq_error {reason : String}
    (binding : ∀ argument ∈ before, Argument.IsBinding argument)
    (nothing : Argument.BindsNothing argument reason) :
    table.insertArguments (before ++ argument :: after) = .error (.invalidBinding reason) := by
  induction before generalizing table with
  | nil =>
    rw [List.nil_append, insertArguments, ofArgument?_eq_error_iff.mpr ⟨reason, nothing, rfl⟩]
    rfl
  | cons first rest ih =>
    obtain ⟨⟨name, value, binds⟩, binding⟩ := List.forall_mem_cons.mp binding
    rw [List.cons_append, insertArguments_cons _ (ofArgument?_eq_ok_iff.mpr binds)]
    exact ih binding

end Arguments

end Bindings

open Argument (IsBinding BindsNothing)
open Bindings (Overridden)

namespace BindingSource

def table? (source : BindingSource) (read : String → Option String) : Except Failure Bindings :=
  match source.file with
  | some path => Bindings.ofContent? path (read path)
  | none => .ok .empty

/-- What is reported of a source: the failure of its file, or else the first argument that binds
nothing. -/
inductive FirstFault (source : BindingSource) (read : String → Option String) : String → Prop
  | file {path : String} {failure : Failure} (given : source.file = some path)
      (failed : Bindings.ofContent? path (read path) = .error failure) :
      FirstFault source read ("Failed to load bindings from " ++ Text.quoted path)
  | argument {table : Bindings} {before after : List String} {argument reason : String}
      (loaded : source.table? read = .ok table)
      (split : source.arguments = before ++ argument :: after)
      (binding : ∀ earlier ∈ before, IsBinding earlier)
      (nothing : BindsNothing argument reason) :
      FirstFault source read ("Invalid binding: " ++ reason)

variable {source : BindingSource} {read : String → Option String}

theorem loadBindings_of_table? {table : Bindings} (loaded : source.table? read = .ok table) :
    Command.loadBindings read source =
      match table.insertArguments source.arguments with
      | .ok bindings => .ok bindings
      | .error failure => .error failure.message := by
  unfold table? at loaded
  unfold Command.loadBindings
  cases given : source.file with
  | some path =>
    rw [given] at loaded
    dsimp only at loaded ⊢
    rw [loaded]
    rfl
  | none =>
    rw [given] at loaded
    obtain rfl := Except.ok.inj loaded
    rfl

theorem exists_loadBindings {table : Bindings} (loaded : source.table? read = .ok table)
    (binding : ∀ argument ∈ source.arguments, IsBinding argument) :
    ∃ bindings, Command.loadBindings read source = .ok bindings ∧
      ∀ name, Overridden table source.arguments name (bindings.get? name) := by
  obtain ⟨bindings, inserted, overridden⟩ := Bindings.exists_insertArguments binding
  refine ⟨bindings, ?_, overridden⟩
  rw [loadBindings_of_table? loaded, inserted]

theorem FirstFault.loadBindings_eq {complaint : String} (fault : source.FirstFault read complaint) :
    Command.loadBindings read source = .error complaint := by
  cases fault with
  | file given failed =>
    unfold Command.loadBindings
    simp only [given, failed]
    rfl
  | argument loaded split binding nothing =>
    rw [loadBindings_of_table? loaded, split, Bindings.insertArguments_eq_error binding nothing]
    rfl

theorem exists_first {arguments : List String} {argument reason : String}
    (member : argument ∈ arguments) (nothing : BindsNothing argument reason) :
    ∃ before first after reason, arguments = before ++ first :: after ∧
      (∀ earlier ∈ before, IsBinding earlier) ∧ BindsNothing first reason := by
  induction arguments with
  | nil => cases member
  | cons head rest ih =>
    rcases Bindings.binds_or_nothing head with binds | ⟨headReason, headNothing⟩
    · have later : argument ∈ rest := by
        rcases List.mem_cons.mp member with rfl | later
        · obtain ⟨name, value, binds⟩ := binds
          have read := Bindings.ofArgument?_eq_ok_iff.mpr binds
          rw [Bindings.ofArgument?_eq_error_iff.mpr ⟨_, nothing, rfl⟩] at read
          cases read
        · exact later
      obtain ⟨before, first, after, found, rfl, binding, firstNothing⟩ := ih later
      exact ⟨head :: before, first, after, found, rfl,
        List.forall_mem_cons.mpr ⟨binds, binding⟩, firstNothing⟩
    · exact ⟨[], head, rest, headReason, rfl, by simp, headNothing⟩

theorem exists_firstFault
    (faulty : (∃ failure, source.table? read = .error failure) ∨
      ∃ argument ∈ source.arguments, ∃ reason, BindsNothing argument reason) :
    ∃ complaint, source.FirstFault read complaint := by
  cases loaded : source.table? read with
  | error failure =>
    unfold table? at loaded
    split at loaded
    · rename_i path given
      exact ⟨_, .file given loaded⟩
    · cases loaded
  | ok table =>
    rcases faulty with ⟨failure, failed⟩ | ⟨argument, member, reason, nothing⟩
    · rw [loaded] at failed
      cases failed
    · obtain ⟨before, first, after, found, split, binding, firstNothing⟩ :=
        exists_first member nothing
      exact ⟨_, .argument loaded split binding firstNothing⟩

end BindingSource

namespace Command

/-- A command that takes bindings from a source, and what it reports once it has them. A check has
to have its rule set first. -/
inductive Takes (source : BindingSource) (read : String → Option String) :
    Command → (Bindings → Report) → Prop
  | evaluate (expression : String) :
      Takes source read (.evaluate expression source) (reportEvaluation expression)
  | check {rules : String} {set : RuleSet} (loaded : RuleSet.ofContent? (read rules) = .ok set) :
      Takes source read (.check rules source) (reportCheck set)

theorem Takes.run_eq {source : BindingSource} {read : String → Option String} {command : Command}
    {report : Bindings → Report} (takes : Takes source read command report) :
    command.run read = ofLoaded (loadBindings read source) report := by
  cases takes with
  | evaluate expression => rfl
  | check loaded =>
    rw [run, loaded]
    rfl

/-- A command uses the table of its file overridden by its arguments, of which the last one for a
name counts. If the file fails or an argument binds nothing, all that the command does is report the
first such fault. -/
theorem bindings_overridden_or_refused (read : String → Option String) (source : BindingSource) :
    (∀ table, source.table? read = .ok table →
      (∀ argument ∈ source.arguments, IsBinding argument) →
      ∃ bindings, (∀ name, Overridden table source.arguments name (bindings.get? name)) ∧
        ∀ arguments command report, ofArguments? arguments = some command →
          Takes source read command report →
          Exit.ofArguments read arguments = Exit.ofReport (report bindings)) ∧
    ((∃ failure, source.table? read = .error failure) ∨
        (∃ argument ∈ source.arguments, ∃ reason, BindsNothing argument reason) →
      ∃ complaint, source.FirstFault read complaint) ∧
    ∀ complaint, source.FirstFault read complaint →
      ∀ arguments command report, ofArguments? arguments = some command →
        Takes source read command report →
        Exit.ofArguments read arguments =
          { code := 1, output := "", errors := "Error: " ++ complaint ++ "\n" } := by
  refine ⟨?_, BindingSource.exists_firstFault, ?_⟩
  · intro table loaded binding
    obtain ⟨bindings, bound, overridden⟩ := BindingSource.exists_loadBindings loaded binding
    refine ⟨bindings, overridden, fun arguments command report parsed takes => ?_⟩
    rw [Exit.ofArguments_eq parsed, takes.run_eq, bound]
    rfl
  · intro complaint fault arguments command report parsed takes
    rw [Exit.ofArguments_eq parsed, takes.run_eq, fault.loadBindings_eq]
    rfl

theorem argument_overrides_file :
    let read (_ : String) : Option String := some "\x7b\"A\": 1\x7d"
    Exit.ofArguments read ["eval", "-eA", "-bt.json", "--var= A = true"] = .success ["true"] ∧
      Exit.ofArguments read ["eval", "-eA", "-bt.json", "--var=A=true", "--var=B", "--var= =2"] =
        .failure [] "Invalid binding: missing '=' in 'B'" := by
  intro read
  obtain ⟨table, loaded⟩ : ∃ table, Bindings.ofContent? "t.json" (read "t.json") = .ok table := by
    have decoded : (Bindings.ofContent? "t.json" (read "t.json")).toOption.isSome = true := by
      decide +kernel
    cases found : Bindings.ofContent? "t.json" (read "t.json") with
    | ok table => exact ⟨table, rfl⟩
    | error failure => rw [found] at decoded; cases decoded
  have binds {argument : String} {value : Value}
      (found : Bindings.ofArgument? argument = .ok ("A", value)) : IsBinding argument :=
    ⟨_, _, Bindings.ofArgument?_eq_ok_iff.mp found⟩
  constructor
  · let source : BindingSource := { file := some "t.json", arguments := [" A = true"] }
    have denoted : Bindings.ofArgument? " A = true" = .ok ("A", .boolean true) := by rfl
    obtain ⟨bindings, overridden, uses⟩ := (bindings_overridden_or_refused read source).1 table
      loaded (List.forall_mem_singleton.mpr (binds denoted))
    have bound : bindings.get? "A" = some (.boolean true) := by
      generalize found : bindings.get? "A" = result
      cases found ▸ overridden "A" with
      | @last front _ _ _ split binds _ =>
        cases front with
        | nil =>
          obtain ⟨rfl, -⟩ := List.cons.inj split
          have same := (Bindings.ofArgument?_eq_ok_iff.mpr binds).symm.trans denoted
          rw [(Prod.mk.inj (Except.ok.inj same)).2]
        | cons first rest => simp [source] at split
      | untouched silent =>
        exact absurd (Bindings.ofArgument?_eq_ok_iff.mp denoted)
          (silent " A = true" (List.mem_singleton_self _) _)
    have compiled : Verdict.compile "A" = .ok (.atom (.bare "A")) :=
      compile_leaf ⟨"A", by decide, .bare⟩ (by decide) (by decide +kernel)
    have evaluated : Verdict.evaluate bindings "A" = .ok true := by
      rw [evaluate_of_compile compiled, Expr.evaluate, Atom.evaluate, Bindings.truth?, bound]
      rfl
    rw [uses _ (.evaluate "A" source) _ (by decide) (.evaluate "A")]
    exact Exit.reportEvaluation_eq_success_iff.mpr evaluated
  · let source : BindingSource := { file := some "t.json", arguments := ["A=true", "B", " =2"] }
    have first : Bindings.ofArgument? "A=true" = .ok ("A", .boolean true) := by rfl
    have split : source.arguments = ["A=true"] ++ "B" :: [" =2"] := rfl
    have nothing : BindsNothing "B" ("missing '=' in '" ++ "B" ++ "'") := .undivided (by decide)
    have fault : source.FirstFault read _ :=
      .argument loaded split (List.forall_mem_singleton.mpr (binds first)) nothing
    exact (bindings_overridden_or_refused read source).2.2 _ fault _ (.evaluate "A" source) _
      (by decide) (.evaluate "A")

end Command

end Verdict
