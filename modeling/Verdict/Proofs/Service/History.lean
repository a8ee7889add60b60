import Verdict.Proofs.RuleSet.Answer
import Verdict.Proofs.Text.ByteOrder
import Verdict.Service

/-! What the registries of a service hold after a run of steps: under every name the set that was
registered last. -/

namespace Verdict

namespace Registry

theorem get?_empty (name : String) : empty.get? name = none := by
  simp [get?, empty]

theorem get?_register (registry : Registry) (set : RuleSet) (name : String) :
    (registry.register set).get? name =
      if set.name = name then some set else registry.get? name := by
  simp [get?, register, Std.ExtTreeMap.getElem?_insert]

theorem mem_names_iff {registry : Registry} {name : String} :
    name ∈ registry.names ↔ ∃ set, registry.get? name = some set := by
  rw [names, Std.ExtTreeMap.mem_keys, Std.ExtTreeMap.mem_iff_isSome_getElem?,
    Option.isSome_iff_exists]
  exact Iff.rfl

theorem names_increase (registry : Registry) :
    registry.names.Pairwise fun first second => Text.bytes first < Text.bytes second := by
  refine List.Pairwise.imp ?_ (Std.ExtTreeMap.ordered_keys (t := registry.sets))
  intro first second less
  exact Text.bytes_lt_bytes_iff.mpr (compareOfLessAndEq_eq_lt.mp less)

def Compiled (registry : Registry) : Prop :=
  ∀ name set, registry.get? name = some set →
    set.name = name ∧ ∃ definition, RuleSet.compile definition = .ok set

theorem compiled_empty : empty.Compiled := by
  intro name set found
  rw [get?_empty] at found
  cases found

theorem Compiled.register {registry : Registry} {set : RuleSet} {definition : RuleSet.Definition}
    (compiled : registry.Compiled) (source : RuleSet.compile definition = .ok set) :
    (registry.register set).Compiled := by
  intro name stored found
  rw [get?_register] at found
  by_cases same : set.name = name
  · rw [if_pos same] at found
    cases found
    exact ⟨same, definition, source⟩
  · rw [if_neg same] at found
    exact compiled name stored found

end Registry

namespace Service

structure Registration where
  origin : Nat
  set : RuleSet

/-- The history of a run: for every handle the first handle on the registry that it shares, and the
successful registrations, the newest one first. -/
structure History where
  origins : List Nat
  registrations : List Registration

namespace History

def initial : History :=
  { origins := [0], registrations := [] }

def addRegistry (history : History) : History :=
  { history with origins := history.origins ++ [history.origins.length] }

def shareRegistry (history : History) (handle : Nat) : History :=
  match history.origins[handle]? with
  | some origin => { history with origins := history.origins ++ [origin] }
  | none => history

def register (history : History) (handle : Nat) (set : RuleSet) : History :=
  match history.origins[handle]? with
  | some origin => { history with registrations := { origin, set } :: history.registrations }
  | none => history

def define (history : History) (handle : Nat) (compiled : Except Failure RuleSet) : History :=
  match compiled with
  | .ok set => history.register handle set
  | .error _ => history

def add (history : History) : Step → History
  | .addRegistry => history.addRegistry
  | .shareRegistry handle => history.shareRegistry handle
  | .register handle definition => history.define handle (RuleSet.compile definition)
  | .registerYaml handle text =>
    history.define handle (RuleSet.Definition.ofYaml? text >>= RuleSet.compile)
  | .names _ | .get _ _ | .evaluate _ _ _ | .http _ _ => history

def of (steps : List Step) : History :=
  steps.foldl add initial

def Shares (history : History) (first second : Nat) : Prop :=
  history.origins[first]? = history.origins[second]?

instance (history : History) (first second : Nat) : Decidable (history.Shares first second) :=
  inferInstanceAs (Decidable (_ = _))

def newest? (history : History) (origin : Nat) (name : String) : Option RuleSet :=
  (history.registrations.find? fun entry => entry.origin == origin && entry.set.name == name).map
    Registration.set

/-- The set that was registered last under a name, through any handle on the same registry. -/
def latest? (history : History) (handle : Nat) (name : String) : Option RuleSet :=
  history.origins[handle]?.bind (history.newest? · name)

theorem latest?_eq_some_iff {history : History} {handle : Nat} {name : String} {set : RuleSet} :
    history.latest? handle name = some set ↔
      ∃ origin newer older, history.origins[handle]? = some origin ∧
        history.registrations = newer ++ ⟨origin, set⟩ :: older ∧ set.name = name ∧
        ∀ entry ∈ newer, ¬ (entry.origin = origin ∧ entry.set.name = name) := by
  simp only [latest?, newest?, Option.bind_eq_some_iff, Option.map_eq_some_iff,
    List.find?_eq_some_iff_append]
  constructor
  · rintro ⟨origin, known, ⟨found, set⟩, ⟨same, newer, older, split, quiet⟩, rfl⟩
    simp only [Bool.and_eq_true, beq_iff_eq] at same
    obtain ⟨rfl, rfl⟩ := same
    refine ⟨found, newer, older, known, split, rfl, ?_⟩
    intro entry member
    simpa [imp_iff_not_or] using quiet entry member
  · rintro ⟨origin, newer, older, known, split, rfl, quiet⟩
    refine ⟨origin, known, ⟨origin, set⟩, ⟨by simp, newer, older, split, ?_⟩, rfl⟩
    intro entry member
    simpa [imp_iff_not_or] using quiet entry member

end History

theorem getElem?_concat (numbers : List Nat) (last place : Nat) :
    (numbers ++ [last])[place]? =
      if place = numbers.length then some last else numbers[place]? := by
  rw [List.getElem?_append, List.getElem?_singleton]
  by_cases known : place < numbers.length
  · rw [if_pos known, if_neg (by omega)]
  · rw [if_neg known, List.getElem?_eq_none (by omega)]
    exact if_congr (by omega) rfl rfl

structure Parallel (left right : List Nat) : Prop where
  length : left.length = right.length
  same : ∀ first second : Nat, left[first]? = left[second]? ↔ right[first]? = right[second]?

theorem Parallel.append {left right : List Nat} {leftLast rightLast : Nat}
    (parallel : Parallel left right)
    (last : ∀ place : Nat, left[place]? = some leftLast ↔ right[place]? = some rightLast) :
    Parallel (left ++ [leftLast]) (right ++ [rightLast]) := by
  refine ⟨by simp [parallel.length], ?_⟩
  intro first second
  simp only [getElem?_concat, parallel.length]
  split_ifs
  · exact iff_of_true rfl rfl
  · rw [eq_comm, last second]
    exact eq_comm
  · exact last first
  · exact parallel.same first second

section Registries

variable {service : Service} {handle number : Nat}

theorem registry_initial (handle : Nat) : initial.registry handle = Registry.empty := by
  cases handle <;> simp [registry, initial]

theorem registry_addRegistry
    (bounded : ∀ number ∈ service.handles, number < service.registries.length) (handle : Nat) :
    service.addRegistry.registry handle = service.registry handle := by
  simp only [registry, addRegistry, getElem?_concat]
  split_ifs with last
  · -- The new registry is as empty as what an unknown handle leads to.
    simp [last]
  · cases known : service.handles[handle]? with
    | none => rfl
    | some number =>
      have below := bounded number (List.mem_of_getElem? known)
      rw [Option.bind_some, Option.bind_some, List.getElem?_append_left below]

theorem registry_shareRegistry (known : service.handles[handle]? = some number) (other : Nat) :
    (service.shareRegistry handle).registry other =
      if other = service.handles.length then service.registry handle
      else service.registry other := by
  simp only [registry, shareRegistry, known, getElem?_concat]
  split_ifs <;> rfl

theorem registry_register
    (bounded : ∀ number ∈ service.handles, number < service.registries.length)
    (known : service.handles[handle]? = some number) (set : RuleSet) (other : Nat) :
    (service.register handle set).registry other =
      if service.handles[other]? = service.handles[handle]? then
        (service.registry other).register set
      else service.registry other := by
  simp only [registry, register, known]
  cases target : service.handles[other]? with
  | none => simp
  | some place =>
    have below := bounded place (List.mem_of_getElem? target)
    by_cases same : number = place
    · simp [same, below]
    · simp [same, Ne.symm same]

end Registries

namespace History

variable {history : History} {handle origin : Nat}

theorem newest?_eq_none (fresh : ∀ entry ∈ history.registrations, entry.origin ≠ origin)
    (name : String) : history.newest? origin name = none := by
  rw [newest?, Option.map_eq_none_iff, List.find?_eq_none]
  intro entry member
  simp [fresh entry member]

theorem latest?_addRegistry
    (bounded : ∀ entry ∈ history.registrations, entry.origin < history.origins.length)
    (handle : Nat) (name : String) :
    history.addRegistry.latest? handle name = history.latest? handle name := by
  simp only [latest?, addRegistry, getElem?_concat]
  split_ifs with last
  · rw [List.getElem?_eq_none (Nat.le_of_eq last.symm)]
    exact newest?_eq_none (fun entry member => Nat.ne_of_lt (bounded entry member)) name
  · rfl

theorem latest?_shareRegistry (known : history.origins[handle]? = some origin) (other : Nat)
    (name : String) :
    (history.shareRegistry handle).latest? other name =
      if other = history.origins.length then history.latest? handle name
      else history.latest? other name := by
  simp only [latest?, shareRegistry, known, getElem?_concat]
  split_ifs <;> rfl

theorem latest?_register (known : history.origins[handle]? = some origin) (set : RuleSet)
    (other : Nat) (name : String) :
    (history.register handle set).latest? other name =
      if history.Shares other handle ∧ set.name = name then some set
      else history.latest? other name := by
  simp only [latest?, register, Shares, known]
  cases target : history.origins[other]? with
  | none => simp
  | some place =>
    simp only [Option.bind_some, newest?, List.find?_cons, Option.some.injEq]
    by_cases same : place = origin ∧ set.name = name
    · simp [same]
    · have skipped : (origin == place && set.name == name) = false := by
        simp only [Bool.and_eq_false_imp, beq_iff_eq, beq_eq_false_iff_ne]
        rintro rfl stored
        exact same ⟨rfl, stored⟩
      rw [if_neg same, skipped]

end History

structure Tracks (history : History) (service : Service) : Prop where
  parallel : Parallel history.origins service.handles
  origins_lt : ∀ origin ∈ history.origins, origin < history.origins.length
  registrations_lt : ∀ entry ∈ history.registrations, entry.origin < history.origins.length
  numbers_lt : ∀ number ∈ service.handles, number < service.registries.length
  found : ∀ handle name, (service.registry handle).get? name = history.latest? handle name
  compiled : ∀ registry ∈ service.registries, registry.Compiled

theorem tracks_initial : Tracks History.initial initial where
  parallel := ⟨rfl, fun _ _ => Iff.rfl⟩
  origins_lt := by simp [History.initial]
  registrations_lt := by simp [History.initial]
  numbers_lt := by simp [initial]
  found := by
    intro handle name
    rw [registry_initial, Registry.get?_empty]
    simp [History.initial, History.latest?, History.newest?]
  compiled := List.forall_mem_singleton.mpr Registry.compiled_empty

section Steps

variable {history : History} {service : Service}

theorem Tracks.unknown_or_known (tracks : Tracks history service) (handle : Nat) :
    (history.origins[handle]? = none ∧ service.handles[handle]? = none) ∨
      ∃ origin number, history.origins[handle]? = some origin ∧
        service.handles[handle]? = some number := by
  by_cases bound : handle < history.origins.length
  · have bound' := tracks.parallel.length ▸ bound
    exact .inr ⟨_, _, List.getElem?_eq_getElem bound, List.getElem?_eq_getElem bound'⟩
  · refine .inl ⟨List.getElem?_eq_none (by omega), List.getElem?_eq_none ?_⟩
    have := tracks.parallel.length
    omega

theorem Tracks.addRegistry (tracks : Tracks history service) :
    Tracks history.addRegistry service.addRegistry where
  parallel := by
    -- No earlier handle has the new origin, and none leads to the new registry.
    refine tracks.parallel.append fun place => iff_of_false ?_ ?_
    · intro known
      exact Nat.lt_irrefl _ (tracks.origins_lt _ (List.mem_of_getElem? known))
    · intro known
      exact Nat.lt_irrefl _ (tracks.numbers_lt _ (List.mem_of_getElem? known))
  origins_lt := by
    simp only [History.addRegistry, List.length_append, List.length_singleton]
    refine List.forall_mem_append.mpr ⟨?_, List.forall_mem_singleton.mpr (Nat.lt_succ_self _)⟩
    intro origin old
    exact Nat.lt_succ_of_lt (tracks.origins_lt origin old)
  registrations_lt := by
    intro entry member
    simp only [History.addRegistry, List.length_append, List.length_singleton]
    exact Nat.lt_succ_of_lt (tracks.registrations_lt entry member)
  numbers_lt := by
    simp only [Service.addRegistry, List.length_append, List.length_singleton]
    refine List.forall_mem_append.mpr ⟨?_, List.forall_mem_singleton.mpr (Nat.lt_succ_self _)⟩
    intro number old
    exact Nat.lt_succ_of_lt (tracks.numbers_lt number old)
  found := by
    intro handle name
    rw [registry_addRegistry tracks.numbers_lt,
      History.latest?_addRegistry tracks.registrations_lt, tracks.found]
  compiled :=
    List.forall_mem_append.mpr
      ⟨tracks.compiled, List.forall_mem_singleton.mpr Registry.compiled_empty⟩

theorem Tracks.shareRegistry (tracks : Tracks history service) (handle : Nat) :
    Tracks (history.shareRegistry handle) (service.shareRegistry handle) := by
  rcases tracks.unknown_or_known handle with
    ⟨noOrigin, noNumber⟩ | ⟨origin, number, hasOrigin, hasNumber⟩
  · simpa only [History.shareRegistry, Service.shareRegistry, noOrigin, noNumber] using tracks
  · have origins : (history.shareRegistry handle).origins = history.origins ++ [origin] := by
      simp [History.shareRegistry, hasOrigin]
    have registrations : (history.shareRegistry handle).registrations = history.registrations := by
      simp [History.shareRegistry, hasOrigin]
    have handles : (service.shareRegistry handle).handles = service.handles ++ [number] := by
      simp [Service.shareRegistry, hasNumber]
    have registries : (service.shareRegistry handle).registries = service.registries := by
      simp [Service.shareRegistry, hasNumber]
    constructor
    case parallel =>
      rw [origins, handles]
      refine tracks.parallel.append fun place => ?_
      rw [← hasOrigin, ← hasNumber]
      exact tracks.parallel.same place handle
    case origins_lt =>
      have below := tracks.origins_lt origin (List.mem_of_getElem? hasOrigin)
      rw [origins, List.length_append]
      intro known member
      apply Nat.lt_add_right
      exact List.forall_mem_append.mpr
        ⟨tracks.origins_lt, List.forall_mem_singleton.mpr below⟩ known member
    case registrations_lt =>
      rw [origins, registrations, List.length_append]
      intro entry member
      exact Nat.lt_add_right _ (tracks.registrations_lt entry member)
    case numbers_lt =>
      have below := tracks.numbers_lt number (List.mem_of_getElem? hasNumber)
      rw [handles, registries]
      exact List.forall_mem_append.mpr
        ⟨tracks.numbers_lt, List.forall_mem_singleton.mpr below⟩
    case found =>
      intro other name
      rw [registry_shareRegistry hasNumber, History.latest?_shareRegistry hasOrigin,
        tracks.parallel.length]
      split_ifs
      · exact tracks.found handle name
      · exact tracks.found other name
    case compiled =>
      rw [registries]
      exact tracks.compiled

theorem Tracks.register (tracks : Tracks history service) (handle : Nat)
    {definition : RuleSet.Definition} {set : RuleSet}
    (compiled : RuleSet.compile definition = .ok set) :
    Tracks (history.register handle set) (service.register handle set) := by
  rcases tracks.unknown_or_known handle with
    ⟨noOrigin, noNumber⟩ | ⟨origin, number, hasOrigin, hasNumber⟩
  · simpa only [History.register, Service.register, noOrigin, noNumber] using tracks
  · have origins : (history.register handle set).origins = history.origins := by
      simp [History.register, hasOrigin]
    have registrations : (history.register handle set).registrations =
        { origin, set } :: history.registrations := by
      simp [History.register, hasOrigin]
    have handles : (service.register handle set).handles = service.handles := by
      simp [Service.register, hasNumber]
    have registries : (service.register handle set).registries =
        service.registries.modify number (·.register set) := by
      simp [Service.register, hasNumber]
    constructor
    case parallel =>
      rw [origins, handles]
      exact tracks.parallel
    case origins_lt =>
      rw [origins]
      exact tracks.origins_lt
    case registrations_lt =>
      rw [origins, registrations]
      exact List.forall_mem_cons.mpr
        ⟨tracks.origins_lt origin (List.mem_of_getElem? hasOrigin), tracks.registrations_lt⟩
    case numbers_lt =>
      rw [handles, registries, List.length_modify]
      exact tracks.numbers_lt
    case found =>
      intro other name
      have same : service.handles[other]? = service.handles[handle]? ↔
          history.Shares other handle := (tracks.parallel.same other handle).symm
      rw [registry_register tracks.numbers_lt hasNumber, History.latest?_register hasOrigin,
        ← tracks.found, if_congr same rfl rfl]
      by_cases shared : history.Shares other handle
      · rw [if_pos shared, Registry.get?_register]
        exact if_congr (and_iff_right shared).symm rfl rfl
      · rw [if_neg shared, if_neg fun both => shared both.1]
    case compiled =>
      rw [registries]
      intro registry member
      obtain ⟨place, found⟩ := List.mem_iff_getElem?.mp member
      rw [List.getElem?_modify] at found
      obtain ⟨former, present, rfl⟩ := Option.map_eq_some_iff.mp found
      have old := tracks.compiled former (List.mem_of_getElem? present)
      split_ifs
      · exact old.register compiled
      · exact old

theorem defineAnswer_fst (service : Service) (handle : Nat)
    (definition : Except Failure RuleSet.Definition) :
    (service.defineAnswer handle definition).1 =
      match definition >>= RuleSet.compile with
      | .ok set => service.register handle set
      | .error _ => service := by
  cases definition with
  | error failure => rfl
  | ok written =>
    simp only [defineAnswer, Service.define, bind, Except.bind]
    cases RuleSet.compile written <;> rfl

theorem Tracks.define (tracks : Tracks history service) (handle : Nat)
    (definition : Except Failure RuleSet.Definition) :
    Tracks (history.define handle (definition >>= RuleSet.compile))
      (service.defineAnswer handle definition).1 := by
  rw [defineAnswer_fst]
  cases result : definition >>= RuleSet.compile with
  | error failure => exact tracks
  | ok set =>
    obtain ⟨written, -, compiled⟩ := Fallible.bind_eq_ok_iff.mp result
    exact tracks.register handle compiled

theorem Tracks.perform (tracks : Tracks history service) (step : Step) :
    Tracks (history.add step) (service.perform step).1 := by
  cases step with
  | addRegistry => exact tracks.addRegistry
  | shareRegistry handle => exact tracks.shareRegistry handle
  | register handle definition => exact tracks.define handle (.ok definition)
  | registerYaml handle text => exact tracks.define handle (RuleSet.Definition.ofYaml? text)
  | names handle => exact tracks
  | get handle name => exact tracks
  | evaluate handle name bindings => exact tracks
  | http handle request => exact tracks

theorem Tracks.after (tracks : Tracks history service) (steps : List Step) :
    Tracks (steps.foldl History.add history) (service.after steps) := by
  induction steps generalizing history service with
  | nil => exact tracks
  | cons step steps ih => exact ih (tracks.perform step)

end Steps

def Step.Quiet : Step → Prop
  | .addRegistry | .shareRegistry _ => False
  | .register _ definition => ∃ failure, RuleSet.compile definition = .error failure
  | .registerYaml _ text =>
    ∃ failure, (RuleSet.Definition.ofYaml? text >>= RuleSet.compile) = .error failure
  | .names _ | .get _ _ | .evaluate _ _ _ | .http _ _ => True

theorem perform_quiet {service : Service} {step : Step} (quiet : step.Quiet) :
    (service.perform step).1 = service := by
  cases step with
  | addRegistry => exact quiet.elim
  | shareRegistry handle => exact quiet.elim
  | register handle definition =>
    obtain ⟨failure, failed⟩ := quiet
    simp only [perform, defineAnswer_fst, bind, Except.bind, failed]
  | registerYaml handle text =>
    obtain ⟨failure, failed⟩ := quiet
    rw [perform, defineAnswer_fst, failed]
  | names handle => rfl
  | get handle name => rfl
  | evaluate handle name bindings => rfl
  | http handle request => rfl

def Step.handle? : Step → Option Nat
  | .addRegistry => none
  | .shareRegistry handle | .register handle _ | .registerYaml handle _ | .names handle
  | .get handle _ | .evaluate handle _ _ | .http handle _ => some handle

section Apart

variable {history : History} {service : Service} {handle other : Nat}

theorem Tracks.register_apart (tracks : Tracks history service)
    (apart : ¬ history.Shares other handle) (set : RuleSet) :
    (service.register handle set).registry other = service.registry other := by
  rcases tracks.unknown_or_known handle with ⟨-, unknown⟩ | ⟨-, number, -, known⟩
  · simp only [Service.register, unknown]
  · rw [registry_register tracks.numbers_lt known]
    exact if_neg fun same => apart ((tracks.parallel.same other handle).mpr same)

theorem Tracks.defineAnswer_apart (tracks : Tracks history service)
    (apart : ¬ history.Shares other handle) (definition : Except Failure RuleSet.Definition) :
    (service.defineAnswer handle definition).1.registry other = service.registry other := by
  rw [defineAnswer_fst]
  cases definition >>= RuleSet.compile with
  | error failure => rfl
  | ok set => exact tracks.register_apart apart set

theorem Tracks.perform_apart (tracks : Tracks history service) {step : Step}
    (through : step.handle? = some handle) (known : other < service.handles.length)
    (apart : ¬ history.Shares other handle) :
    (service.perform step).1.registry other = service.registry other := by
  cases step <;> cases through
  case shareRegistry =>
    rcases tracks.unknown_or_known handle with ⟨-, unknown⟩ | ⟨-, number, -, present⟩
    · simp only [Service.perform, Service.shareRegistry, unknown]
    · rw [Service.perform, registry_shareRegistry present]
      exact if_neg (Nat.ne_of_lt known)
  case register definition => exact tracks.defineAnswer_apart apart (.ok definition)
  case registerYaml text => exact tracks.defineAnswer_apart apart _
  all_goals rfl

end Apart

/-- After any run of steps, a registry holds under every name the set that was last registered
through one of its handles, and lists its names in the order of their bytes. Steps other than new
handles and successful registrations change nothing; what happens through a handle stays within
its registry. Every set has come from the compiler. -/
theorem registries_follow_history (steps : List Step) :
    let service := initial.after steps
    let history := History.of steps
    (∀ handle name,
      (service.perform (.get handle name)).2 = .set (history.latest? handle name)) ∧
    (∀ handle name set, (service.perform (.get handle name)).2 = .set (some set) ↔
      ∃ origin newer older, history.origins[handle]? = some origin ∧
        history.registrations = newer ++ ⟨origin, set⟩ :: older ∧ set.name = name ∧
        ∀ entry ∈ newer, ¬ (entry.origin = origin ∧ entry.set.name = name)) ∧
    (∀ handle, ∃ names, (service.perform (.names handle)).2 = .names names ∧
      names.Pairwise (fun first second => Text.bytes first < Text.bytes second) ∧
      ∀ name, name ∈ names ↔ ∃ set, history.latest? handle name = some set) ∧
    (∀ step : Step, step.Quiet → (service.perform step).1 = service) ∧
    (∀ (step : Step) (handle other : Nat), step.handle? = some handle →
      other < service.handles.length → ¬ history.Shares other handle →
      (service.perform step).1.registry other = service.registry other) ∧
    ∀ registry ∈ service.registries, ∀ name set, registry.get? name = some set →
      set.name = name ∧ (set.rules.map Rule.name).Nodup ∧
      ∀ rule ∈ set.rules, Verdict.compile rule.source = .ok rule.expr := by
  intro service history
  have tracks : Tracks history service := tracks_initial.after steps
  have answer (handle : Nat) (name : String) :
      (service.perform (.get handle name)).2 = .set (history.latest? handle name) := by
    rw [← tracks.found]
    rfl
  refine ⟨answer, ?_, ?_, fun step quiet => perform_quiet quiet, ?_, ?_⟩
  · intro handle name set
    rw [answer, Answer.set.injEq]
    exact History.latest?_eq_some_iff
  · intro handle
    refine ⟨_, rfl, Registry.names_increase _, ?_⟩
    intro name
    rw [Registry.mem_names_iff, tracks.found]
  · intro step handle other through known apart
    exact tracks.perform_apart through known apart
  · intro registry member name set found
    obtain ⟨same, definition, compiled⟩ := tracks.compiled registry member name set found
    obtain ⟨-, -, -, exprs, distinct⟩ := RuleSet.compile_eq_ok_iff.mp compiled
    exact ⟨same, distinct, exprs⟩

end Service

end Verdict
