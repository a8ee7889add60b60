import Verdict.Json.Reader

/-! Two readers of one text. One reader mirrors another if it reads the same and shows it through a
view; where the view shows nothing, the text is refused. -/

namespace Verdict.Json.Reader

variable {α β γ σ τ : Type}

structure Mirrors (view : α → Option β) (reader : Reader α) (other : Reader β) : Prop where
  reads : ∀ {text result rest}, other.run text = .ok (result, rest) ↔
    ∃ value, reader.run text = .ok (value, rest) ∧ view value = some result

theorem andThen_eq_ok_iff {first : Reader α} {next : α → Reader β} {text rest : List Char}
    {result : β} :
    (first.andThen next).run text = .ok (result, rest) ↔
      ∃ value after, first.run text = .ok (value, after) ∧
        (next value).run after = .ok (result, rest) := by
  unfold andThen
  rw [Fallible.bind_eq_ok_iff, Prod.exists]

theorem convert_eq_ok_iff {reader : Reader α} {change : α → Except Fault β} {text rest : List Char}
    {result : β} :
    (reader.convert change).run text = .ok (result, rest) ↔
      ∃ value, reader.run text = .ok (value, rest) ∧ change value = .ok result := by
  unfold convert
  simp only [Fallible.bind_eq_ok_iff, Prod.exists, Except.ok.injEq, Prod.mk.injEq]
  constructor
  · rintro ⟨value, after, ran, changed, turned, rfl, rfl⟩
    exact ⟨value, ran, turned⟩
  · rintro ⟨value, ran, turned⟩
    exact ⟨value, rest, ran, result, turned, rfl, rfl⟩

theorem map_eq_ok_iff {reader : Reader α} {change : α → β} {text rest : List Char} {result : β} :
    (reader.map change).run text = .ok (result, rest) ↔
      ∃ value, reader.run text = .ok (value, rest) ∧ change value = result := by
  rw [map, convert_eq_ok_iff]
  simp only [Except.ok.injEq]

theorem whole_eq_ok_iff {reader : Reader α} {text : String} {value : α} :
    reader.whole text = .ok value ↔
      ∃ rest, reader.run text.toList = .ok (value, rest) ∧ skipBlank rest = [] := by
  unfold whole
  rw [Fallible.bind_eq_ok_iff, Prod.exists]
  constructor
  · rintro ⟨found, rest, ran, finished⟩
    by_cases blank : (skipBlank rest).isEmpty = true
    · obtain rfl := Except.ok.inj ((if_pos blank).symm.trans finished)
      exact ⟨rest, ran, List.isEmpty_iff.mp blank⟩
    · cases (if_neg blank).symm.trans finished
  · rintro ⟨rest, ran, blank⟩
    exact ⟨value, rest, ran, if_pos (List.isEmpty_iff.mpr blank)⟩

theorem items_eq_ok_iff {close : Char} {step : σ → Reader σ} {state result : σ}
    {text rest : List Char} :
    items close step state text = .ok (result, rest) ↔
      ∃ next after mark tail, (step state).run text = .ok (next, after) ∧
        skipBlank after = mark :: tail ∧
        (mark = close ∧ result = next ∧ rest = tail ∨
          mark ≠ close ∧ mark = ',' ∧ items close step next tail = .ok (result, rest)) := by
  rw [items]
  constructor
  · intro found
    split at found
    · cases found
    · rename_i next after ran
      split at found
      · cases found
      · rename_i mark tail blank
        refine ⟨next, after, mark, tail, ran, blank, ?_⟩
        split at found
        · rename_i closing
          cases found
          exact .inl ⟨beq_iff_eq.mp closing, rfl, rfl⟩
        · rename_i going
          split at found
          · rename_i comma
            exact .inr ⟨fun closing => going (beq_iff_eq.mpr closing), beq_iff_eq.mp comma, found⟩
          · cases found
  · rintro ⟨next, after, mark, tail, ran, blank, ends⟩
    split
    · rename_i failed
      rw [ran] at failed
      cases failed
    · rename_i other rest' ran'
      obtain ⟨rfl, rfl⟩ := Prod.mk.inj (Except.ok.inj (ran.symm.trans ran'))
      split
      · rename_i nothing
        rw [blank] at nothing
        cases nothing
      · rename_i first others shape
        obtain ⟨rfl, rfl⟩ := List.cons.inj (blank.symm.trans shape)
        rcases ends with ⟨closing, rfl, rfl⟩ | ⟨going, comma, more⟩
        · rw [if_pos (beq_iff_eq.mpr closing)]
        · rw [if_neg (fun closing => going (beq_iff_eq.mp closing)), if_pos (beq_iff_eq.mpr comma)]
          exact more

namespace Mirrors

variable {view : β → Option γ}

theorem andThen {first : Reader α} {next : α → Reader β} {other : α → Reader γ}
    (mirrors : ∀ value, Mirrors view (next value) (other value)) :
    Mirrors view (first.andThen next) (first.andThen other) := by
  constructor
  intro text result rest
  simp only [andThen_eq_ok_iff, (mirrors _).reads]
  constructor
  · rintro ⟨value, after, ran, found, further, seen⟩
    exact ⟨found, ⟨value, after, ran, further⟩, seen⟩
  · rintro ⟨found, ⟨value, after, ran, further⟩, seen⟩
    exact ⟨value, after, ran, found, further, seen⟩

theorem convert {reader : Reader α} {build : α → β} {δ : Type} {change : α → Except Fault δ}
    {finish : δ → γ}
    (same : ∀ {value result}, (∃ changed, change value = .ok changed ∧ finish changed = result) ↔
      view (build value) = some result) :
    Mirrors view (reader.map build) ((reader.convert change).map finish) := by
  constructor
  intro text result rest
  simp only [convert_eq_ok_iff, map_eq_ok_iff]
  constructor
  · rintro ⟨changed, ⟨value, ran, turned⟩, finished⟩
    exact ⟨_, ⟨value, ran, rfl⟩, same.mp ⟨changed, turned, finished⟩⟩
  · rintro ⟨_, ⟨value, ran, rfl⟩, seen⟩
    obtain ⟨changed, turned, finished⟩ := same.mpr seen
    exact ⟨changed, ⟨value, ran, turned⟩, finished⟩

theorem map {reader : Reader α} {other : Reader γ} {build : α → β}
    (mirrors : Mirrors (fun value => view (build value)) reader other) :
    Mirrors view (reader.map build) other := by
  constructor
  intro text result rest
  simp only [mirrors.reads, map_eq_ok_iff]
  constructor
  · rintro ⟨value, ran, seen⟩
    exact ⟨_, ⟨value, ran, rfl⟩, seen⟩
  · rintro ⟨_, ⟨value, ran, rfl⟩, seen⟩
    exact ⟨value, ran, seen⟩

theorem peek {choose : Option Char → Reader β} {other : Option Char → Reader γ}
    (mirrors : ∀ first, Mirrors view (choose first) (other first)) :
    Mirrors view (peek choose) (peek other) :=
  ⟨(mirrors _).reads⟩

theorem whole {reader : Reader β} {other : Reader γ} (mirrors : Mirrors view reader other)
    {text : String} {result : γ} :
    other.whole text = .ok result ↔
      ∃ value, reader.whole text = .ok value ∧ view value = some result := by
  simp only [whole_eq_ok_iff]
  constructor
  · rintro ⟨rest, ran, blank⟩
    obtain ⟨value, ran, seen⟩ := mirrors.reads.mp ran
    exact ⟨value, ⟨rest, ran, blank⟩, seen⟩
  · rintro ⟨value, ⟨rest, ran, blank⟩, seen⟩
    exact ⟨rest, mirrors.reads.mpr ⟨value, ran, seen⟩, blank⟩

section Series

variable {view : σ → Option τ} {close : Char} {step : σ → Reader σ} {other : τ → Reader τ}
  (steps : ∀ {state shown}, view state = some shown → Mirrors view (step state) (other shown))
  (stuck : ∀ {state next text rest}, view state = none →
    (step state).run text = .ok (next, rest) → view next = none)

include stuck in
theorem view_items_eq_none {state result : σ} {text rest : List Char} (hidden : view state = none)
    (found : items close step state text = .ok (result, rest)) : view result = none := by
  induction size : text.length using Nat.strongRecOn generalizing state text with
  | ind length ih =>
    subst size
    obtain ⟨next, after, mark, tail, ran, blank, ends⟩ := items_eq_ok_iff.mp found
    have hidden := stuck hidden ran
    rcases ends with ⟨-, rfl, -⟩ | ⟨-, -, more⟩
    · exact hidden
    · refine ih tail.length ?_ hidden more rfl
      have := (step state).shortens ran
      have := skipBlank_length_le after
      simp only [blank, List.length_cons] at this
      omega

include steps stuck in
theorem items {state : σ} {shown : τ} (seen : view state = some shown) {text rest : List Char}
    {result : τ} :
    items close other shown text = .ok (result, rest) ↔
      ∃ value, items close step state text = .ok (value, rest) ∧ view value = some result := by
  induction size : text.length using Nat.strongRecOn generalizing state shown text with
  | ind length ih =>
    subst size
    have shorter {next after mark tail} (ran : (step state).run text = .ok (next, after))
        (blank : skipBlank after = mark :: tail) : tail.length < text.length := by
      have := (step state).shortens ran
      have := skipBlank_length_le after
      simp only [blank, List.length_cons] at this
      omega
    constructor
    · intro found
      obtain ⟨next, after, mark, tail, ran, blank, ends⟩ := items_eq_ok_iff.mp found
      obtain ⟨value, stepped, seenValue⟩ := (steps seen).reads.mp ran
      rcases ends with ⟨closing, rfl, rfl⟩ | ⟨going, comma, more⟩
      · exact ⟨value, items_eq_ok_iff.mpr
          ⟨value, after, mark, rest, stepped, blank, .inl ⟨closing, rfl, rfl⟩⟩, seenValue⟩
      · obtain ⟨last, found, seenLast⟩ :=
          (ih tail.length (shorter stepped blank) seenValue rfl).mp more
        exact ⟨last, items_eq_ok_iff.mpr
          ⟨value, after, mark, tail, stepped, blank, .inr ⟨going, comma, found⟩⟩, seenLast⟩
    · rintro ⟨last, found, seenLast⟩
      obtain ⟨value, after, mark, tail, ran, blank, ends⟩ := items_eq_ok_iff.mp found
      rcases ends with ⟨closing, rfl, rfl⟩ | ⟨going, comma, more⟩
      · have stepped := (steps seen).reads.mpr ⟨last, ran, seenLast⟩
        exact items_eq_ok_iff.mpr
          ⟨result, after, mark, rest, stepped, blank, .inl ⟨closing, rfl, rfl⟩⟩
      · -- The shown loop stops at a hidden state; the other one goes on, but stays hidden.
        cases seenValue : view value with
        | none =>
          rw [view_items_eq_none stuck seenValue more] at seenLast
          cases seenLast
        | some shownValue =>
          have stepped := (steps seen).reads.mpr ⟨value, ran, seenValue⟩
          refine items_eq_ok_iff.mpr
            ⟨shownValue, after, mark, tail, stepped, blank, .inr ⟨going, comma, ?_⟩⟩
          exact (ih tail.length (shorter ran blank) seenValue rfl).mpr ⟨last, more, seenLast⟩

include steps stuck in
theorem series {state : σ} {shown : τ} (seen : view state = some shown) :
    Mirrors view (series close step state) (series close other shown) := by
  constructor
  intro text result rest
  change maybeItems close other shown text = _ ↔ ∃ value, maybeItems close step state text = _ ∧ _
  unfold maybeItems
  split
  · constructor
    · intro impossible
      cases impossible
    · rintro ⟨value, impossible, -⟩
      cases impossible
  · split
    · constructor
      · rintro ⟨⟩
        exact ⟨state, rfl, seen⟩
      · rintro ⟨_, ⟨⟩, other⟩
        rw [Option.some.inj (seen.symm.trans other)]
    · exact items steps stuck seen

end Series

end Mirrors

end Verdict.Json.Reader
