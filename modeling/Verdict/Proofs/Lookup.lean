import Mathlib.Data.List.Nodup

/-! Lists of keys with values. Where no key occurs twice, to look a key up is to search the list for
the pair, and the order of the list does not count. -/

namespace Verdict

variable {α β : Type} [BEq α] [LawfulBEq α] {pairs other : List (α × β)}

theorem lookup_cons [DecidableEq α] (pair : α × β) (pairs : List (α × β)) (key : α) :
    (pair :: pairs).lookup key = if pair.1 = key then some pair.2 else pairs.lookup key := by
  rw [List.lookup_cons]
  by_cases same : pair.1 = key
  · rw [beq_iff_eq.mpr same.symm, if_pos same]
  · rw [beq_false_of_ne (Ne.symm same), if_neg same]

theorem lookup_eq_some_iff_mem (distinct : (pairs.map Prod.fst).Nodup) {key : α} {value : β} :
    pairs.lookup key = some value ↔ (key, value) ∈ pairs := by
  classical
  induction pairs with
  | nil => simp
  | cons pair rest ih =>
    obtain ⟨fresh, others⟩ := List.nodup_cons.mp distinct
    rw [lookup_cons, List.mem_cons]
    by_cases same : pair.1 = key
    · have absent : (key, value) ∉ rest := fun later => fresh (same ▸ List.mem_map_of_mem later)
      rw [if_pos same, or_iff_left absent, Prod.ext_iff]
      simp [same, eq_comm]
    · have different : (key, value) ≠ pair := fun found => same (congrArg Prod.fst found).symm
      rw [if_neg same, ih others, or_iff_right different]

theorem lookup_of_perm (perm : other.Perm pairs) (distinct : (pairs.map Prod.fst).Nodup) (key : α) :
    other.lookup key = pairs.lookup key := by
  have otherDistinct : (other.map Prod.fst).Nodup := (perm.map Prod.fst).nodup_iff.mpr distinct
  refine Option.ext fun value => ?_
  rw [lookup_eq_some_iff_mem distinct, lookup_eq_some_iff_mem otherDistinct, perm.mem_iff]

end Verdict
