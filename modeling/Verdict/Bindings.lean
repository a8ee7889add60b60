import Std.Data.ExtTreeMap
import Verdict.Value

/-!
The table of variables that a rule is evaluated against. Names are case sensitive, a name has at
most one value, and a name without a value is absent.
-/

namespace Verdict

structure Bindings where
  table : Std.ExtTreeMap String Value compare

namespace Bindings

def empty : Bindings :=
  { table := ∅ }

instance : Inhabited Bindings :=
  ⟨empty⟩

def get? (bindings : Bindings) (name : String) : Option Value :=
  bindings.table[name]?

def contains (bindings : Bindings) (name : String) : Bool :=
  bindings.table.contains name

def size (bindings : Bindings) : Nat :=
  bindings.table.size

def isEmpty (bindings : Bindings) : Bool :=
  bindings.table.isEmpty

def insert (bindings : Bindings) (name : String) (value : Value) : Bindings :=
  { table := bindings.table.insert name value }

def insertAll (bindings : Bindings) (pairs : List (String × Value)) : Bindings :=
  pairs.foldl (fun bindings pair => bindings.insert pair.1 pair.2) bindings

def ofList (pairs : List (String × Value)) : Bindings :=
  empty.insertAll pairs

def toList (bindings : Bindings) : List (String × Value) :=
  bindings.table.toList

def extend (bindings other : Bindings) : Bindings :=
  bindings.insertAll other.toList

/-- The same names with equal values; a value that is not a number equals none. -/
def same (bindings other : Bindings) : Bool :=
  bindings.toList == other.toList

def truth? (bindings : Bindings) (name : String) : Option Bool :=
  (bindings.get? name).bind Value.truth?

theorem ext_get? {left right : Bindings} (agree : ∀ name, left.get? name = right.get? name) :
    left = right := by
  cases left
  cases right
  exact congrArg mk (Std.ExtTreeMap.ext_getElem? agree)

@[simp] theorem get?_empty (name : String) : empty.get? name = none :=
  Std.ExtTreeMap.getElem?_empty

theorem get?_insert (bindings : Bindings) (name wanted : String) (value : Value) :
    (bindings.insert name value).get? wanted =
      if name = wanted then some value else bindings.get? wanted := by
  simp [insert, get?, Std.ExtTreeMap.getElem?_insert]

theorem contains_eq_isSome_get? (bindings : Bindings) (name : String) :
    bindings.contains name = (bindings.get? name).isSome := by
  simp [contains, get?]

end Bindings

end Verdict
