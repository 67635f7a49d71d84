import Mathlib.Data.List.AList

/-!
# Maps that insert on lookup

`std::unordered_map` as an association list without duplicate keys.  Its
`operator[]` binds an absent key to a default value, so a lookup changes the
map.  The rules say what it does not change: the value that a key stands for.
The iteration order of the map is not fixed here.
-/

namespace ServerUtils.Foundation.Container

/-- A map with one value for a key. -/
abbrev UnorderedMap (Key Value : Type*) := AList fun _ : Key => Value

variable {Key Value : Type*} [DecidableEq Key]

/-- The value that a key stands for: the default where it is absent. -/
def valueAt (default : Value) (map : UnorderedMap Key Value) (key : Key) :
    Value :=
  (map.lookup key).getD default

/-- `map[key]`: the value, and the map in which the key is now bound. -/
def subscript (default : Value) (map : UnorderedMap Key Value) (key : Key) :
    Value × UnorderedMap Key Value :=
  match map.lookup key with
  | some value => (value, map)
  | none => (default, map.insert key default)

variable {default : Value} {map : UnorderedMap Key Value} {key : Key}

theorem valueAt_of_not_mem (absent : key ∉ map) :
    valueAt default map key = default := by
  rw [valueAt, AList.lookup_eq_none.mpr absent, Option.getD_none]

@[simp]
theorem valueAt_empty (key : Key) :
    valueAt default (∅ : UnorderedMap Key Value) key = default :=
  valueAt_of_not_mem (AList.notMem_empty key)

@[simp]
theorem valueAt_insert (value : Value) (other : Key) :
    valueAt default (map.insert key value) other =
      if other = key then value else valueAt default map other := by
  split_ifs with same
  · subst same
    rw [valueAt, AList.lookup_insert, Option.getD_some]
  · rw [valueAt, valueAt, AList.lookup_insert_ne same]

@[simp]
theorem subscript_fst (map : UnorderedMap Key Value) (key : Key) :
    (subscript default map key).1 = valueAt default map key := by
  rw [subscript, valueAt]
  cases map.lookup key <;> rfl

/-- A lookup does not change what any key stands for. -/
@[simp]
theorem valueAt_subscript
    (map : UnorderedMap Key Value) (key other : Key) :
    valueAt default (subscript default map key).2 other =
      valueAt default map other := by
  rw [subscript]
  cases bound : map.lookup key with
  | some value => rfl
  | none =>
      rw [valueAt_insert]
      split_ifs with same
      · subst same
        rw [valueAt_of_not_mem (AList.lookup_eq_none.mp bound)]
      · rfl

end ServerUtils.Foundation.Container
