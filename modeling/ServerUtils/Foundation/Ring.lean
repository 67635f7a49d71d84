import Mathlib.Data.List.Basic
import Mathlib.Data.Nat.ModEq
import Mathlib.Logic.Function.Basic

/-!
# Sequences in a ring of cells

A ring has the cells `0..bound`.  `place` counts steps around it, and `Holds`
says that the cells behind a start hold the items of a list in order.  The
rules take items off the front and put them behind the last one.  A ring that
is written all around holds the newest `bound + 1` items.
-/

namespace ServerUtils.Foundation.Ring

variable {Cell : Type*}
variable {bound start count : Nat}

/-- The cell after an index. -/
def following (bound index : Nat) : Nat :=
  if index < bound then index + 1 else 0

/-- The cell so many steps behind a start. -/
def place (bound start steps : Nat) : Nat :=
  (start + steps) % (bound + 1)

theorem place_le (bound start steps : Nat) : place bound start steps ≤ bound :=
  Nat.le_of_lt_succ (Nat.mod_lt _ (Nat.succ_pos bound))

theorem place_zero (inside : start ≤ bound) : place bound start 0 = start :=
  Nat.mod_eq_of_lt (Nat.lt_succ_of_le inside)

theorem following_eq_place (inside : start ≤ bound) :
    following bound start = place bound start 1 := by
  rw [following, place]
  rcases Nat.lt_or_eq_of_le inside with isBefore | rfl
  · rw [if_pos isBefore, Nat.mod_eq_of_lt (Nat.succ_lt_succ isBefore)]
  · rw [if_neg (Nat.lt_irrefl start), Nat.mod_self]

/-- Steps add up. -/
theorem place_place (bound start first second : Nat) :
    place bound (place bound start first) second =
      place bound start (first + second) := by
  rw [place, place, place, Nat.mod_add_mod, Nat.add_assoc]

theorem following_place (bound start steps : Nat) :
    following bound (place bound start steps) =
      place bound start (steps + 1) := by
  rw [following_eq_place (place_le bound start steps), place_place]

theorem place_following (inside : start ≤ bound) (steps : Nat) :
    place bound (following bound start) steps =
      place bound start (1 + steps) := by
  rw [following_eq_place inside, place_place]

/-- A whole turn leads back. -/
theorem place_turn (bound start steps : Nat) :
    place bound start (steps + (bound + 1)) = place bound start steps := by
  rw [place, ← Nat.add_assoc, Nat.add_mod_right]
  rfl

/-- Within one turn all cells differ. -/
theorem place_ne
    {first second : Nat} (isBefore : first < second)
    (withinTurn : second ≤ first + bound) :
    place bound start first ≠ place bound start second := by
  intro same
  have congruent : start + first ≡ start + second [MOD bound + 1] := same
  have divides : bound + 1 ∣ second - first := by
    have divides := (Nat.modEq_iff_dvd' (by omega)).mp congruent
    rwa [Nat.add_sub_add_left] at divides
  have tooShort : second - first < bound + 1 := by omega
  exact absurd (Nat.eq_zero_of_dvd_of_lt divides tooShort) (by omega)

/-- So many items are as many steps as it takes to come back. -/
theorem place_eq_iff
    {first second : Nat} (isBefore : first ≤ second)
    (withinTurn : second ≤ first + bound) :
    place bound start first = place bound start second ↔ first = second := by
  constructor
  · intro same
    rcases Nat.lt_or_eq_of_le isBefore with isLess | isEqual
    · exact absurd same (place_ne isLess withinTurn)
    · exact isEqual
  · rintro rfl
    rfl

/-! ## What a ring holds -/

section Holds

variable {ring : Nat → Cell} {items : List Cell} {item : Cell}

/-- The cells behind `start` hold the items. -/
def Holds (bound : Nat) (ring : Nat → Cell) (start : Nat)
    (items : List Cell) : Prop :=
  ∀ index item, items[index]? = some item →
    ring (place bound start (index + 1)) = item

theorem Holds.nil (start : Nat) : Holds bound ring start [] := by
  intro index item isItem
  cases isItem

/-- The first item is in the cell after the start. -/
theorem Holds.head
    (holds : Holds bound ring start (item :: items))
    (inside : start ≤ bound) :
    ring (following bound start) = item := by
  rw [following_eq_place inside]
  exact holds 0 item rfl

/-- The first item is taken off. -/
theorem Holds.tail
    (holds : Holds bound ring start (item :: items))
    (inside : start ≤ bound) :
    Holds bound ring (following bound start) items := by
  intro index other isOther
  rw [place_following inside, Nat.add_comm 1]
  exact holds (index + 1) other isOther

/-- What is written behind the items leaves them alone. -/
theorem Holds.write
    (holds : Holds bound ring start items)
    {steps : Nat} (isBehind : items.length < steps)
    (withinTurn : steps ≤ bound + 1) (cell : Cell) :
    Holds bound (Function.update ring (place bound start steps) cell) start
      items := by
  intro index other isOther
  have inItems : index < items.length :=
    (List.getElem?_eq_some_iff.mp isOther).1
  have differs : place bound start (index + 1) ≠ place bound start steps :=
    place_ne (by omega) (by omega)
  rw [Function.update_of_ne differs]
  exact holds index other isOther

/-- An item is put behind the others. -/
theorem Holds.append
    (holds : Holds bound ring start items)
    (isThere : ring (place bound start (items.length + 1)) = item) :
    Holds bound ring start (items ++ [item]) := by
  intro index other isOther
  rcases Nat.lt_or_ge index items.length with inItems | isBehind
  · rw [List.getElem?_append_left inItems] at isOther
    exact holds index other isOther
  · rw [List.getElem?_append_right isBehind] at isOther
    rcases List.getElem?_eq_some_iff.mp isOther with ⟨isFirst, isItem⟩
    have isEnd : index = items.length := by
      simp only [List.length_singleton] at isFirst
      omega
    subst isEnd
    rw [isThere]
    simpa using isItem

theorem Holds.left
    {more : List Cell} (holds : Holds bound ring start (items ++ more)) :
    Holds bound ring start items := by
  intro index other isOther
  refine holds index other ?_
  rw [List.getElem?_append_left (List.getElem?_eq_some_iff.mp isOther).1]
  exact isOther

end Holds

end ServerUtils.Foundation.Ring
