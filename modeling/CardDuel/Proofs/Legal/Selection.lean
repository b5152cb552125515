/-
This file shows which places are chosen and in which order. A choice of items is a choice of places, each set of
places is chosen once, and the choices are in the order of dictionaries. A search that adds one item after the
other finds the same choices.
-/

import CardDuel.Proofs.Legal.Combination
import Mathlib.Data.List.FinRange
import Mathlib.Data.List.Lex
import Mathlib.Data.List.Sort

namespace CardDuel

variable {α β : Type}

/-- There is one choice of no items. -/
theorem combinations_zero (items : List α) : combinations items 0 = [[]] := by
  rw [combinations]

/-- The combinations are counted by the binomial coefficient. -/
theorem length_combinations (items : List α) (count : Nat) :
    (combinations items count).length = items.length.choose count := by
  rw [(combinations_perm_sublistsLen items count).length_eq, List.length_sublistsLen]

/-! Places -/

/-- What the items are makes no difference to the places that are chosen. -/
theorem combinations_map (f : α → β) (items : List α) (count : Nat) :
    combinations (items.map f) count = (combinations items count).map (List.map f) := by
  induction items generalizing count with
  | nil => cases count <;> rfl
  | cons item rest ih =>
    cases count with
    | zero => rw [combinations_zero, combinations_zero, List.map_singleton, List.map_nil]
    | succ count =>
      have first : (combinations rest count).map (List.map f ∘ (item :: ·)) =
          (combinations rest count).map ((f item :: ·) ∘ List.map f) := rfl
      rw [List.map_cons, combinations_cons, combinations_cons, ih, ih, List.map_append, List.map_map,
        List.map_map, first]

/-- Items are chosen by their places. -/
theorem combinations_eq_map_finRange (items : List α) (count : Nat) :
    combinations items count =
      (combinations (List.finRange items.length) count).map (List.map items.get) := by
  rw [← combinations_map, ← List.ofFn_eq_map, List.ofFn_get]

/-- Choices from ordered items come in the order of dictionaries. -/
theorem combinations_pairwise {before : α → α → Prop} {items : List α} (sorted : items.Pairwise before)
    (count : Nat) : (combinations items count).Pairwise (List.Lex before) := by
  induction items generalizing count with
  | nil =>
    cases count with
    | zero => exact List.pairwise_singleton _ _
    | succ count => exact .nil
  | cons item rest ih =>
    cases count with
    | zero =>
      rw [combinations_zero]
      exact List.pairwise_singleton _ _
    | succ count =>
      obtain ⟨first, others⟩ := List.pairwise_cons.mp sorted
      rw [combinations_cons, List.pairwise_append]
      refine ⟨List.pairwise_map.mpr ((ih others count).imp .cons), ih others (count + 1), ?_⟩
      -- a choice with the first item is before every choice without it
      intro choice taken other left
      obtain ⟨tail, _, rfl⟩ := List.mem_map.mp taken
      obtain ⟨inside, size⟩ := mem_combinations.mp left
      cases other with
      | nil => cases size
      | cons head _ => exact .rel (first head (inside.subset List.mem_cons_self))

/-- Places are chosen in their order. -/
theorem sublist_finRange_iff {size : Nat} {places : List (Fin size)} :
    places.Sublist (List.finRange size) ↔ places.Pairwise (· < ·) := by
  constructor
  · exact fun inside => (List.pairwise_lt_finRange size).sublist inside
  · intro ascending
    have distinct : places.Nodup := ascending.imp ne_of_lt
    have inside : places.Subperm (List.finRange size) :=
      distinct.subperm fun place _ => List.mem_finRange place
    exact List.sublist_of_subperm_of_pairwise inside ascending (List.pairwise_lt_finRange size)

/-! A search for choices -/

/--
This finds the choices of a number of items that begin with chosen ones. Each item of the rest is added in turn,
and the search goes on with the items after it.
-/
def grow (count : Nat) (chosen rest : List α) : List (List α) :=
  if chosen.length = count then [chosen]
  else match rest with
    | [] => []
    | item :: later => grow count (chosen ++ [item]) later ++ grow count chosen later

/-- A full choice grows no more. -/
theorem grow_full {count : Nat} {chosen : List α} (full : chosen.length = count) (rest : List α) :
    grow count chosen rest = [chosen] := by
  cases rest <;> rw [grow, if_pos full]

/-- A search finds the choices of the missing items from the rest, each behind the chosen ones. -/
theorem grow_eq {count missing : Nat} {chosen : List α} (size : chosen.length + missing = count)
    (rest : List α) : grow count chosen rest = (combinations rest missing).map (chosen ++ ·) := by
  induction rest generalizing chosen missing with
  | nil =>
    cases missing with
    | zero => rw [grow_full size, combinations_zero, List.map_singleton, List.append_nil]
    | succ missing =>
      rw [grow, if_neg (by omega)]
      rfl
  | cons item later ih =>
    cases missing with
    | zero => rw [grow_full size, combinations_zero, List.map_singleton, List.append_nil]
    | succ missing =>
      have longer : (chosen ++ [item]).length + missing = count := by
        rw [List.length_append, List.length_singleton]
        omega
      -- Either the item is chosen and one fewer is missing, or the search goes on without it.
      have begun : (combinations later missing).map (chosen ++ [item] ++ ·) =
          ((combinations later missing).map (item :: ·)).map (chosen ++ ·) := by
        rw [List.map_map]
        exact List.map_congr_left fun choice _ => List.append_assoc chosen [item] choice
      rw [grow, if_neg (by omega), combinations_cons, List.map_append, ← begun]
      exact congrArg₂ (· ++ ·) (ih longer) (ih size)

/--
The choices of a number of items are the choices of as many places, each set of places once and in the order of
dictionaries. The binomial coefficient tells how many there are: one of no items, and none of too many. They are
the parts of the list with the number as their length, and they differ if the items do. A search that adds one
item after the other finds them in the same order.
-/
theorem combinations_exact (items : List α) (count : Nat) :
    (∃ places : List (List (Fin items.length)),
      combinations items count = places.map (List.map items.get) ∧
      (∀ choice, choice ∈ places ↔ choice.Pairwise (· < ·) ∧ choice.length = count) ∧
      places.Nodup ∧ places.Pairwise (List.Lex (· < ·))) ∧
    (combinations items count).length = items.length.choose count ∧
    combinations items 0 = [[]] ∧
    (items.length < count → combinations items count = []) ∧
    (∀ choice, choice ∈ combinations items count ↔ choice.Sublist items ∧ choice.length = count) ∧
    (items.Nodup → (combinations items count).Nodup) ∧
    combinations items count = grow count [] items := by
  refine ⟨⟨combinations (List.finRange items.length) count, combinations_eq_map_finRange items count, ?_,
      nodup_combinations (List.nodup_finRange _) count,
      combinations_pairwise (List.pairwise_lt_finRange _) count⟩, length_combinations items count, combinations_zero items, combinations_eq_nil,
    fun choice => mem_combinations, fun distinct => nodup_combinations distinct count, ?_⟩
  · intro choice
    rw [mem_combinations, sublist_finRange_iff]
  · rw [grow_eq (Nat.zero_add count)]
    exact (List.map_id _).symm

/-- Equal items at two places are two choices. -/
example : combinations [5, 5, 7] 2 = [[5, 5], [5, 7], [5, 7]] := by decide

end CardDuel
