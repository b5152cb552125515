/-
This file characterises the choices of several items: they are the parts of a list with a given
length, and every set of different items is one of them in some order. It also tells when a list that
is joined from parts has no item twice.
-/

import CardDuel.Action.Combination
import Mathlib.Data.List.Perm.Basic
import Mathlib.Data.List.Sublists

namespace CardDuel

variable {α : Type}

/-- The choices are the parts of a list with a given length, in another order. -/
theorem combinations_perm_sublistsLen (items : List α) (count : Nat) :
    (combinations items count).Perm (items.sublistsLen count) := by
  induction items generalizing count with
  | nil =>
    cases count with
    | zero => exact .refl _
    | succ count => exact .refl _
  | cons item rest ih =>
    cases count with
    | zero =>
      rw [combinations, List.sublistsLen_zero]
    | succ count =>
      rw [combinations_cons, List.sublistsLen_succ_cons]
      exact (((ih count).map _).append (ih (count + 1))).trans List.perm_append_comm

/-- The combinations of a number of items are the sublists of that length. -/
theorem mem_combinations {items choice : List α} {count : Nat} :
    choice ∈ combinations items count ↔ choice.Sublist items ∧ choice.length = count := by
  rw [(combinations_perm_sublistsLen items count).mem_iff, List.mem_sublistsLen]

/-- Combinations of distinct items are distinct. -/
theorem nodup_combinations {items : List α} (distinct : items.Nodup) (count : Nat) :
    (combinations items count).Nodup := by
  rw [(combinations_perm_sublistsLen items count).nodup_iff]
  exact List.nodup_sublistsLen count distinct

/-- Different items of a list are one of its choices in some order. -/
theorem exists_combination_perm [DecidableEq α] {items chosen : List α} (distinct : items.Nodup)
    (different : chosen.Nodup) (inside : ∀ item ∈ chosen, item ∈ items) :
    ∃ choice ∈ combinations items chosen.length, choice.Perm chosen := by
  have same : (items.filter fun item => item ∈ chosen).Perm chosen := by
    rw [List.perm_ext_iff_of_nodup (distinct.filter _) different]
    intro item
    rw [List.mem_filter, decide_eq_true_eq]
    exact ⟨And.right, fun member => ⟨inside item member, member⟩⟩
  exact ⟨_, mem_combinations.mpr ⟨List.filter_sublist, same.length_eq⟩, same⟩

/-! Lists without repeats -/

/-- Parts whose members tell from which item they come have no member twice. -/
theorem nodup_flatMap_of_origin {β γ : Type} {items : List α} {part : α → List β} (key : α → γ)
    (origin : β → Option γ) (distinct : (items.map key).Nodup)
    (inner : ∀ item ∈ items, (part item).Nodup)
    (told : ∀ item ∈ items, ∀ member ∈ part item, origin member = some (key item)) :
    (items.flatMap part).Nodup := by
  rw [List.nodup_flatMap]
  refine ⟨inner, ?_⟩
  have apart : items.Pairwise fun left right => key left ≠ key right := List.pairwise_map.mp distinct
  refine apart.imp_of_mem fun {left right} inLeft inRight different => ?_
  show List.Disjoint _ _
  rw [List.disjoint_left]
  intro member fromLeft fromRight
  have same := (told left inLeft member fromLeft).symm.trans (told right inRight member fromRight)
  exact different (Option.some.inj same)

/-- Two parts that a test tells apart have no member in common. -/
theorem nodup_append_of_test {left right : List α} (test : α → Bool)
    (first : left.Nodup) (second : right.Nodup) (passed : ∀ member ∈ left, test member = true)
    (failed : ∀ member ∈ right, test member = false) : (left ++ right).Nodup := by
  refine List.nodup_append.mpr ⟨first, second, ?_⟩
  intro member inLeft other inRight same
  have both := passed member inLeft
  rw [same, failed other inRight] at both
  exact Bool.false_ne_true both

/-- A part that may be left out has no member twice. -/
theorem nodup_ite {items : List α} {given : Prop} [Decidable given]
    (distinct : items.Nodup) : (if given then items else []).Nodup := by
  split
  · exact distinct
  · exact List.nodup_nil

end CardDuel
