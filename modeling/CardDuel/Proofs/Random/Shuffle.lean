/-
This file shows that a shuffle only puts items at other places. Its swaps make up one permutation of places, in
which the items have no part: it is fixed by the seed, by the shuffles before and by the number of items.
-/

import CardDuel.Proofs.Random.Sampling
import CardDuel.Proofs.Table.Shift
import Mathlib.Algebra.Group.End
import Mathlib.Logic.Equiv.Basic

namespace CardDuel

namespace Random

variable {α : Type}

/-- This tells from which place the item at a place comes when swaps were made one after the other. -/
def order (swaps : List (Nat × Nat)) : Equiv.Perm Nat :=
  (swaps.map fun swap => Equiv.swap swap.1 swap.2).prod

theorem order_cons (swap : Nat × Nat) (rest : List (Nat × Nat)) (place : Nat) :
    order (swap :: rest) place = Equiv.swap swap.1 swap.2 (order rest place) := by
  rw [order, List.map_cons, List.prod_cons, Equiv.Perm.mul_apply, order]

/-- A swap exchanges the items of two places. -/
theorem getElem?_swapIfInBounds {array : Array α} {left right : Nat} (first : left < array.size)
    (second : right < array.size) (place : Nat) :
    (array.swapIfInBounds left right)[place]? = array[Equiv.swap left right place]? := by
  rw [Array.swapIfInBounds_def, dif_pos first, dif_pos second, Array.getElem?_swap, Equiv.swap_apply_def]
  by_cases atRight : right = place
  · subst atRight
    by_cases same : right = left
    · simp [same]
    · simp [same, first]
  · by_cases atLeft : left = place
    · subst atLeft
      simp [atRight, second]
    · simp [atRight, atLeft, Ne.symm atRight, Ne.symm atLeft]

/-- Swaps that are in range put the items into the order that they make up. -/
theorem getElem?_applySwaps {swaps : List (Nat × Nat)} {items : List α}
    (inside : ∀ swap ∈ swaps, swap.1 < items.length ∧ swap.2 < items.length) (place : Nat) :
    (applySwaps swaps items)[place]? = items[order swaps place]? := by
  have along : ∀ array : Array α, array.size = items.length →
      (swaps.foldl (fun array swap => array.swapIfInBounds swap.1 swap.2) array)[place]? =
        array[order swaps place]? := by
    induction swaps with
    | nil => exact fun array _ => rfl
    | cons swap rest ih =>
      intro array size
      obtain ⟨first, second⟩ := inside swap List.mem_cons_self
      have others := ih (fun other member => inside other (List.mem_cons_of_mem swap member))
        (array.swapIfInBounds swap.1 swap.2) (by rw [Array.size_swapIfInBounds, size])
      rw [List.foldl_cons, others, order_cons,
        getElem?_swapIfInBounds (size.symm ▸ first) (size.symm ▸ second)]
  rw [applySwaps, Array.getElem?_toList, along items.toArray rfl, List.getElem?_toArray]

theorem Descends.inside {count : Nat} {swaps : List (Nat × Nat)} (descends : Descends count swaps) :
    ∀ swap ∈ swaps, swap.1 < count ∧ swap.2 < count := fun swap member =>
  ⟨descends.lt member, Nat.lt_of_le_of_lt (descends.earlier swap member) (descends.lt member)⟩

/-- Places after all swaps keep their items. -/
theorem order_of_le {count place : Nat} {swaps : List (Nat × Nat)}
    (inside : ∀ swap ∈ swaps, swap.1 < count ∧ swap.2 < count) (outside : count ≤ place) :
    order swaps place = place := by
  induction swaps with
  | nil => rfl
  | cons swap rest ih =>
    obtain ⟨first, second⟩ := inside swap List.mem_cons_self
    rw [order_cons, ih fun other member => inside other (List.mem_cons_of_mem swap member)]
    exact Equiv.swap_apply_of_ne_of_ne (by omega) (by omega)

end Random

namespace Shuffler

/-- This tells from which place the item at a place comes when the next shuffle is one of so many items. -/
def order (shuffler : Shuffler) (count : Nat) : Equiv.Perm Nat :=
  Random.order (Random.swaps shuffler.nextKey count)

/-- A shuffle puts at each place the item that its order names. -/
theorem getElem?_shuffle {α : Type} (shuffler : Shuffler) (items : List α) (place : Nat) :
    (shuffler.shuffle items).1[place]? = items[shuffler.order items.length place]? :=
  Random.getElem?_applySwaps (Random.swaps_descends shuffler.nextKey items.length).inside place

/-- What the items are makes no difference to a shuffle. -/
theorem shuffle_map {α β : Type} (shuffler : Shuffler) (f : α → β) (items : List α) :
    shuffler.shuffle (items.map f) = ((shuffler.shuffle items).1.map f, shuffler.advance) := by
  refine Prod.ext (List.ext_getElem? ?_) rfl
  intro place
  rw [getElem?_shuffle, List.getElem?_map, List.getElem?_map, getElem?_shuffle, List.length_map]

/--
A shuffle is a permutation of places. Its swaps are in range, and so are those of draws with any limit; wherever
draws end, their limit makes no difference. Such swaps put items into the order that they make up. This order is
fixed by the seed, by the streams that were used and by the number of items, whatever the items are, and each
shuffle uses one stream. A deck that is shuffled keeps its cards, and every other zone stays as it is.
-/
theorem shuffle_exact (shuffler : Shuffler) :
    (∀ count, Random.Descends count (Random.swaps shuffler.nextKey count) ∧
      ∀ tries swaps, Random.Sampled shuffler.nextKey tries 0 (count - 1) swaps →
        Random.Descends count swaps ∧
        (∀ more others, Random.Sampled shuffler.nextKey more 0 (count - 1) others → others = swaps) ∧
        (tries ≤ Random.maxDraws → count < UInt32.size → Random.swaps shuffler.nextKey count = swaps)) ∧
    (∀ count swaps, Random.Descends count swaps →
      (∀ place, count ≤ place → Random.order swaps place = place) ∧
      ∀ {α : Type} (items : List α), items.length = count →
        ∀ place, (Random.applySwaps swaps items)[place]? = items[Random.order swaps place]?) ∧
    (∀ {α : Type} (items : List α),
      (shuffler.shuffle items).1.Perm items ∧
      (shuffler.shuffle items).2 = ⟨shuffler.seed, shuffler.streams + 1⟩ ∧
      (∀ place, (shuffler.shuffle items).1[place]? = items[shuffler.order items.length place]?) ∧
      ∀ {β : Type} (f : α → β),
        shuffler.shuffle (items.map f) = ((shuffler.shuffle items).1.map f, (shuffler.shuffle items).2)) ∧
    (∀ zones : PlayerZones, ∃ deck, deck.Perm zones.deck ∧
      zones.shuffleDeck shuffler = ({ zones with deck := deck }, ⟨shuffler.seed, shuffler.streams + 1⟩)) ∧
    ∀ (state : GameState) (player : Seat), state.shuffler = shuffler →
      ∃ after, (Change.shuffleDeck player).apply state = .ok after ∧
        after.shuffler = ⟨shuffler.seed, shuffler.streams + 1⟩ ∧
        ∀ seat, after.zones seat =
          if seat = player then ((state.zones player).shuffleDeck shuffler).1 else state.zones seat := by
  refine ⟨?_, ?_, ?_, ?_, ?_⟩
  · intro count
    refine ⟨Random.swaps_descends _ count, ?_⟩
    intro tries swaps sampled
    have one : 1 < UInt32.size := by decide
    exact ⟨sampled.descends.of_pred, fun _ _ again => again.unique sampled,
      fun few small => sampled.swapsFrom_eq few (by omega)⟩
  · intro count swaps descends
    refine ⟨fun place => Random.order_of_le descends.inside, ?_⟩
    rintro α items rfl place
    exact Random.getElem?_applySwaps descends.inside place
  · intro α items
    exact ⟨Random.applySwaps_perm _ items, rfl, shuffler.getElem?_shuffle items,
      fun f => shuffler.shuffle_map f items⟩
  · intro zones
    exact ⟨(shuffler.shuffle zones.deck).1, Random.applySwaps_perm _ zones.deck, rfl⟩
  · rintro state player rfl
    exact ⟨(state.shuffled player).record (.deckShuffled player), rfl, rfl, state.zones_shuffled player⟩

/-- Three items are shuffled with the seed 42; one word is skipped by the second draw. -/
theorem triple_shuffled :
    Random.Sampled (ofSeed 42).nextKey 2 0 2 [(2, 1), (1, 0)] ∧
      Random.swaps (ofSeed 42).nextKey 3 = [(2, 1), (1, 0)] ∧
      ((ofSeed 42).shuffle ["a", "b", "c"]).1 = ["c", "a", "b"] := by
  have first : Random.Draws (ofSeed 42).nextKey 3 2 0 1 0 :=
    ⟨by decide, by decide, by decide +kernel, fun _ _ before => absurd before (Nat.not_lt_zero _),
      by decide +kernel⟩
  have second : Random.Draws (ofSeed 42).nextKey 2 2 1 0 2 := by
    refine ⟨by decide, by decide, by decide +kernel, ?_, by decide +kernel⟩
    intro position later before
    obtain rfl : position = 1 := by omega
    decide +kernel
  have sampled : Random.Sampled (ofSeed 42).nextKey 2 0 2 [(2, 1), (1, 0)] :=
    .draw first (.draw second (.done 3))
  obtain ⟨draws, _⟩ := shuffle_exact (ofSeed 42)
  obtain ⟨_, _, same⟩ := (draws 3).2 2 _ sampled
  have swaps := same (by decide) (by decide)
  refine ⟨sampled, swaps, ?_⟩
  show Random.applySwaps (Random.swaps (ofSeed 42).nextKey 3) ["a", "b", "c"] = ["c", "a", "b"]
  rw [swaps]
  decide

end Shuffler

end CardDuel
