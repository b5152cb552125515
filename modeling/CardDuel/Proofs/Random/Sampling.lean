/-
This file shows what the draws of a shuffle are. A draw skips the words of the stream that fall into the uneven
rest, and the first other word gives the place. However many words are skipped, each place but the first is
swapped once, from the last one down, with itself or with an earlier one.
-/

import CardDuel.Random.Shuffle
import Mathlib.Data.List.Range

namespace CardDuel

namespace Random

/-! One draw -/

/--
This tells that a draw takes the word at a position: the low half of its product with the range is below the
range shifted to the top of a word.
-/
def Accepts (key : Key) (range position : Nat) : Prop :=
  (key.word position).toNat * range % UInt32.size < range <<< (31 - range.log2)

instance (key : Key) (range position : Nat) : Decidable (Accepts key range position) :=
  inferInstanceAs (Decidable (_ < _))

/--
This tells that a draw from a position on takes the first word that it can take, and that it looks at a number of
words at most. The place that it gives is the high half of the product.
-/
structure Draws (key : Key) (range tries start place taken : Nat) : Prop where
  later : start ≤ taken
  soon : taken < start + tries
  accepted : Accepts key range taken
  skipped : ∀ position, start ≤ position → position < taken → ¬Accepts key range position
  scaled : place = (key.word taken).toNat * range / UInt32.size

/-- A scaled word is a place in its range. -/
theorem scaled_le {word : Nat} (small : word < UInt32.size) (range : Nat) :
    word * range / UInt32.size ≤ range - 1 := by
  cases range with
  | zero => simp
  | succ range =>
    have product : word * (range + 1) < UInt32.size * (range + 1) :=
      Nat.mul_lt_mul_of_pos_right small (Nat.succ_pos range)
    have below := Nat.div_lt_of_lt_mul product
    omega

/-- A drawn place is in its range. -/
theorem Draws.place_le {key : Key} {range tries start place taken : Nat}
    (draws : Draws key range tries start place taken) : place ≤ range - 1 := by
  rw [draws.scaled]
  exact scaled_le (key.word taken).toNat_lt range

/-- The place of a draw does not depend on how many words it may look at. -/
theorem Draws.unique {key : Key} {range tries more start place other taken next : Nat}
    (draws : Draws key range tries start place taken) (again : Draws key range more start other next) :
    place = other ∧ taken = next := by
  have first : ¬next < taken := fun before => draws.skipped next again.later before again.accepted
  have second : ¬taken < next := fun before => again.skipped taken draws.later before draws.accepted
  obtain rfl : taken = next := by omega
  exact ⟨draws.scaled.trans again.scaled.symm, rfl⟩

/-! The words of a draw as numbers -/

variable {key : Key} {range : UInt32} {tries start place taken : Nat}

theorem toNat_product (word range : UInt32) :
    (word.toUInt64 * range.toUInt64).toNat = word.toNat * range.toNat := by
  have fits : word.toNat * range.toNat < 2 ^ 32 * 2 ^ 32 :=
    Nat.mul_lt_mul'' word.toNat_lt range.toNat_lt
  rw [UInt64.toNat_mul, UInt32.toNat_toUInt64, UInt32.toNat_toUInt64]
  exact Nat.mod_eq_of_lt fits

theorem toNat_product_high (word range : UInt32) :
    ((word.toUInt64 * range.toUInt64) >>> 32).toNat = word.toNat * range.toNat / UInt32.size := by
  rw [UInt64.toNat_shiftRight, toNat_product]
  exact Nat.shiftRight_eq_div_pow _ 32

theorem log2_lt (positive : 0 < range.toNat) : range.toNat.log2 < 32 :=
  (Nat.log2_lt (Nat.ne_of_gt positive)).mpr range.toNat_lt

/-- A range that is shifted to the top of a word still is a word. -/
theorem shifted_lt (positive : 0 < range.toNat) :
    range.toNat <<< (31 - range.toNat.log2) < UInt32.size := by
  have size := log2_lt positive
  have below : range.toNat < 2 ^ (range.toNat.log2 + 1) := Nat.lt_log2_self
  calc range.toNat <<< (31 - range.toNat.log2)
      = range.toNat * 2 ^ (31 - range.toNat.log2) := Nat.shiftLeft_eq _ _
    _ < 2 ^ (range.toNat.log2 + 1) * 2 ^ (31 - range.toNat.log2) :=
        Nat.mul_lt_mul_of_pos_right below (Nat.two_pow_pos _)
    _ = 2 ^ 32 := by
        rw [← Nat.pow_add]
        congr 1
        omega

theorem toNat_acceptedLow (positive : 0 < range.toNat) :
    (acceptedLow range).toNat + 1 = range.toNat <<< (31 - range.toNat.log2) := by
  have size := log2_lt positive
  have places : (31 - range.log2).toNat = 31 - range.toNat.log2 :=
    UInt32.toNat_sub_of_le 31 range.log2 (UInt32.le_iff_toNat_le.mpr (Nat.le_of_lt_succ size))
  have shifted : (range <<< (31 - range.log2)).toNat = range.toNat <<< (31 - range.toNat.log2) := by
    rw [UInt32.toNat_shiftLeft, places, Nat.mod_eq_of_lt (show 31 - range.toNat.log2 < 32 by omega)]
    exact Nat.mod_eq_of_lt (shifted_lt positive)
  have nonzero : 0 < range.toNat <<< (31 - range.toNat.log2) := by
    rw [Nat.shiftLeft_eq]
    exact Nat.mul_pos positive (Nat.two_pow_pos _)
  rw [acceptedLow, UInt32.toNat_sub_of_le _ _ (UInt32.le_iff_toNat_le.mpr (shifted ▸ nonzero)), shifted]
  exact Nat.succ_pred_eq_of_pos nonzero

theorem low_le_iff (positive : 0 < range.toNat) (position : Nat) :
    ((key.word position).toUInt64 * range.toUInt64).toUInt32 ≤ acceptedLow range ↔
      Accepts key range.toNat position := by
  rw [UInt32.le_iff_toNat_le, UInt64.toNat_toUInt32, toNat_product, Accepts, ← toNat_acceptedLow positive]
  exact Nat.lt_succ_iff.symm

/-! The draw that is made -/

/-- The sampler draws a place in its range. -/
theorem drawBelow_le (key : Key) (range : UInt32) (tries start : Nat) :
    (drawBelow key range tries start).1 ≤ range.toNat - 1 := by
  induction tries generalizing start with
  | zero => exact Nat.zero_le _
  | succ tries ih =>
    rw [drawBelow]
    split
    · rw [toNat_product_high]
      exact scaled_le (key.word start).toNat_lt range.toNat
    · exact ih (start + 1)

/-- A draw that ends within its tries gives what a draw without a limit gives. -/
theorem drawBelow_of_draws (positive : 0 < range.toNat)
    (draws : Draws key range.toNat tries start place taken) :
    drawBelow key range tries start = (place, taken + 1) := by
  induction tries generalizing start with
  | zero => exact absurd draws.soon (Nat.not_lt.mpr draws.later)
  | succ tries ih =>
    have later := draws.later
    have soon := draws.soon
    rw [drawBelow]
    -- The first word that is accepted is the one that is taken, because all before it were skipped.
    by_cases accepts : Accepts key range.toNat start
    · rw [if_pos ((low_le_iff positive start).mpr accepts), toNat_product_high]
      obtain rfl : start = taken := by
        by_contra different
        exact draws.skipped start (Nat.le_refl start) (by omega) accepts
      rw [draws.scaled]
    · rw [if_neg fun low => accepts ((low_le_iff positive start).mp low)]
      have different : start ≠ taken := fun same => accepts (same ▸ draws.accepted)
      exact ih ⟨by omega, by omega, draws.accepted,
        fun position next before => draws.skipped position (by omega) before, draws.scaled⟩

/-! All swaps of a shuffle -/

/--
This tells that swaps are those of a shuffle of a number of items: each place from the last down to the second
is swapped once, with itself or with an earlier one.
-/
structure Descends (count : Nat) (swaps : List (Nat × Nat)) : Prop where
  places : swaps.map Prod.fst = (List.range' 1 (count - 1)).reverse
  earlier : ∀ swap ∈ swaps, swap.2 ≤ swap.1

namespace Descends

variable {count last : Nat} {swaps : List (Nat × Nat)}

theorem nil : Descends 1 [] := ⟨rfl, by simp⟩

theorem cons (descends : Descends (last + 1) swaps) (inside : place ≤ last + 1) :
    Descends (last + 2) ((last + 1, place) :: swaps) := by
  constructor
  · rw [List.map_cons, descends.places, Nat.add_sub_cancel, Nat.add_succ_sub_one, List.range'_1_concat,
      List.reverse_concat, Nat.add_comm 1 last]
  · intro swap member
    rcases List.mem_cons.mp member with rfl | member
    · exact inside
    · exact descends.earlier swap member

/-- No items are shuffled as one item is. -/
theorem of_pred (descends : Descends (count - 1 + 1) swaps) : Descends count swaps :=
  ⟨by rw [descends.places, Nat.add_sub_cancel], descends.earlier⟩

theorem lt (descends : Descends count swaps) {swap : Nat × Nat} (member : swap ∈ swaps) :
    swap.1 < count := by
  have place := List.mem_map_of_mem (f := Prod.fst) member
  rw [descends.places, List.mem_reverse, List.mem_range'_1] at place
  omega

end Descends

theorem swapsFrom_succ (key : Key) (start last : Nat) :
    swapsFrom key start (last + 1) =
      (last + 1, (drawBelow key (last + 2).toUInt32 maxDraws start).1) ::
        swapsFrom key (drawBelow key (last + 2).toUInt32 maxDraws start).2 last := by
  rw [swapsFrom]

/-- The swaps go down from the last place. -/
theorem swapsFrom_descends (key : Key) (start last : Nat) :
    Descends (last + 1) (swapsFrom key start last) := by
  induction last generalizing start with
  | zero => exact .nil
  | succ last ih =>
    have below := drawBelow_le key (last + 2).toUInt32 maxDraws start
    have word : (last + 2).toUInt32.toNat ≤ last + 2 := Nat.mod_le _ _
    rw [swapsFrom_succ]
    exact (ih _).cons (by omega)

theorem swaps_descends (key : Key) (count : Nat) : Descends count (swaps key count) :=
  (swapsFrom_descends key 0 (count - 1)).of_pred

/--
This tells which swaps are drawn for the places from a last one down, when the draws begin at a position of the
stream and each of them looks at a number of words at most.
-/
inductive Sampled (key : Key) (tries : Nat) : (start last : Nat) → List (Nat × Nat) → Prop where
  | done (start : Nat) : Sampled key tries start 0 []
  | draw {start last place taken : Nat} {swaps : List (Nat × Nat)}
      (draws : Draws key (last + 2) tries start place taken)
      (rest : Sampled key tries (taken + 1) last swaps) :
      Sampled key tries start (last + 1) ((last + 1, place) :: swaps)

namespace Sampled

variable {last : Nat} {swaps : List (Nat × Nat)}

theorem descends (sampled : Sampled key tries start last swaps) : Descends (last + 1) swaps := by
  induction sampled with
  | done => exact .nil
  | draw draws _ ih => exact ih.cons draws.place_le

/-- What is sampled is unique, whatever number of tries is allowed. -/
theorem unique {more : Nat} {others : List (Nat × Nat)}
    (sampled : Sampled key tries start last swaps) (again : Sampled key more start last others) :
    swaps = others := by
  induction sampled generalizing others with
  | done => cases again; rfl
  | draw draws _ ih =>
    cases again with
    | draw redraws rest =>
      obtain ⟨rfl, rfl⟩ := draws.unique redraws
      rw [ih rest]

/-- The swaps of the program are those that are sampled, as long as enough draws are allowed. -/
theorem swapsFrom_eq (sampled : Sampled key tries start last swaps) (few : tries ≤ maxDraws)
    (small : last + 1 < UInt32.size) : swapsFrom key start last = swaps := by
  induction sampled with
  | done => rfl
  | @draw start last place taken swaps draws _ ih =>
    have word : (last + 2).toUInt32.toNat = last + 2 := Nat.mod_eq_of_lt small
    have drawn : drawBelow key (last + 2).toUInt32 maxDraws start = (place, taken + 1) :=
      drawBelow_of_draws (by omega) (word.symm ▸ { draws with soon := by have := draws.soon; omega })
    rw [swapsFrom_succ, drawn, ih (by omega)]

end Sampled

end Random

end CardDuel
