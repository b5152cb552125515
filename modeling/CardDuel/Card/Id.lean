/-
This file holds the numbers that name cards: one for each card of the catalog, and one for each
physical copy in a duel.
-/

namespace CardDuel

structure CardId where
  number : UInt32
deriving DecidableEq

def CardId.label (card : CardId) : String := "Card(" ++ toString card.number ++ ")"

/-- This names one physical card of a duel by its place in the card table. -/
structure InstanceId where
  number : UInt32
deriving DecidableEq

namespace InstanceId

def index (card : InstanceId) : Nat := card.number.toNat

def ofIndex (index : Nat) : InstanceId := ⟨index.toUInt32⟩

theorem index_inj {left right : InstanceId} : left.index = right.index ↔ left = right := by
  cases left
  cases right
  simp [index, UInt32.toNat_inj]

theorem index_ofIndex {place : Nat} (small : place < UInt32.size) : (ofIndex place).index = place := by
  simp only [index, ofIndex, Nat.toUInt32, UInt32.toNat_ofNat']
  exact Nat.mod_eq_of_lt small

theorem ofIndex_index (card : InstanceId) : ofIndex card.index = card := by
  simp [ofIndex, index]

def label (card : InstanceId) : String := "Instance(" ++ toString card.number ++ ")"

end InstanceId

end CardDuel
