/-
This file tells what the records of uses hold after a use is counted and after a turn begins.
-/

import CardDuel.Activations
import CardDuel.Proofs.Accepted
import Mathlib.Data.List.Nodup

namespace CardDuel

namespace ActivationRecord

/-- This is what a record is about. -/
def key (record : ActivationRecord) : InstanceId × Nat := (record.card, record.effect)

theorem isFor_iff {record : ActivationRecord} {card : InstanceId} {effect : Nat} :
    record.isFor card effect = true ↔ record.key = (card, effect) := by
  simp [isFor, key]

@[simp] theorem isFor_increment (record : ActivationRecord) (card : InstanceId) (effect : Nat) :
    record.increment.isFor card effect = record.isFor card effect := rfl

end ActivationRecord

namespace Activations

variable (activations : Activations) (card other : InstanceId) (effect index : Nat)

/-! One more use -/

theorem record_nil : (⟨[]⟩ : Activations).record card effect = ⟨[⟨card, effect, 1, 1⟩]⟩ := rfl

/-- A use is counted in the first record of its key. -/
theorem record_cons (entry : ActivationRecord) (rest : List ActivationRecord) :
    (⟨entry :: rest⟩ : Activations).record card effect =
      if entry.isFor card effect then ⟨entry.increment :: rest⟩
      else ⟨entry :: ((⟨rest⟩ : Activations).record card effect).records⟩ := by
  rw [record, List.findIdx?_cons]
  by_cases own : entry.isFor card effect = true
  · simp [own]
  · simp only [own, Bool.false_eq_true, if_false]
    rw [record]
    cases found : List.findIdx? (fun entry => entry.isFor card effect) rest with
    | none => rfl
    | some place => rfl

theorem find?_nil : (⟨[]⟩ : Activations).find? other index = none := rfl

theorem find?_cons (entry : ActivationRecord) (rest : List ActivationRecord) :
    (⟨entry :: rest⟩ : Activations).find? other index =
      if entry.isFor other index then some entry else (⟨rest⟩ : Activations).find? other index := by
  rw [find?, List.find?_cons]
  by_cases own : entry.isFor other index = true
  · simp [own]
  · simp [own, find?]

/-- The record of a counted use is the one that was there, with one more use, or a new one. -/
theorem find?_record_self :
    (activations.record card effect).find? card effect =
      some (((activations.find? card effect).map ActivationRecord.increment).getD
        ⟨card, effect, 1, 1⟩) := by
  obtain ⟨records⟩ := activations
  induction records with
  | nil => simp [record_nil, find?_cons, find?_nil, ActivationRecord.isFor]
  | cons entry rest ih =>
    rw [record_cons, find?_cons]
    by_cases own : entry.isFor card effect = true
    · simp [own, find?_cons]
    · simp [own, find?_cons, ih]

/-- The record of another effect stays as it is. -/
theorem find?_record_of_ne (different : (other, index) ≠ (card, effect)) :
    (activations.record card effect).find? other index = activations.find? other index := by
  have unlike {entry : ActivationRecord} (own : entry.isFor card effect = true) :
      entry.isFor other index = false := by
    rw [ActivationRecord.isFor_iff] at own
    rw [Bool.eq_false_iff, ne_eq, ActivationRecord.isFor_iff, own]
    exact fun same => different same.symm
  obtain ⟨records⟩ := activations
  induction records with
  | nil =>
    rw [record_nil, find?_cons, if_neg]
    rw [unlike (by simp [ActivationRecord.isFor])]
    simp
  | cons entry rest ih =>
    rw [record_cons, find?_cons]
    by_cases own : entry.isFor card effect = true
    · simp [own, find?_cons, unlike own]
    · simp [own, find?_cons, ih]

/-- A use counts once for the turn. -/
theorem countThisTurn_record : (activations.record card effect).countThisTurn other index =
    activations.countThisTurn other index + if (other, index) = (card, effect) then 1 else 0 := by
  by_cases same : (other, index) = (card, effect)
  · obtain ⟨rfl, rfl⟩ := Prod.mk.inj same
    rw [countThisTurn, find?_record_self, countThisTurn]
    cases activations.find? other index <;> simp [ActivationRecord.increment]
  · rw [countThisTurn, find?_record_of_ne _ _ _ _ _ same, if_neg same, UInt32.add_zero]
    rfl

/-- A use counts once for the duel. -/
theorem countThisDuel_record : (activations.record card effect).countThisDuel other index =
    activations.countThisDuel other index + if (other, index) = (card, effect) then 1 else 0 := by
  by_cases same : (other, index) = (card, effect)
  · obtain ⟨rfl, rfl⟩ := Prod.mk.inj same
    rw [countThisDuel, find?_record_self, countThisDuel]
    cases activations.find? other index <;> simp [ActivationRecord.increment]
  · rw [countThisDuel, find?_record_of_ne _ _ _ _ _ same, if_neg same, UInt32.add_zero]
    rfl

/-- A use of one effect does not count against another one. -/
theorem check_record_of_ne (different : (other, index) ≠ (card, effect))
    (limit : Option ActivationLimit) :
    (activations.record card effect).check other index limit =
      activations.check other index limit := by
  have kept := find?_record_of_ne activations card other effect index different
  cases limit with
  | none => rfl
  | some limit => cases limit <;> simp [check, countThisTurn, countThisDuel, kept]

/-! One record for each effect -/

/-- This tells that no effect of a card has two records. -/
def Keyed : Prop := (activations.records.map ActivationRecord.key).Nodup

variable {activations}

/-- A use adds a key at most. -/
theorem keys_record : ((activations.record card effect).records.map ActivationRecord.key) =
    if (card, effect) ∈ activations.records.map ActivationRecord.key then
      activations.records.map ActivationRecord.key
    else activations.records.map ActivationRecord.key ++ [(card, effect)] := by
  obtain ⟨records⟩ := activations
  induction records with
  | nil => simp [record_nil, ActivationRecord.key]
  | cons entry rest ih =>
    rw [record_cons]
    by_cases own : entry.isFor card effect = true
    · have here := ActivationRecord.isFor_iff.mp own
      have kept : entry.increment.key = entry.key := rfl
      simp [own, here, kept]
    · have elsewhere : ¬(card, effect) = entry.key :=
        fun same => own (ActivationRecord.isFor_iff.mpr same.symm)
      simp only [own, Bool.false_eq_true, if_false, List.map_cons, ih, List.mem_cons, elsewhere,
        false_or]
      split <;> rfl

theorem Keyed.record (keyed : activations.Keyed) : (activations.record card effect).Keyed := by
  rw [Keyed, keys_record]
  split
  · exact keyed
  · next fresh =>
    refine List.nodup_append.mpr ⟨keyed, List.nodup_singleton _, ?_⟩
    rintro key member _ new rfl
    exact fresh (List.mem_singleton.mp new ▸ member)

/-- With one record for each effect a record is found under its own key. -/
theorem Keyed.find?_eq (keyed : activations.Keyed) {entry : ActivationRecord}
    (member : entry ∈ activations.records) :
    activations.find? entry.card entry.effect = some entry := by
  obtain ⟨records⟩ := activations
  induction records with
  | nil => simp at member
  | cons first rest ih =>
    obtain ⟨fresh, others⟩ := List.nodup_cons.mp keyed
    rw [find?_cons]
    rcases List.mem_cons.mp member with rfl | later
    · simp [ActivationRecord.isFor]
    · have different : ¬first.isFor entry.card entry.effect = true := by
        intro own
        rw [ActivationRecord.isFor_iff] at own
        exact fresh (own ▸ List.mem_map_of_mem later)
      rw [if_neg different]
      exact ih others later

/-! A new turn -/

theorem find?_resetTurn : activations.resetTurn.find? card effect =
    (activations.find? card effect).map fun entry => { entry with thisTurn := 0 } := by
  obtain ⟨records⟩ := activations
  simp only [find?, resetTurn, List.find?_map]
  rfl

/-- A new turn forgets the uses of the turn. -/
theorem countThisTurn_resetTurn : activations.resetTurn.countThisTurn card effect = 0 := by
  rw [countThisTurn, find?_resetTurn]
  cases activations.find? card effect <;> rfl

/-- A new turn remembers the uses of the duel. -/
theorem countThisDuel_resetTurn : activations.resetTurn.countThisDuel card effect =
    activations.countThisDuel card effect := by
  rw [countThisDuel, find?_resetTurn, countThisDuel]
  cases activations.find? card effect <;> rfl

theorem Keyed.resetTurn (keyed : activations.Keyed) : activations.resetTurn.Keyed := by
  rw [Keyed, Activations.resetTurn, List.map_map]
  exact keyed

end Activations

end CardDuel
