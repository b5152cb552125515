/-
This file shows that the bytes of cards, zones and modifiers are read exactly as they are written.
-/

import CardDuel.Proofs.Snapshot.Codec
import CardDuel.Snapshot.Card

namespace CardDuel

/-- This tells that the place of a card in a row has 64 bits. -/
def CardInstance.Storable (card : CardInstance) : Prop := ∀ slot ∈ card.slot, slot < UInt64.size

structure PlayerZones.Storable (zones : PlayerZones) : Prop where
  deck : zones.deck.length < UInt64.size
  hand : zones.hand.length < UInt64.size
  monsters : zones.monsters.length < UInt64.size
  spells : zones.spells.length < UInt64.size
  graveyard : zones.graveyard.length < UInt64.size
  banished : zones.banished.length < UInt64.size

namespace Snapshot

open Codec

theorem cardId_exact : cardId.Exact fun _ => True :=
  record_exact word32_exact (fun _ => rfl) fun _ => rfl

theorem instanceId_exact : instanceId.Exact fun _ => True :=
  record_exact word32_exact (fun _ => rfl) fun _ => rfl

theorem seat_exact : seat.Exact fun _ => True := by
  apply refine_exact byte_exact
  intro number player _
  constructor
  · intro found
    rw [Seat.ofNumber?] at found
    split at found
    · next zero => rw [← Option.some.inj found, zero]; rfl
    · split at found
      · next one => rw [← Option.some.inj found, one]; rfl
      · simp at found
  · rintro rfl
    exact player.ofNumber?_number

theorem perSeat_exact {α : Type} {codec : Codec α} {fits : α → Prop} (exact : codec.Exact fits) :
    (perSeat codec).Exact fun table => fits table.first ∧ fits table.second :=
  record_exact (pair_exact exact exact) (fun _ => rfl) fun _ => rfl

theorem zone_exact : zone.Exact fun _ => True :=
  oneOf_exact (by decide) (fun value => by cases value <;> decide) (by decide)

theorem phase_exact : phase.Exact fun _ => True :=
  oneOf_exact (by decide) (fun value => by cases value <;> decide) (by decide)

theorem category_exact : category.Exact fun _ => True :=
  oneOf_exact (by decide) (fun value => by cases value <;> decide) (by decide)

theorem position_exact : position.Exact fun _ => True :=
  oneOf_exact (by decide) (fun value => by cases value <;> decide) (by decide)

theorem destruction_exact : destruction.Exact fun _ => True :=
  oneOf_exact (by decide) (fun value => by cases value <;> decide) (by decide)

theorem stat_exact : stat.Exact fun _ => True :=
  oneOf_exact (by decide) (fun value => by cases value <;> decide) (by decide)

theorem duration_exact : duration.Exact fun _ => True :=
  oneOf_exact (by decide) (fun value => by cases value <;> decide) (by decide)

theorem statLine_exact : statLine.Exact fun _ => True :=
  (record_exact (pair_exact word32_exact (pair_exact word32_exact word32_exact))
    (fun _ => rfl) fun _ => rfl).congr fun _ => by simp

theorem turnFlags_exact : turnFlags.Exact fun _ => True :=
  (pair_exact bool_exact (pair_exact bool_exact (pair_exact bool_exact (pair_exact bool_exact
    (option_exact destruction_exact))))).congr fun _ => by simp

theorem cardInstance_exact : cardInstance.Exact CardInstance.Storable := by
  have fields := pair_exact instanceId_exact (pair_exact cardId_exact (pair_exact category_exact
    (pair_exact seat_exact (pair_exact zone_exact (pair_exact (option_exact size_exact)
    (pair_exact position_exact (pair_exact statLine_exact (pair_exact statLine_exact
    (pair_exact bool_exact (pair_exact word32_exact turnFlags_exact))))))))))
  exact (record_exact fields (fun _ => rfl) fun _ => rfl).congr fun _ => by
    simp [CardInstance.Storable]

theorem playerZones_exact : playerZones.Exact PlayerZones.Storable := by
  have pile := list_exact instanceId_exact
  have row := list_exact (option_exact instanceId_exact)
  have fields := pair_exact pile (pair_exact pile (pair_exact row (pair_exact row
    (pair_exact pile pile))))
  unfold playerZones
  apply (record_exact fields (fun _ => rfl) fun _ => rfl).congr
  intro zones
  simp only [implies_true, fitsAll_true]
  constructor
  · intro ⟨deck, hand, monsters, spells, graveyard, banished⟩
    exact ⟨deck, hand, monsters, spells, graveyard, banished⟩
  · intro ⟨deck, hand, monsters, spells, graveyard, banished⟩
    exact ⟨deck, hand, monsters, spells, graveyard, banished⟩

theorem playerState_exact : playerState.Exact fun player => player.zones.Storable :=
  (record_exact (pair_exact word32_exact (pair_exact playerZones_exact
    (pair_exact bool_exact bool_exact))) (fun _ => rfl) fun _ => rfl).congr fun _ => by simp

theorem alteration_exact : alteration.Exact fun _ => True := by
  refine choice_exact Alteration.ctorIdx
    (.cons (constant_exact ?_ trivial) <|
      .cons (case_exact (pair_exact stat_exact signed32_exact) ?_ ?_ ?_) <|
      .cons (case_exact (pair_exact stat_exact word32_exact) ?_ ?_ ?_) .nil) ?_ (by decide)
  all_goals
    intro value
    first
    | rfl
    | cases value <;> rfl
    | cases value <;> simp [Alteration.ctorIdx]

theorem modifier_exact : modifier.Exact fun _ => True :=
  (record_exact (pair_exact instanceId_exact (pair_exact instanceId_exact (pair_exact alteration_exact
    (pair_exact duration_exact word32_exact)))) (fun _ => rfl) fun _ => rfl).congr fun _ => by simp

theorem shuffler_exact : shuffler.Exact fun _ => True :=
  (record_exact (pair_exact word64_exact word64_exact) (fun _ => rfl) fun _ => rfl).congr
    fun _ => by simp

end Snapshot

end CardDuel
