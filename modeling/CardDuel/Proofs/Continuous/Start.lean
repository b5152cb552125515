/-
This file shows that the results of lasting changes are fresh in the first turn too, which no sweep ends:
before the first action there is no card on the field to make any.
-/

import CardDuel.Proofs.Continuous.Fresh
import CardDuel.Proofs.Table.Anchor

namespace CardDuel

namespace GameState

variable {state before after next : GameState} {catalog : Catalog} {player : Seat}

/-- This tells that no card is on the field. -/
def OffField (state : GameState) : Prop := ∀ card ∈ state.cards, card.isOnField = false

/-- Cards that differ in their stored results only are in the same places. -/
theorem exists_card (same : after.cards.map CardInstance.bare = before.cards.map CardInstance.bare)
    {card : CardInstance} (member : card ∈ after.cards) :
    ∃ old ∈ before.cards, old.bare = card.bare := by
  rw [← List.mem_map, ← same]
  exact List.mem_map_of_mem member

namespace OffField

theorem bare (off : before.OffField)
    (same : after.cards.map CardInstance.bare = before.cards.map CardInstance.bare) :
    after.OffField := by
  intro card member
  obtain ⟨old, there, equal⟩ := exists_card same member
  have zone : old.zone = card.zone := (congrArg CardInstance.zone equal :)
  rw [CardInstance.isOnField, ← zone]
  exact off old there

theorem relocate (off : before.OffField) {card : InstanceId} {zone origin : Zone} {place : Place}
    {position : Position} (away : zone.isField = false)
    (moved : before.relocate card zone place position = .ok (origin, after)) : after.OffField := by
  obtain ⟨found, remaining, _, _, _, _, rfl⟩ := relocate_cases moved
  intro entry member
  obtain ⟨spot, present⟩ := List.mem_iff_getElem?.mp member
  rcases of_getElem?_arrived present with stayed | ⟨_, old, slot, _, rfl⟩
  · exact off entry (List.mem_of_getElem? stayed)
  · simp [CardInstance.isOnField, away]

theorem draw (off : before.OffField) {card : InstanceId}
    (drawn : (Change.draw player card).apply before = .ok after) : after.OffField := by
  simp only [Change.apply, bind_eq_ok, pure_eq_ok, guard_eq_ok] at drawn
  obtain ⟨_, ⟨_, middle⟩, moved, rfl⟩ := drawn
  have reached : middle.OffField := off.relocate rfl moved
  exact reached

theorem refresh (off : state.OffField) (catalog : Catalog) : (state.refresh catalog).OffField :=
  off.bare (state.sameBoard_refresh catalog).cards

theorem sweep (off : state.OffField) (catalog : Catalog) : (state.sweep catalog).OffField := by
  have fresh := off.refresh catalog
  have unmarked : (state.refresh catalog).marked = [] := by
    rw [marked, List.filterMap_eq_nil_iff]
    intro card member
    simp [fresh card member]
  rw [GameState.sweep, destroyAllMarked_of_unmarked unmarked, checkLoss]
  split
  · rw [endDuel]
    split
    · exact fresh
    · exact fresh
  · exact fresh

theorem drawn (off : state.OffField) (rules : Rules) : (state.drawn rules).OffField := by
  have begun : ((state.passTurn state.nextPlayer).enterPhase .draw).OffField := by
    intro card member
    obtain ⟨old, there, rfl⟩ := List.mem_map.mp member
    exact off old there
  rw [GameState.drawn]
  split
  · rw [drawForTurn]
    split
    · rw [Change.applyPossible, List.foldl_cons, List.foldl_nil]
      split
      · next made => exact begun.draw made
      · exact begun
    · exact begun
  · exact begun

end OffField

/-- Cards that are not on the field make no lasting changes. -/
theorem OffField.staticModifiers (off : state.OffField) :
    state.staticModifiers catalog = [] := by
  have empty : (state.cards.filter fun card => card.isFaceUpOnField && !card.negated) = [] := by
    apply List.filter_eq_nil_iff.mpr
    intro card member
    simp [CardInstance.isFaceUpOnField, off card member]
  rw [GameState.staticModifiers, empty]
  rfl

theorem OffField.grantedBoard (off : state.OffField) : state.grantedBoard.OffField :=
  off.bare (bare_withResults (state.length_statsUnder _) (state.length_flagsOf _))

/-- Without cards on the field the phase changes nothing. -/
theorem Fresh.enterPhase (fresh : state.Fresh catalog) (off : state.OffField) (phase : Phase) :
    (state.enterPhase phase).Fresh catalog := by
  have entered : (state.enterPhase phase).OffField := off
  have recomputed : (state.enterPhase phase).recompute catalog = state.recompute catalog := by
    simp only [recompute, off.grantedBoard.staticModifiers, entered.grantedBoard.staticModifiers]
    rfl
  rw [Fresh, recomputed]
  exact fresh

theorem startTurn_fresh {rules : Rules} (off : state.OffField) :
    (state.startTurn rules).Fresh rules.catalog := by
  have swept := sweep_fresh (state.drawn rules) rules.catalog
  have away := (off.drawn rules).sweep rules.catalog
  rw [startTurn_eq]
  split
  · exact swept
  · exact (swept.enterPhase away .standby).enterPhase away .main1

end GameState

namespace DuelSetup

open GameState

variable {setup : DuelSetup} {requests : List Request} {duel : Duel} {state next : GameState}
  {player : Seat}

theorem withDecks_offField (setup : DuelSetup) : setup.withDecks.OffField := by
  intro found member
  obtain ⟨_, _, _, _, _, rfl⟩ := mem_withDecks setup member
  rfl

theorem drawCards_offField {count : Nat} (off : state.OffField)
    (drawn : drawCards player count state = .ok next) : next.OffField := by
  induction count generalizing state with
  | zero =>
    obtain rfl := Except.ok.inj drawn
    exact off
  | succ count ih =>
    rw [drawCards] at drawn
    split at drawn
    · obtain rfl := Except.ok.inj drawn
      exact off
    · obtain ⟨middle, first, others⟩ := bind_eq_ok.mp drawn
      exact ih (off.draw first) others

theorem dealHands_offField {players : List Seat} (off : state.OffField)
    (dealt : players.foldlM setup.dealHand state = .ok next) : next.OffField := by
  induction players generalizing state with
  | nil =>
    obtain rfl := pure_eq_ok.mp dealt
    exact off
  | cons player rest ih =>
    rw [List.foldlM_cons] at dealt
    obtain ⟨middle, first, others⟩ := bind_eq_ok.mp dealt
    refine ih ?_ others
    rw [dealHand] at first
    split at first
    · obtain ⟨shuffled, shuffles, drawn⟩ := bind_eq_ok.mp first
      have away : shuffled.OffField := by
        obtain rfl := Except.ok.inj shuffles
        exact off
      exact drawCards_offField away drawn
    · exact drawCards_offField off first

theorem build_cached (built : setup.build = .ok duel) :
    duel.state.Cached setup.rules.catalog := by
  obtain ⟨_, _, _, dealt, hands, rfl⟩ := build_eq_ok.mp built
  exact (startTurn_fresh (dealHands_offField setup.withDecks_offField hands)).settle

/-- In every state of a run the stored results are fresh, or triggers have just been paid. -/
theorem Run.cached (run : setup.Run requests duel) : duel.state.Cached setup.rules.catalog :=
  run.keeps build_cached fun stepped _ => step_cached stepped

end DuelSetup

end CardDuel
