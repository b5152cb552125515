/-
This file defines when a state is settled: no card waits for its destruction and no loss waits to be
told. A sweep only recomputes the lasting changes of such a state.
-/

import CardDuel.Proofs.Flow.Sweep

namespace CardDuel

namespace GameState

variable {state next before after : GameState} {catalog : Catalog}

/-- A sweep without marked cards recomputes lasting changes and looks for losers. -/
theorem sweep_of_unmarked (unmarked : state.marked = []) (catalog : Catalog) :
    state.sweep catalog = (state.refresh catalog).checkLoss := by
  have clean : (state.refresh catalog).marked = [] := (marked_refresh state catalog).trans unmarked
  rw [sweep, destroyAllMarked_of_unmarked clean]

/-- A refresh leaves every card where it is. -/
theorem whereabouts_refresh (state : GameState) (catalog : Catalog) (card : InstanceId) :
    ((state.refresh catalog).card? card).map CardInstance.whereabouts =
      (state.card? card).map CardInstance.whereabouts := by
  have same : (state.refresh catalog).cards.map CardInstance.whereabouts =
      state.cards.map CardInstance.whereabouts := map_cards_refresh (fun _ => rfl) state catalog
  rw [card?, card?, ← List.getElem?_map, ← List.getElem?_map, same]

def lostBy (state : GameState) (loser : Seat) : GameState :=
  ({ state with outcome := some (.winner loser.opponent) } : GameState).record
    (.gameEnded (.winner loser.opponent))

/-- If one player lost and the other one did not, that player is the only loser. -/
theorem losers_eq_singleton {loser : Seat} (lost : loser ∈ state.losers)
    (other : loser.opponent ∉ state.losers) : state.losers = [loser] := by
  rw [mem_losers] at lost other
  cases loser with
  | first => simp_all [losers, Seat.both, Seat.opponent]
  | second => simp_all [losers, Seat.both, Seat.opponent]

/-- A duel ends at once when a look finds one loser. -/
theorem checkLoss_of_loser {loser : Seat} (running : state.outcome = none)
    (lost : state.losers = [loser]) : state.checkLoss = state.lostBy loser := by
  rw [checkLoss, lost]
  dsimp only [resultFor?]
  rw [endDuel, running]
  rfl

/-- This tells that a consistent state has no card that a sweep destroys and no player whose loss it notes. -/
structure Settled (state : GameState) : Prop where
  consistent : state.Consistent
  unmarked : state.marked = []
  judged : state.outcome = none → state.losers = []

namespace Settled

/-- A consistent state that a sweep leaves alone is settled. -/
theorem of_sweep_eq (consistent : state.Consistent) (stable : state.sweep catalog = state) :
    state.Settled := by
  refine ⟨consistent, stable ▸ marked_sweep consistent catalog, ?_⟩
  intro running
  have outcome := state.sweep_outcome catalog
  rw [stable, running, Option.none_or] at outcome
  rw [← (SameLife.destroyAllMarked state catalog).losers]
  exact resultFor?_eq_none_iff.mp outcome.symm

/-- A sweep of a settled state only refreshes it. -/
theorem sweep_eq (settled : state.Settled) (catalog : Catalog) :
    state.sweep catalog = state.refresh catalog := by
  rw [sweep_of_unmarked settled.unmarked]
  rcases (state.refresh catalog).checkLoss_cases with same | ⟨running, result, same⟩
  · exact same
  · have losers : (state.refresh catalog).losers = [] := settled.judged running
    rw [checkLoss, losers]
    rfl

/-- A state with the same cards, players and result is settled, too. -/
theorem same (settled : before.Settled) (cards : after.cards = before.cards)
    (players : after.players = before.players) (outcome : after.outcome = before.outcome) :
    after.Settled where
  consistent := by
    have zones (seat : Seat) : after.zones seat = before.zones seat := by
      rw [zones, zones, player, player, players]
    exact (Shifts.of_still ⟨by rw [cards], zones⟩).consistent settled.consistent
  unmarked := by
    rw [marked, cards]
    exact settled.unmarked
  judged := by
    have lives : SameLife before after := fun seat => by
      rw [player, player, players]
      exact ⟨rfl, rfl⟩
    rw [outcome, lives.losers]
    exact settled.judged

theorem refresh (settled : state.Settled) (catalog : Catalog) : (state.refresh catalog).Settled where
  consistent := (Shifts.of_still (.refresh state catalog)).consistent settled.consistent
  unmarked := (marked_refresh state catalog).trans settled.unmarked
  judged := settled.judged

/-- A card that moves loses its mark, and nobody loses by it. -/
theorem relocate (settled : state.Settled) {card : InstanceId} {zone origin : Zone} {place : Place}
    {position : Position} (moved : state.relocate card zone place position = .ok (origin, next)) :
    next.Settled := by
  have consistent := (Shifts.of_move moved).consistent settled.consistent
  have lives := SameLife.relocate moved
  obtain ⟨found, remaining, _, _, _, _, rfl⟩ := relocate_cases moved
  refine ⟨consistent, marked_eq_nil_iff.mpr ?_, ?_⟩
  · intro entry member
    obtain ⟨spot, there⟩ := List.mem_iff_getElem?.mp member
    rcases of_getElem?_arrived there with stayed | ⟨_, old, slot, _, rfl⟩
    · exact marked_eq_nil_iff.mp settled.unmarked entry (List.mem_of_getElem? stayed)
    · rw [CardInstance.mark?, CardInstance.destruction_relocate]
      exact ite_self none
  · intro running
    rw [lives.losers]
    exact settled.judged running

/-- A new turn marks no card and takes no life. -/
theorem passTurn (settled : state.Settled) (seat : Seat) : (state.passTurn seat).Settled where
  consistent := (Shifts.of_still (.passTurn state seat)).consistent settled.consistent
  unmarked := by
    apply marked_eq_nil_iff.mpr
    intro card member
    rw [GameState.passTurn, cards_record] at member
    obtain ⟨old, early, rfl⟩ := List.mem_map.mp member
    exact marked_eq_nil_iff.mp settled.unmarked old early
  judged := by
    have lives : SameLife state (state.passTurn seat) := fun other => by
      rw [GameState.passTurn, player_record, player, PerSeat.get_map]
      exact ⟨rfl, rfl⟩
    rw [lives.losers]
    exact settled.judged

end Settled

end GameState

end CardDuel
