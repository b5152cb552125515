/-
This file defines the sweep after every step: marked cards are destroyed, and the duel ends when a
player has lost.
-/

import CardDuel.State.Change
import CardDuel.State.Continuous

namespace CardDuel

namespace GameState

def endDuel (state : GameState) (result : GameResult) : GameState :=
  if state.outcome.isSome then state
  else { state with outcome := some result }.record (.gameEnded result)

def losers (state : GameState) : List Seat :=
  Seat.both.filter fun seat =>
    (state.player seat).life = 0 || (state.player seat).deckOut

def resultFor? : List Seat → Option GameResult
  | [] => none
  | [loser] => some (.winner loser.opponent)
  | _ => some .draw

def checkLoss (state : GameState) : GameState :=
  match resultFor? state.losers with
  | some result => state.endDuel result
  | none => state

/-- These are the marked cards on the field with the causes. -/
def marked (state : GameState) : List (InstanceId × Destruction) :=
  state.cards.filterMap fun card =>
    if card.isOnField then card.destruction.map fun cause => (card.id, cause) else none

/-- This sends a marked card to the graveyard; a card that cannot move loses its mark. -/
def destroyMarked (state : GameState) (entry : InstanceId × Destruction) : GameState :=
  let (card, cause) := entry
  match state.relocate card .graveyard .top .faceUp with
  | .ok (origin, next) =>
    (next.record (.cardMoved card origin .graveyard)).record
      (.destroyed card (cause = .battle))
  | .error _ => state.modifyCard card fun found => { found with destruction := none }

/-- This is a refreshed state in which all marked cards were destroyed. -/
def razedRound (state : GameState) (catalog : Catalog) : GameState :=
  (state.refresh catalog).marked.foldl destroyMarked (state.refresh catalog)

/-- This refreshes a state and destroys its marked cards in rounds until none is marked. -/
def destroyInRounds (catalog : Catalog) : (rounds : Nat) → GameState → GameState
  | 0, state => state.refresh catalog
  | rounds + 1, state =>
    let fresh := state.refresh catalog
    match fresh.marked with
    | [] => fresh
    | entries => destroyInRounds catalog rounds (entries.foldl destroyMarked fresh)

/--
A sweep has no bound of its own: either it ends after its first round, or a mark is left that no later round
clears. No sweep that comes to an end makes so many rounds.
-/
def maxRounds : Nat := UInt64.size

def destroyAllMarked (state : GameState) (catalog : Catalog) : GameState :=
  destroyInRounds catalog maxRounds state

def sweep (state : GameState) (catalog : Catalog) : GameState :=
  (state.destroyAllMarked catalog).checkLoss

variable {state : GameState} {catalog : Catalog}

theorem destroyInRounds_of_unmarked (clean : (state.refresh catalog).marked = []) (rounds : Nat) :
    destroyInRounds catalog rounds state = state.refresh catalog := by
  cases rounds with
  | zero => rfl
  | succ rounds => rw [destroyInRounds, clean]

theorem destroyInRounds_of_marked (marks : (state.refresh catalog).marked ≠ []) (rounds : Nat) :
    destroyInRounds catalog (rounds + 1) state =
      destroyInRounds catalog rounds (state.razedRound catalog) := by
  rw [destroyInRounds, razedRound]
  split
  · next clean => exact absurd clean marks
  · rfl

theorem destroyAllMarked_of_unmarked (clean : (state.refresh catalog).marked = []) :
    state.destroyAllMarked catalog = state.refresh catalog :=
  destroyInRounds_of_unmarked clean maxRounds

/-- One round is enough when it leaves no mark. -/
theorem destroyAllMarked_of_round (marks : (state.refresh catalog).marked ≠ [])
    (clean : ((state.razedRound catalog).refresh catalog).marked = []) :
    state.destroyAllMarked catalog = (state.razedRound catalog).refresh catalog := by
  rw [destroyAllMarked, show maxRounds = UInt64.size - 1 + 1 from rfl, destroyInRounds_of_marked marks,
    destroyInRounds_of_unmarked clean]

end GameState

end CardDuel
