/-
This file defines what a player sees of a duel. Cards in decks are not seen, and neither are the
opponent's hand and face-down cards.
-/

import CardDuel.State.Basic

namespace CardDuel

structure CardView where
  id : InstanceId
  owner : Seat
  card : Option CardId
  category : Option Category
  position : Position
  stats : Option StatLine
deriving DecidableEq

namespace CardView

def of (visible : Bool) (card : CardInstance) : CardView where
  id := card.id
  owner := card.owner
  card := if visible then some card.card else none
  category := if visible then some card.category else none
  position := card.position
  stats := if visible then some card.current else none

def isHidden (view : CardView) : Bool := view.card.isNone

end CardView

structure PlayerView where
  player : Seat
  life : UInt32
  deckSize : Nat
  hand : List CardView
  monsters : List (Option CardView)
  spells : List (Option CardView)
  graveyard : List CardView
  banished : List CardView
  normalSummonUsed : Bool
deriving DecidableEq

namespace PlayerView

def of (state : GameState) (viewer player : Seat) : PlayerView :=
  let own := viewer = player
  let zones := state.zones player
  let pile (visible : Bool) (cards : List InstanceId) : List CardView :=
    cards.filterMap fun card => (state.card? card).map (CardView.of visible)
  let row (slots : List (Option InstanceId)) : List (Option CardView) :=
    slots.map fun slot => (slot.bind state.card?).map fun card =>
      CardView.of (own || card.position.isFaceUp) card
  { player := player
    life := (state.player player).life
    deckSize := zones.deck.length
    hand := pile own zones.hand
    monsters := row zones.monsters
    spells := row zones.spells
    graveyard := pile true zones.graveyard
    banished := pile true zones.banished
    normalSummonUsed := (state.player player).normalSummonUsed }

end PlayerView

structure LinkView where
  number : Nat
  source : InstanceId
  card : CardId
  effect : Nat
  controller : Seat
  speed : UInt8
  negated : Bool
deriving DecidableEq

/-- This is a link without its targets. -/
def LinkView.of (link : ChainLink) : LinkView where
  number := link.number
  source := link.source
  card := link.card
  effect := link.effect
  controller := link.controller
  speed := link.speed.value
  negated := link.negated

structure DuelView where
  viewer : Seat
  version : UInt64
  turn : UInt32
  phase : Phase
  turnPlayer : Seat
  priority : Seat
  own : PlayerView
  opponent : PlayerView
  chain : List LinkView
  windowOpen : Bool
  attack : Option (InstanceId × Option InstanceId)
  outcome : Option GameResult
deriving DecidableEq

def DuelView.of (state : GameState) (viewer : Seat) : DuelView where
  viewer := viewer
  version := state.version
  turn := state.turn
  phase := state.phase
  turnPlayer := state.turnPlayer
  priority := state.priorityHolder
  own := .of state viewer viewer
  opponent := .of state viewer viewer.opponent
  chain := state.chain.links.map .of
  windowOpen := state.window.isSome
  attack := state.pendingAttack.map fun attack => (attack.attacker, attack.target)
  outcome := state.outcome

end CardDuel
