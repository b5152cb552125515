/-
This file defines what can happen in a duel.
-/

import CardDuel.Card.Instance
import CardDuel.Phase

namespace CardDuel

inductive SummonKind where
  | normal
  | tribute
  | special
  | flip
deriving DecidableEq

inductive EffectOutcome where
  | applied
  | negated
  | aborted
deriving DecidableEq

inductive GameResult where
  | winner (player : Seat)
  | draw
deriving DecidableEq

namespace GameResult

def isWinner (result : GameResult) (player : Seat) : Bool :=
  match result with
  | winner seat => seat = player
  | draw => false

def text : GameResult → String
  | winner player => player.label ++ " wins"
  | draw => "draw"

end GameResult

inductive GameEvent where
  | turnStarted (player : Seat) (turn : UInt32)
  | phaseChanged (phase : Phase)
  | cardDrawn (player : Seat) (card : InstanceId)
  | summoned (card : InstanceId) (player : Seat) (kind : SummonKind)
  | cardSet (card : InstanceId) (player : Seat)
  | positionChanged (card : InstanceId) (position : Position)
  | attackDeclared (attacker : InstanceId) (target : Option InstanceId)
  | attackNegated (attacker : InstanceId)
  | attackCancelled (attacker : InstanceId)
  | battleResolved (attacker : InstanceId) (target : Option InstanceId)
  | damage (player : Seat) (amount : UInt32) (byBattle : Bool)
  | lifeGained (player : Seat) (amount : UInt32)
  | lifePaid (player : Seat) (amount : UInt32)
  | cardMoved (card : InstanceId) (origin destination : Zone)
  | destroyed (card : InstanceId) (byBattle : Bool)
  | deckShuffled (player : Seat)
  | effectActivated (card : InstanceId) (effect : Nat) (player : Seat)
  | chainLinkAdded (number : Nat) (card : InstanceId) (speed : UInt8)
  | chainLinkResolved (number : Nat) (card : InstanceId) (outcome : EffectOutcome)
  | effectAborted (number : Nat) (card : InstanceId) (reason : String)
  | chainResolved (length : Nat)
  | priorityPassed (player : Seat)
  | windowOpened (holder : Seat)
  | windowClosed
  | handLimitDiscard (player : Seat) (card : InstanceId)
  | gameEnded (result : GameResult)
deriving DecidableEq

namespace GameEvent

/-- This tells whether effects can follow an event. -/
def canTrigger : GameEvent → Bool
  | summoned .. | attackDeclared .. | damage .. | cardMoved .. | destroyed .. => true
  | _ => false

def subject? : GameEvent → Option InstanceId
  | cardDrawn _ card | summoned card .. | cardSet card _ | positionChanged card _
  | cardMoved card .. | destroyed card _ | effectActivated card .. | chainLinkAdded _ card _
  | chainLinkResolved _ card _ | effectAborted _ card _ | handLimitDiscard _ card => some card
  | attackDeclared attacker _ | attackNegated attacker | attackCancelled attacker
  | battleResolved attacker _ => some attacker
  | _ => none

def name : GameEvent → String
  | turnStarted .. => "turn_started"
  | phaseChanged _ => "phase_changed"
  | cardDrawn .. => "card_drawn"
  | summoned .. => "summoned"
  | cardSet .. => "card_set"
  | positionChanged .. => "position_changed"
  | attackDeclared .. => "attack_declared"
  | attackNegated _ => "attack_negated"
  | attackCancelled _ => "attack_cancelled"
  | battleResolved .. => "battle_resolved"
  | damage .. => "damage"
  | lifeGained .. => "life_gained"
  | lifePaid .. => "life_paid"
  | cardMoved .. => "card_moved"
  | destroyed .. => "destroyed"
  | deckShuffled _ => "deck_shuffled"
  | effectActivated .. => "effect_activated"
  | chainLinkAdded .. => "chain_link_added"
  | chainLinkResolved .. => "chain_link_resolved"
  | effectAborted .. => "effect_aborted"
  | chainResolved _ => "chain_resolved"
  | priorityPassed _ => "priority_passed"
  | windowOpened _ => "window_opened"
  | windowClosed => "window_closed"
  | handLimitDiscard .. => "hand_limit_discard"
  | gameEnded _ => "game_ended"

end GameEvent

structure LoggedEvent where
  seq : UInt64
  turn : UInt32
  event : GameEvent
deriving DecidableEq

end CardDuel
