/-
This file defines the physical cards of a duel.
-/

import CardDuel.Card.Id
import CardDuel.Card.Kind
import CardDuel.Seat
import CardDuel.Zone.Kind

namespace CardDuel

inductive Position where
  | faceUpAttack
  | faceUpDefense
  | faceDownDefense
  | faceUp
  | faceDown
deriving DecidableEq

namespace Position

def isFaceUp : Position → Bool
  | faceUpAttack | faceUpDefense | faceUp => true
  | faceDownDefense | faceDown => false

def isAttack : Position → Bool
  | faceUpAttack => true
  | _ => false

def isDefense : Position → Bool
  | faceUpDefense | faceDownDefense => true
  | _ => false

def inPile (zone : Zone) : Position := if zone.isHidden then faceDown else faceUp

end Position

inductive Destruction where
  | battle
  | effect
deriving DecidableEq

/-- This is one physical card of a duel. -/
structure CardInstance where
  id : InstanceId
  card : CardId
  category : Category
  owner : Seat
  zone : Zone
  /-- This is the place in a row of the field. -/
  slot : Option Nat
  position : Position
  base : StatLine
  current : StatLine
  negated : Bool
  /-- This counts the moves of the card, so that a card that left and came back is told apart. -/
  moves : UInt32
  summonedThisTurn : Bool
  setThisTurn : Bool
  hasAttacked : Bool
  positionChanged : Bool
  /-- This marks a card that the next sweep destroys. -/
  destruction : Option Destruction
deriving DecidableEq

namespace CardInstance

/-- This is a new card, face-down in the deck of its owner. -/
def create (id : InstanceId) (card : CardId) (kind : CardKind) (owner : Seat) : CardInstance where
  id := id
  card := card
  category := kind.category
  owner := owner
  zone := .deck
  slot := none
  position := .faceDown
  base := kind.baseStats
  current := kind.baseStats
  negated := false
  moves := 0
  summonedThisTurn := false
  setThisTurn := false
  hasAttacked := false
  positionChanged := false
  destruction := none

def isMonster (card : CardInstance) : Bool := card.category = .monster

def isOnField (card : CardInstance) : Bool := card.zone.isField

def isFaceUpOnField (card : CardInstance) : Bool := card.isOnField && card.position.isFaceUp

/-- This tells whether a card may still declare an attack this turn. -/
def canAttack (card : CardInstance) : Bool :=
  card.zone = .monsters && card.position.isAttack && !card.hasAttacked

/-- This is the stat with which a card defends itself. -/
def battleValue (card : CardInstance) : UInt32 :=
  if card.position.isDefense then card.current.defense else card.current.attack

def resetTurnFlags (card : CardInstance) : CardInstance :=
  { card with
    summonedThisTurn := false
    setThisTurn := false
    hasAttacked := false
    positionChanged := false }

/-- This moves a card to a zone; off the field it has its printed stats and is not negated. -/
def relocate (card : CardInstance) (zone : Zone) (slot : Option Nat) (position : Position) :
    CardInstance :=
  let arrived := { card.resetTurnFlags with
    zone := zone, slot := slot, position := position, moves := card.moves + 1, destruction := none }
  if zone.isField then arrived
  else { arrived with current := card.base, negated := false }

end CardInstance

end CardDuel
