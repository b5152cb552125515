/-
This file defines which cards an effect looks at.
-/

import CardDuel.Card.Instance

namespace CardDuel

/-- This is a side of the table, seen from the controller of an effect. -/
inductive Side where
  | controller
  | opponent
  | either
deriving DecidableEq

namespace Side

def ofName? (name : String) : Option Side :=
  if name = "controller" ∨ name = "own" then some controller
  else if name = "opponent" then some opponent
  else if name = "any" ∨ name = "either" then some either
  else none

def includes (side : Side) (controller player : Seat) : Bool :=
  match side with
  | .controller => player = controller
  | .opponent => player ≠ controller
  | .either => true

def players (side : Side) (controller : Seat) : List Seat :=
  Seat.both.filter (side.includes controller)

end Side

inductive Scope where
  | field
  | zone (zone : Zone)
deriving DecidableEq

namespace Scope

def contains (scope : Scope) (zone : Zone) : Bool :=
  match scope with
  | field => zone.isField
  | .zone only => only = zone

def ofName? (name : String) : Option Scope :=
  if name = "field" then some field else (Zone.ofName? name).map Scope.zone

end Scope

structure CardFilter where
  scope : Scope
  side : Side
  category : Option Category
  card : Option CardId
  maxLevel : Option UInt32
  minAttack : Option UInt32
  maxAttack : Option UInt32
  faceUp : Bool
  excludeSelf : Bool
deriving DecidableEq

namespace CardFilter

def fieldMonsters (side : Side) : CardFilter where
  scope := .zone .monsters
  side := side
  category := some .monster
  card := none
  maxLevel := none
  minAttack := none
  maxAttack := none
  faceUp := false
  excludeSelf := false

/-- This tells whether a card meets what a filter says about the card itself, wherever it is. -/
def matchesCard (filter : CardFilter) (card : CardInstance) : Bool :=
  filter.category.all (· = card.category) &&
  filter.card.all (· = card.card) &&
  (!filter.faceUp || card.position.isFaceUp) &&
  filter.maxLevel.all (card.current.level ≤ ·) &&
  filter.minAttack.all (· ≤ card.current.attack) &&
  filter.maxAttack.all (card.current.attack ≤ ·)

/-- This tells whether a filter of an effect of `source` matches a card. -/
def matchesFor (filter : CardFilter) (controller : Seat) (source : InstanceId)
    (card : CardInstance) : Bool :=
  !(filter.excludeSelf && card.id = source) &&
  filter.scope.contains card.zone &&
  filter.side.includes controller card.owner &&
  filter.matchesCard card

end CardFilter

end CardDuel
