/-
This file defines the cards of a catalog.
-/

import CardDuel.Effect.Tree

namespace CardDuel

/-- This is a card as it is printed. -/
structure CardTemplate where
  id : CardId
  name : String
  kind : CardKind
  effects : List CardEffect
  continuous : List Ability
  /-- This is what a monster asks for to be special summoned from the hand. -/
  specialSummon : Option Condition

def CardTemplate.effect? (template : CardTemplate) (index : Nat) : Option CardEffect :=
  template.effects[index]?

/-- This is a set of cards with different numbers, in the order in which they were read. -/
structure Catalog where
  templates : List CardTemplate

namespace Catalog

def get? (catalog : Catalog) (card : CardId) : Option CardTemplate :=
  catalog.templates.find? fun template => template.id = card

def contains (catalog : Catalog) (card : CardId) : Bool := (catalog.get? card).isSome

def size (catalog : Catalog) : Nat := catalog.templates.length

def effect? (catalog : Catalog) (card : CardId) (index : Nat) : Option CardEffect :=
  (catalog.get? card).bind fun template => template.effect? index

/-- This is the list of the cards ordered by number. -/
def sorted (catalog : Catalog) : List CardTemplate :=
  catalog.templates.mergeSort fun left right => left.id.number ≤ right.id.number

end Catalog

end CardDuel
