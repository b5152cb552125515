/-
This file defines the changes that last: modifiers on one card, and the abilities that make them.
-/

import CardDuel.Effect.Condition

namespace CardDuel

inductive Duration where
  | whileSourceActive
  | endOfTurn
  | untilLeavesField
deriving DecidableEq

/-- This is the duration with a written name; effects cannot ask for the first one. -/
def Duration.ofName? (name : String) : Option Duration :=
  if name = "end_of_turn" then some .endOfTurn
  else if name = "leaves_field" then some .untilLeavesField
  else none

inductive Alteration where
  | negate
  | delta (stat : Stat) (amount : Int32)
  | override (stat : Stat) (value : UInt32)
deriving DecidableEq

/-- This is the order in which alterations count: the later layer has the last word. -/
inductive Layer where
  | negation
  | numeric
  | override
deriving DecidableEq

def Alteration.layer : Alteration → Layer
  | negate => .negation
  | delta .. => .numeric
  | override .. => .override

structure Modifier where
  source : InstanceId
  target : InstanceId
  alteration : Alteration
  duration : Duration
  /-- This is the move count of the target when the change was made. -/
  targetMoves : UInt32
deriving DecidableEq

/-- This is a lasting change that a card makes while it is face-up on the field. -/
structure Ability where
  affects : CardFilter
  alteration : Alteration
  condition : Option Condition

end CardDuel
