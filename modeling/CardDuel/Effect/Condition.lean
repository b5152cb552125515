/-
This file defines the conditions that effects and abilities ask for.
-/

import CardDuel.Effect.Filter
import CardDuel.Phase

namespace CardDuel

/-- This is a question about the duel, seen from a controller and a source card. -/
inductive Condition where
  | always
  | lifeAtMost (side : Side) (amount : UInt32)
  | lifeAtLeast (side : Side) (amount : UInt32)
  | handAtLeast (side : Side) (count : Nat)
  | count (filter : CardFilter) (atLeast atMost : Option Nat)
  | phase (phase : Phase)
  | all (conditions : List Condition)
  | any (conditions : List Condition)
  | not (condition : Condition)

def Condition.noMonsters (side : Side) : Condition :=
  .count (.fieldMonsters side) none (some 0)

end CardDuel
