/-
This file defines what an effect waits for.
-/

import CardDuel.Effect.Filter

namespace CardDuel

inductive TriggerEvent where
  | summoned
  | specialSummoned
  | flipSummoned
  | destroyed
  | destroyedByBattle
  | sentToGraveyard
  | attackDeclared
  | damageTaken
deriving DecidableEq

def TriggerEvent.ofName? (name : String) : Option TriggerEvent :=
  if name = "summoned" then some .summoned
  else if name = "special_summoned" then some .specialSummoned
  else if name = "flip_summoned" then some .flipSummoned
  else if name = "destroyed" then some .destroyed
  else if name = "destroyed_by_battle" then some .destroyedByBattle
  else if name = "sent_to_graveyard" then some .sentToGraveyard
  else if name = "attack_declared" then some .attackDeclared
  else if name = "damage_taken" then some .damageTaken
  else none

inductive TriggerSubject where
  | this
  | any
deriving DecidableEq

def TriggerSubject.ofName? (name : String) : Option TriggerSubject :=
  if name = "self" then some .this else if name = "any" then some .any else none

structure TriggerSpec where
  event : TriggerEvent
  subject : TriggerSubject
  side : Side
  /-- This tells whether the controller may leave the effect unused. -/
  optional : Bool
deriving DecidableEq

end CardDuel
