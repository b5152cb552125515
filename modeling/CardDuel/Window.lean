/-
This file defines the response window, in which players may answer events.
-/

import CardDuel.Event
import CardDuel.Rejection

namespace CardDuel

/-- This is an effect that can follow an event. -/
structure TriggeredEffect where
  source : InstanceId
  sourceMoves : UInt32
  card : CardId
  effect : Nat
  controller : Seat
  speed : Speed
  optional : Bool
deriving DecidableEq

def TriggeredEffect.isFor (trigger : TriggeredEffect) (card : InstanceId) (effect : Nat) : Bool :=
  trigger.source = card && trigger.effect = effect

inductive WindowPass where
  | priorityTo (player : Seat)
  | closed
deriving DecidableEq

/-- This holds the events that can be answered, the effects on offer and the player to answer. -/
structure ResponseWindow where
  events : List GameEvent
  optional : List TriggeredEffect
  holder : Seat
  passes : UInt8
deriving DecidableEq

namespace ResponseWindow

/-- This is a window in which nobody has passed. -/
def fresh (events : List GameEvent) (optional : List TriggeredEffect) (holder : Seat) :
    ResponseWindow := ⟨events, optional, holder, 0⟩

/-- This passes; the second pass closes the window. -/
def pass (window : ResponseWindow) (player : Seat) :
    Except Rejection (WindowPass × ResponseWindow) :=
  if player ≠ window.holder then .error (.noPriority player)
  else
    let passes := window.passes + 1
    if passes ≥ 2 then .ok (.closed, { window with passes := passes })
    else .ok (.priorityTo window.holder.opponent,
      { window with passes := passes, holder := window.holder.opponent })

def offer? (window : ResponseWindow) (card : InstanceId) (effect : Nat) : Option TriggeredEffect :=
  window.optional.find? fun trigger => trigger.isFor card effect

/-- This removes the first offer of an effect of a card. -/
def take (window : ResponseWindow) (card : InstanceId) (effect : Nat) : ResponseWindow :=
  { window with optional := window.optional.eraseP fun trigger => trigger.isFor card effect }

end ResponseWindow

end CardDuel
