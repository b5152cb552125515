/-
This file tells when conditions hold.
-/

import CardDuel.State.Basic

namespace CardDuel

namespace Condition

def someone (state : GameState) (side : Side) (controller : Seat) (property : PlayerState → Bool) :
    Bool :=
  (side.players controller).any fun seat => property (state.player seat)

mutual

def holds (state : GameState) (controller : Seat) (source : InstanceId) : Condition → Bool
  | .always => true
  | .lifeAtMost side amount => someone state side controller fun entry => entry.life ≤ amount
  | .lifeAtLeast side amount => someone state side controller fun entry => entry.life ≥ amount
  | .handAtLeast side size =>
    someone state side controller fun entry => entry.zones.hand.length ≥ size
  | .count filter atLeast atMost =>
    let found := state.cards.countP (filter.matchesFor controller source)
    atLeast.all (· ≤ found) && atMost.all (found ≤ ·)
  | .phase wanted => state.phase = wanted
  | .all conditions => allHold state controller source conditions
  | .any conditions => someHolds state controller source conditions
  | .not condition => !holds state controller source condition

def allHold (state : GameState) (controller : Seat) (source : InstanceId) : List Condition → Bool
  | [] => true
  | condition :: rest =>
    holds state controller source condition && allHold state controller source rest

def someHolds (state : GameState) (controller : Seat) (source : InstanceId) :
    List Condition → Bool
  | [] => false
  | condition :: rest =>
    holds state controller source condition || someHolds state controller source rest

end

def holdsIfAny (condition : Option Condition) (state : GameState) (controller : Seat)
    (source : InstanceId) : Bool :=
  condition.all (holds state controller source)

end Condition

end CardDuel
