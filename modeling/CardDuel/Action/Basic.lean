/-
This file defines what a player can do.
-/

import CardDuel.Card.Id

namespace CardDuel

inductive ActionKind where
  | activateEffect
  | passPriority
  | declareAttack
  | normalSummon
  | specialSummon
  | setCard
  | changePosition
  | enterBattlePhase
  | enterMainPhase2
  | endTurn
  | forfeit
deriving DecidableEq

def ActionKind.name : ActionKind → String
  | activateEffect => "activate_effect"
  | passPriority => "pass_priority"
  | declareAttack => "declare_attack"
  | normalSummon => "normal_summon"
  | specialSummon => "special_summon"
  | setCard => "set_card"
  | changePosition => "change_position"
  | enterBattlePhase => "enter_battle_phase"
  | enterMainPhase2 => "enter_main_phase_2"
  | endTurn => "end_turn"
  | forfeit => "forfeit"

inductive Action where
  | activateEffect (card : InstanceId) (effect : Nat) (targets cost : List InstanceId)
  | passPriority
  | declareAttack (attacker : InstanceId) (target : Option InstanceId)
  | normalSummon (card : InstanceId) (tributes : List InstanceId)
  | specialSummon (card : InstanceId)
  | setCard (card : InstanceId) (tributes : List InstanceId)
  | changePosition (card : InstanceId)
  | enterBattlePhase
  | enterMainPhase2
  | endTurn
  | forfeit
deriving DecidableEq

namespace Action

def kind : Action → ActionKind
  | activateEffect .. => .activateEffect
  | passPriority => .passPriority
  | declareAttack .. => .declareAttack
  | normalSummon .. => .normalSummon
  | specialSummon _ => .specialSummon
  | setCard .. => .setCard
  | changePosition _ => .changePosition
  | enterBattlePhase => .enterBattlePhase
  | enterMainPhase2 => .enterMainPhase2
  | endTurn => .endTurn
  | forfeit => .forfeit

def name (action : Action) : String := action.kind.name

def withTargets (action : Action) (targets : List InstanceId) : Action :=
  match action with
  | activateEffect card effect _ cost => activateEffect card effect targets cost
  | _ => action

def withCost (action : Action) (cost : List InstanceId) : Action :=
  match action with
  | activateEffect card effect targets _ => activateEffect card effect targets cost
  | _ => action

def isDirectAttack : Action → Bool
  | declareAttack _ none => true
  | _ => false

def isPhaseAction : Action → Bool
  | enterBattlePhase | enterMainPhase2 | endTurn => true
  | _ => false

def text (action : Action) : String :=
  match action with
  | activateEffect card effect _ _ =>
    action.name ++ "(" ++ card.label ++ ", #" ++ toString effect ++ ")"
  | declareAttack attacker (some target) =>
    action.name ++ "(" ++ attacker.label ++ " -> " ++ target.label ++ ")"
  | declareAttack attacker none => action.name ++ "(" ++ attacker.label ++ " -> direct)"
  | normalSummon card _ | specialSummon card | setCard card _ | changePosition card =>
    action.name ++ "(" ++ card.label ++ ")"
  | _ => action.name

end Action

end CardDuel
