/-
This file defines why a step is refused: violations, which come from the state of the table, and
rejections, which answer a player.
-/

import CardDuel.Action.Basic
import CardDuel.Effect.Kind
import CardDuel.Phase
import CardDuel.Seat
import CardDuel.Zone.Kind

namespace CardDuel

/-- This is why a change of the table or an effect is not possible. -/
inductive Violation where
  | targetMoved (card : InstanceId)
  | missingCard (card : InstanceId)
  | notOnField (card : InstanceId)
  | notInZone (card : InstanceId) (zone : Zone)
  | deckEmpty (player : Seat)
  | notEnoughCards (player : Seat) (needed available : Nat)
  | noFreeZone (player : Seat) (zone : Zone)
  | notAMonster (card : InstanceId)
  | unknownTemplate (card : CardId)
  | noPreviousLink
  | noAttack
  | wrongTargetKind
deriving DecidableEq

def Violation.message : Violation → String
  | targetMoved card => card.label ++ " left its zone after it was targeted"
  | missingCard card => card.label ++ " does not exist"
  | notOnField card => card.label ++ " is not on the field"
  | notInZone card zone => card.label ++ " is not in the " ++ zone.name
  | deckEmpty player => player.label ++ " has no cards left to draw"
  | notEnoughCards player needed available =>
    player.label ++ " needs " ++ toString needed ++ " card(s) but only has " ++ toString available
  | noFreeZone player zone => player.label ++ " has no free " ++ zone.name ++ " slot"
  | notAMonster card => card.label ++ " is not a monster"
  | unknownTemplate card => card.label ++ " is not in the catalog"
  | noPreviousLink => "there is no chain link below this one"
  | noAttack => "there is no attack in progress"
  | wrongTargetKind => "the selector resolved to the wrong kind of target"

inductive ActivationObstacle where
  | negated
  | waitsForEvent
  | notFaceUp
  | noEvent
  | monster
  | trapInHand
  | quickPlayOnOtherTurn
  | setThisTurn
  | alreadyActive
  | elsewhere
deriving DecidableEq

def ActivationObstacle.message : ActivationObstacle → String
  | negated => "its effects are negated"
  | waitsForEvent => "trigger effects are used when their event happens"
  | notFaceUp => "the card must be face-up on the field"
  | noEvent => "there is no event to respond to"
  | monster => "monsters have no card activation"
  | trapInHand => "traps must be set before they are activated"
  | quickPlayOnOtherTurn => "quick-play spells are played from the hand only during your turn"
  | setThisTurn => "it cannot be activated the turn it was set"
  | alreadyActive => "the card is already active"
  | elsewhere => "spells and traps are activated from the hand or the field"

inductive CostProblem where
  | wrongCount
  | notEnoughLife
  | notFromHand
  | notFromField
  | cardLeft
deriving DecidableEq

def CostProblem.message : CostProblem → String
  | wrongCount => "wrong number of cost cards"
  | notEnoughLife => "not enough life points"
  | notFromHand => "cost cards must come from your hand"
  | notFromField => "cost monsters must come from your field"
  | cardLeft => "the card has already left play"

inductive TargetProblem where
  | wrongCount
  | repeated
  | noMatch
  | monsterSet
deriving DecidableEq

def TargetProblem.message : TargetProblem → String
  | wrongCount => "wrong number of targets"
  | repeated => "the same card was chosen twice"
  | noMatch => "target does not match the effect"
  | monsterSet => "monsters are set with tributes"

inductive AttackProblem where
  | notOnField
  | notInAttackPosition
  | alreadyAttacked
  | monsterInTheWay
  | badTarget
deriving DecidableEq

def AttackProblem.message : AttackProblem → String
  | notOnField => "attacker is not on the field"
  | notInAttackPosition => "attacker is not in attack position"
  | alreadyAttacked => "attacker has already attacked this turn"
  | monsterInTheWay => "cannot attack directly while the opponent controls a monster"
  | badTarget => "target must be a monster the opponent controls"

inductive PositionProblem where
  | notOnField
  | arrivedThisTurn
  | changedThisTurn
  | attackedThisTurn
deriving DecidableEq

def PositionProblem.message : PositionProblem → String
  | notOnField => "not a monster on the field"
  | arrivedThisTurn => "it arrived on the field this turn"
  | changedThisTurn => "it already changed position this turn"
  | attackedThisTurn => "it attacked this turn"

/-- This is why an action of a player is refused. -/
inductive Rejection where
  | gameOver
  | noPriority (player : Seat)
  | notTurnPlayer (player : Seat)
  | wrongPhase (action : ActionKind) (phase : Phase)
  | chainInProgress
  | nothingToPass
  | normalSummonUsed
  | wrongTributeCount (needed provided : Nat)
  | invalidTribute (card : InstanceId)
  | noFreeZone (zone : Zone)
  | unknownCard (card : InstanceId)
  | notInHand (card : InstanceId)
  | notAMonster (card : InstanceId)
  | notOwner (card : InstanceId)
  | unknownEffect (card : InstanceId) (effect : Nat)
  | notActivatable (card : InstanceId) (obstacle : ActivationObstacle)
  | speedTooLow (speed needed : UInt8)
  | limitReached (card : InstanceId) (limit : ActivationLimit)
  | conditionNotMet (card : InstanceId)
  | cannotPayCost (problem : CostProblem)
  | invalidTargets (problem : TargetProblem)
  | invalidAttack (problem : AttackProblem)
  | cannotChangePosition (problem : PositionProblem)
  | summonConditionNotMet (card : CardId)
  | nothingToTimeOut (player : Seat)
  | violated (violation : Violation)
deriving DecidableEq

inductive RejectionClass where
  | legality
  | invariant
  | terminal
deriving DecidableEq

namespace Rejection

def message : Rejection → String
  | gameOver => "the duel is over"
  | noPriority player => player.label ++ " does not hold priority"
  | notTurnPlayer player => player.label ++ " is not the turn player"
  | wrongPhase action phase =>
    action.name ++ " is not legal during the " ++ phase.name ++ " phase"
  | chainInProgress => "a chain or response window is still open"
  | nothingToPass => "there is nothing to respond to"
  | normalSummonUsed => "normal summon already used"
  | wrongTributeCount needed provided =>
    "summon requires " ++ toString needed ++ " tribute(s), " ++ toString provided ++ " given"
  | invalidTribute card => card.label ++ " cannot be tributed"
  | noFreeZone zone => "no free " ++ zone.name ++ " slot"
  | unknownCard card => card.label ++ " does not exist"
  | notInHand card => card.label ++ " is not in the hand"
  | notAMonster card => card.label ++ " is not a monster"
  | notOwner card => card.label ++ " is not controlled by the acting player"
  | unknownEffect card effect => card.label ++ " has no effect #" ++ toString effect
  | notActivatable card obstacle => card.label ++ " cannot be activated: " ++ obstacle.message
  | speedTooLow speed needed =>
    "spell speed " ++ toString speed ++ " cannot respond to spell speed " ++ toString needed
  | limitReached card limit => card.label ++ " already used its " ++ limit.label ++ " activation"
  | conditionNotMet card => "the activation condition of " ++ card.label ++ " is not met"
  | cannotPayCost problem => "cost cannot be paid: " ++ problem.message
  | invalidTargets problem => "invalid targets: " ++ problem.message
  | invalidAttack problem => "invalid attack: " ++ problem.message
  | cannotChangePosition problem => "cannot change position: " ++ problem.message
  | summonConditionNotMet card => "the special summon condition of " ++ card.label ++ " is not met"
  | nothingToTimeOut player => "nothing to time out for " ++ player.label
  | violated violation => violation.message

def code : Rejection → String
  | gameOver => "game_over"
  | noPriority _ => "no_priority"
  | notTurnPlayer _ => "not_turn_player"
  | wrongPhase .. => "wrong_phase"
  | chainInProgress => "chain_in_progress"
  | nothingToPass => "nothing_to_pass"
  | normalSummonUsed => "normal_summon_used"
  | wrongTributeCount .. => "wrong_tribute_count"
  | invalidTribute _ => "invalid_tribute"
  | noFreeZone _ => "no_free_zone"
  | unknownCard _ => "unknown_card"
  | notInHand _ => "not_in_hand"
  | notAMonster _ => "not_a_monster"
  | notOwner _ => "not_owner"
  | unknownEffect .. => "unknown_effect"
  | notActivatable .. => "not_activatable"
  | speedTooLow .. => "spell_speed_too_low"
  | limitReached .. => "limit_reached"
  | conditionNotMet _ => "condition_not_met"
  | cannotPayCost _ => "cannot_pay_cost"
  | invalidTargets _ => "invalid_targets"
  | invalidAttack _ => "invalid_attack"
  | cannotChangePosition _ => "cannot_change_position"
  | summonConditionNotMet _ => "summon_condition_not_met"
  | nothingToTimeOut _ => "nothing_to_time_out"
  | violated _ => "invariant_violation"

def classOf : Rejection → RejectionClass
  | gameOver => .terminal
  | violated _ => .invariant
  | _ => .legality

/-- This tells whether the duel goes on after a rejection. -/
def isRecoverable (rejection : Rejection) : Bool := rejection.classOf ≠ .terminal

end Rejection

end CardDuel
