/-
This file lists what a player may do.
-/

import CardDuel.Action.Combination
import CardDuel.Play.Activation
import CardDuel.Play.Battle

namespace CardDuel

namespace GameState

def positionChange (state : GameState) (player : Seat) (card : InstanceId) :
    Except Rejection Position := do
  let found ← state.ownCard player card
  if found.zone ≠ .monsters then throw (.cannotChangePosition .notOnField)
  if found.summonedThisTurn || found.setThisTurn then
    throw (.cannotChangePosition .arrivedThisTurn)
  if found.positionChanged then throw (.cannotChangePosition .changedThisTurn)
  if found.hasAttacked then throw (.cannotChangePosition .attackedThisTurn)
  return if found.position = .faceUpAttack then .faceUpDefense else .faceUpAttack

def candidates (state : GameState) (player : Seat) (card : InstanceId) (filter : CardFilter) :
    List InstanceId :=
  (state.cards.filter (filter.matchesFor player card)).map CardInstance.id

/-- This extends each of several choices by each of the choices for one more description. -/
def extendChoices (choices picks : List (List InstanceId)) : List (List InstanceId) :=
  choices.flatMap fun choice =>
    (picks.filter fun pick => !pick.any choice.contains).map (choice ++ ·)

def targetChoices (state : GameState) (effect : CardEffect) (player : Seat) (card : InstanceId) :
    List (List InstanceId) :=
  effect.targets.foldl (fun choices spec =>
    extendChoices choices (combinations (state.candidates player card spec.filter) spec.count))
    [[]]

def costChoices (state : GameState) (cost : Option Cost) (player : Seat) (card : InstanceId) :
    List (List InstanceId) :=
  match cost with
  | none => [[]]
  | some cost =>
    match cost.resource with
    | .hand =>
      combinations ((state.zones player).hand.filter (· ≠ card)) cost.cardsNamed
    | .field =>
      combinations (((state.zones player).cards .monsters).filter (· ≠ card)) cost.cardsNamed
    | .lifePoints | .this => [[]]

def effectActivations (state : GameState) (catalog : Catalog) (player : Seat) (card : InstanceId)
    (index : Nat) : List Action :=
  match state.checkActivation catalog player card index with
  | .error _ => []
  | .ok plan =>
    let costs := state.costChoices plan.effect.cost player card
    (state.targetChoices plan.effect player card).flatMap fun targets =>
      (costs.filter fun cost =>
        (state.checkChoices plan.effect player card targets cost).isOk).map fun cost =>
          .activateEffect card index targets cost

def cardActivations (state : GameState) (catalog : Catalog) (player : Seat)
    (card : CardInstance) : List Action :=
  match catalog.get? card.card with
  | none => []
  | some template =>
    (List.range template.effects.length).flatMap
      (state.effectActivations catalog player card.id)

def legalActivations (state : GameState) (catalog : Catalog) (player : Seat) : List Action :=
  (state.cards.filter fun card => card.owner = player).flatMap
    (state.cardActivations catalog player)

/-- This tells whether a player can answer. -/
def hasResponse (state : GameState) (catalog : Catalog) (player : Seat) : Bool :=
  !(state.legalActivations catalog player).isEmpty

def monsterActions (state : GameState) (config : DuelConfig) (player : Seat) (card : InstanceId)
    (level : UInt32) : List Action :=
  ((combinations (state.tributeCandidates player) (config.tributesForLevel level)).filter
    fun tributes => (state.validateNormalSummon config player card tributes).isOk).flatMap
      fun tributes => [.normalSummon card tributes, .setCard card tributes]

def handActions (state : GameState) (rules : Rules) (player : Seat) (card : InstanceId) :
    List Action :=
  match state.card? card with
  | none => []
  | some found =>
    if found.isMonster then
      state.monsterActions rules.config player card found.base.level ++
        (if (state.validateSpecialSummon rules.catalog player card).isOk then
          [.specialSummon card] else [])
    else if (state.validateSpellSet player card).isOk then [.setCard card []]
    else []

def positionActions (state : GameState) (player : Seat) : List Action :=
  (((state.zones player).cards .monsters).filter fun card =>
    (state.positionChange player card).isOk).map .changePosition

def attackActions (state : GameState) (player : Seat) : List Action :=
  ((state.zones player).cards .monsters).flatMap fun attacker =>
    ((state.attackTargets player).filter fun target =>
      (state.validateAttack player attacker target).isOk).map fun target =>
        .declareAttack attacker target

def phaseActions (state : GameState) (config : DuelConfig) : List Action :=
  match state.phase with
  | .main1 =>
    (if state.turn > 1 || config.firstTurnBattle then [.enterBattlePhase] else []) ++ [.endTurn]
  | .battle => [.enterMainPhase2, .endTurn]
  | .main2 => [.endTurn]
  | _ => []

def turnActions (state : GameState) (rules : Rules) (player : Seat) : List Action :=
  (if state.phase.isMain then
    (state.zones player).hand.flatMap (state.handActions rules player) ++
      state.positionActions player
  else []) ++
  (if state.phase = .battle then state.attackActions player else []) ++
  state.phaseActions rules.config

def canPass (state : GameState) : Bool := !state.chain.isEmpty || state.window.isSome

/-- These are the actions that a player may take; giving up is not listed. -/
def legalActions (state : GameState) (rules : Rules) (player : Seat) : List Action :=
  if state.outcome.isSome ∨ state.priorityHolder ≠ player then []
  else
    (if state.canPass then [.passPriority] else []) ++
    state.legalActivations rules.catalog player ++
    (if state.isOpen && player = state.turnPlayer then state.turnActions rules player else [])

end GameState

end CardDuel
