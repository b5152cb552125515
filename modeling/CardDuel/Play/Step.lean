/-
This file carries out the actions of players. An action that is refused changes nothing.
-/

import CardDuel.Play.Response
import CardDuel.Play.Turn

namespace CardDuel

namespace GameState

/-- This refuses the actions of a turn to the other player and while an answer is awaited. -/
def openTurn (state : GameState) (player : Seat) : Except Rejection Unit :=
  if player ≠ state.turnPlayer then .error (.notTurnPlayer player)
  else if !state.isOpen then .error .chainInProgress
  else .ok ()

def mainPhase (state : GameState) (action : ActionKind) : Except Rejection Unit :=
  if state.phase.isMain then .ok () else .error (.wrongPhase action state.phase)

def applyChanges (state : GameState) (changes : List Change) : Except Rejection GameState :=
  changes.foldlM applyChange state

def placement (plan : SummonPlan) (isSet : Bool) : Change :=
  if isSet then .setMonster plan.card else .summon plan.card .faceUpAttack plan.kind

/-- This summons a monster from the hand, or sets it. -/
def normalSummon (state : GameState) (config : DuelConfig) (player : Seat) (card : InstanceId)
    (tributes : List InstanceId) (isSet : Bool) : Except Rejection GameState := do
  state.openTurn player
  state.mainPhase (if isSet then .setCard else .normalSummon)
  let plan ← state.validateNormalSummon config player card tributes
  let next ← state.applyChanges (plan.tributes.map .toGraveyard ++ [placement plan isSet])
  return next.modifyPlayer player fun entry => { entry with normalSummonUsed := true }

def setCard (state : GameState) (config : DuelConfig) (player : Seat) (card : InstanceId)
    (tributes : List InstanceId) : Except Rejection GameState := do
  let found ← state.knownCard card
  if found.isMonster then state.normalSummon config player card tributes true
  else
    state.openTurn player
    state.mainPhase .setCard
    match tributes with
    | tribute :: _ => throw (.invalidTribute tribute)
    | [] =>
      state.validateSpellSet player card
      state.applyChange (.placeSpell card false)

def specialSummon (state : GameState) (catalog : Catalog) (player : Seat) (card : InstanceId) :
    Except Rejection GameState := do
  state.openTurn player
  state.mainPhase .specialSummon
  state.validateSpecialSummon catalog player card
  state.applyChange (.summon card .faceUpAttack .special)

/-- This changes the position of a monster; turning it face-up is a summon. -/
def changePosition (state : GameState) (player : Seat) (card : InstanceId) :
    Except Rejection GameState := do
  state.openTurn player
  state.mainPhase .changePosition
  let position ← state.positionChange player card
  let flips := (state.card? card).any fun found => found.position = .faceDownDefense
  let turned ← state.applyChange (.changePosition card position)
  let noted := turned.modifyCard card fun found => { found with positionChanged := true }
  return if flips then noted.record (.summoned card player .flip) else noted

def declareAttack (state : GameState) (player : Seat) (attacker : InstanceId)
    (target : Option InstanceId) : Except Rejection GameState := do
  state.openTurn player
  if state.phase ≠ .battle then throw (.wrongPhase .declareAttack state.phase)
  state.validateAttack player attacker target
  let found ← (state.requireCard attacker).mapError .violated
  let noted := state.modifyCard attacker fun card => { card with hasAttacked := true }
  let declared := { noted with
    pendingAttack := some (.declare found (target.bind state.card?)) }
  return declared.record (.attackDeclared attacker target)

def placementChanges (card : InstanceId) : Placement → List Change
  | .stay => []
  | .fromHand => [.placeSpell card true]
  | .flip => [.changePosition card .faceUp]

def costChanges (player : Seat) (card : InstanceId) (paid : List InstanceId) :
    Option Cost → List Change
  | none => []
  | some cost =>
    match cost.resource with
    | .lifePoints => [.payLife player cost.amount]
    | .this => [.toGraveyard card]
    | .hand | .field => paid.map .toGraveyard

/-- These are the targets as they are now; cards that do not exist are left out. -/
def bindTargets (state : GameState) (targets : List InstanceId) : List BoundTarget :=
  targets.filterMap fun target => (state.card? target).map fun found => ⟨target, found.moves⟩

/-- This counts the use of an effect and takes it off the offers of a window. -/
def noteActivation (state : GameState) (card : InstanceId) (index : Nat) : GameState :=
  { state with
    activations := state.activations.record card index
    window := state.window.map fun window => window.take card index }

def activate (state : GameState) (catalog : Catalog) (player : Seat) (card : InstanceId)
    (index : Nat) (targets paid : List InstanceId) : Except Rejection GameState := do
  let plan ← state.checkActivation catalog player card index
  state.checkChoices plan.effect player card targets paid
  let told := state.record (.effectActivated card index player)
  let placed ← told.applyChanges (placementChanges card plan.placement)
  let payed ← placed.applyChanges (costChanges player card paid plan.effect.cost)
  let noted := payed.noteActivation card index
  let source ← (noted.requireCard card).mapError .violated
  let chained ← noted.pushLink
    ⟨0, card, source.moves, source.card, index, player, plan.effect.speed,
      noted.bindTargets targets, false⟩
  return chained.sweep catalog

/-- This carries out an action without what follows from it. -/
def dispatch (state : GameState) (rules : Rules) (player : Seat) (action : Action) :
    Except Rejection GameState :=
  match action with
  | .forfeit => .ok (state.endDuel (.winner player.opponent))
  | .passPriority => state.passPriority rules player
  | .activateEffect card index targets paid =>
    if state.priorityHolder ≠ player then .error (.noPriority player)
    else state.activate rules.catalog player card index targets paid
  | .declareAttack attacker target => state.declareAttack player attacker target
  | .normalSummon card tributes => state.normalSummon rules.config player card tributes false
  | .setCard card tributes => state.setCard rules.config player card tributes
  | .specialSummon card => state.specialSummon rules.catalog player card
  | .changePosition card => state.changePosition player card
  | .enterBattlePhase => do
    state.openTurn player
    state.enterBattlePhase rules.config
  | .enterMainPhase2 => do
    state.openTurn player
    state.enterMainPhase2
  | .endTurn => do
    state.openTurn player
    state.endTurn rules

/-- This carries out an action and everything that follows from it by itself. -/
def step (state : GameState) (rules : Rules) (player : Seat) (action : Action) :
    Except Rejection GameState := do
  state.ensureRunning
  let acted ← state.dispatch rules player action
  let settled := (acted.sweep rules.catalog).settle rules.catalog
  return { settled with version := settled.version + 1 }

/-- This is the action that is taken for a player who is out of time. -/
def timeoutAction (state : GameState) (player : Seat) : Except Rejection Action :=
  if state.canPass && state.priorityHolder = player then .ok .passPriority
  else if state.isOpen && player = state.turnPlayer && state.phase.isPlayable then .ok .endTurn
  else .error (.nothingToTimeOut player)

def timeout (state : GameState) (rules : Rules) (player : Seat) : Except Rejection GameState := do
  state.ensureRunning
  let action ← state.timeoutAction player
  state.step rules player action

end GameState

end CardDuel
