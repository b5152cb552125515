/-
This file tells which effects may be activated, on which targets and at which cost.
-/

import CardDuel.Play.Summon
import CardDuel.State.Trigger

namespace CardDuel

inductive Timing where
  | whenOpen
  | inWindow
  | onChain (top : Speed)
deriving DecidableEq

inductive Placement where
  | stay
  | fromHand
  | flip
deriving DecidableEq

/-- This is an activation that is allowed. -/
structure ActivationPlan where
  effect : CardEffect
  placement : Placement

namespace GameState

/-- This is the present moment; while an attack waits without a window nothing can be activated. -/
def timing (state : GameState) : Except Rejection Timing :=
  match state.chain.top? with
  | some top => .ok (.onChain top.speed)
  | none =>
    if state.window.isSome then .ok .inWindow
    else if state.pendingAttack.isSome then .error .chainInProgress
    else .ok .whenOpen

/-- This checks that an effect is fast enough for the moment. -/
def checkTiming (state : GameState) (effect : CardEffect) (player : Seat) (timing : Timing) :
    Except Rejection Unit :=
  if effect.kind = .trigger then
    match timing with
    | .onChain _ => state.chain.canActivate effect.speed
    | _ => .ok ()
  else if effect.speed = .one then
    match timing with
    | .whenOpen =>
      if player ≠ state.turnPlayer then .error (.notTurnPlayer player)
      else if !state.phase.isMain then .error (.wrongPhase .activateEffect state.phase)
      else .ok ()
    | .onChain top => .error (.speedTooLow 1 (max top.value 2))
    | .inWindow => .error .chainInProgress
  else
    match timing with
    | .onChain _ => state.chain.canActivate effect.speed
    | _ => .ok ()

def activationPlacement (state : GameState) (kind : CardKind) (player : Seat)
    (card : CardInstance) (id : InstanceId) : Except Rejection Placement :=
  if kind.isMonster then .error (.notActivatable id .monster)
  else
    match card.zone, card.position with
    | .hand, _ =>
      match kind with
      | .trap _ => .error (.notActivatable id .trapInHand)
      | _ =>
        if kind = .spell .quickPlay ∧ state.turnPlayer ≠ player then
          .error (.notActivatable id .quickPlayOnOtherTurn)
        else do
          state.needSlot player .spells
          return .fromHand
    | .spells, .faceDown =>
      let waits := kind ≠ .spell .normal && kind ≠ .spell .continuous
      if waits && card.setThisTurn then .error (.notActivatable id .setThisTurn) else .ok .flip
    | .spells, _ => .error (.notActivatable id .alreadyActive)
    | _, _ => .error (.notActivatable id .elsewhere)

/-- This tells whether an open window offers a trigger effect of a card to a player. -/
def isOffered (state : GameState) (player : Seat) (card : CardInstance) (id : InstanceId)
    (index : Nat) : Bool :=
  (state.window.bind fun window => window.offer? id index).any fun trigger =>
    trigger.controller = player && trigger.sourceMoves = card.moves

/-- This is the zone in which the effects of a card can be used. -/
def homeZone (card : CardInstance) : Zone := if card.isMonster then .monsters else .spells

def placementFor (state : GameState) (kind : CardKind) (effect : CardEffect) (player : Seat)
    (card : CardInstance) (id : InstanceId) (index : Nat) : Except Rejection Placement :=
  match effect.kind with
  | .trigger =>
    if state.isOffered player card id index then .ok .stay
    else .error (.notActivatable id .waitsForEvent)
  | .activate => state.activationPlacement kind player card id
  | .ignition | .quick =>
    if card.zone = homeZone card ∧ card.position.isFaceUp then .ok .stay
    else .error (.notActivatable id .notFaceUp)

/-- This tells whether an open window holds an event that an effect waits for. -/
def hasEvent (state : GameState) (effect : CardEffect) (player : Seat) (card : InstanceId) : Bool :=
  match effect.trigger, state.window with
  | some spec, some window => window.answers spec state card player
  | _, _ => false

/-- This checks the activation of an effect apart from its targets and its cost. -/
def checkActivation (state : GameState) (catalog : Catalog) (player : Seat) (card : InstanceId)
    (index : Nat) : Except Rejection ActivationPlan := do
  let found ← state.ownCard player card
  match catalog.get? found.card with
  | none => throw (.unknownEffect card index)
  | some template =>
    match template.effect? index with
    | none => throw (.unknownEffect card index)
    | some effect =>
      let timing ← state.timing
      if found.isOnField && found.negated then throw (.notActivatable card .negated)
      let placement ← state.placementFor template.kind effect player found card index
      state.checkTiming effect player timing
      if effect.isEventGated && !state.hasEvent effect player card then
        throw (.notActivatable card .noEvent)
      state.activations.check card index effect.limit
      if !Condition.holdsIfAny effect.condition state player card then
        throw (.conditionNotMet card)
      return ⟨effect, placement⟩

def hasRepeats (cards : List InstanceId) : Bool := cards ≠ cards.eraseDups

def checkTarget (state : GameState) (player : Seat) (card : InstanceId) (filter : CardFilter)
    (target : InstanceId) : Except Rejection Unit := do
  let found ← state.knownCard target
  if filter.matchesFor player card found then return () else throw (.invalidTargets .noMatch)

def checkTargetSpecs (state : GameState) (player : Seat) (card : InstanceId) :
    List TargetSpec → List InstanceId → Except Rejection Unit
  | [], _ => .ok ()
  | spec :: rest, targets => do
    (targets.take spec.count).forM (state.checkTarget player card spec.filter)
    state.checkTargetSpecs player card rest (targets.drop spec.count)

def checkTargets (state : GameState) (effect : CardEffect) (player : Seat) (card : InstanceId)
    (targets : List InstanceId) : Except Rejection Unit := do
  if targets.length ≠ effect.targetCount then throw (.invalidTargets .wrongCount)
  if hasRepeats targets then throw (.invalidTargets .repeated)
  state.checkTargetSpecs player card effect.targets targets

/-- This tells whether a list of cards pays a cost: different cards of a player in a zone. -/
def paysWith (state : GameState) (player : Seat) (card : InstanceId) (zone : Zone)
    (paid : List InstanceId) : Bool :=
  !hasRepeats paid && paid.all fun id =>
    id ≠ card && (state.card? id).any fun found => found.owner = player && found.zone = zone

/-- This tells whether a card is where it cannot be sent to the graveyard any more. -/
def leftPlay (state : GameState) (card : InstanceId) : Bool :=
  (state.card? card).all fun found => found.zone = .graveyard || found.zone = .banished

def checkCost (state : GameState) (cost : Option Cost) (player : Seat) (card : InstanceId)
    (paid : List InstanceId) : Except Rejection Unit := do
  if paid.length ≠ (cost.map Cost.cardsNamed).getD 0 then throw (.cannotPayCost .wrongCount)
  match cost with
  | none => return ()
  | some cost =>
    match cost.resource with
    | .lifePoints =>
      if (state.player player).life < cost.amount then throw (.cannotPayCost .notEnoughLife)
    | .hand =>
      if !state.paysWith player card .hand paid then throw (.cannotPayCost .notFromHand)
    | .field =>
      if !state.paysWith player card .monsters paid then throw (.cannotPayCost .notFromField)
    | .this => if state.leftPlay card then throw (.cannotPayCost .cardLeft)

def checkChoices (state : GameState) (effect : CardEffect) (player : Seat) (card : InstanceId)
    (targets cost : List InstanceId) : Except Rejection Unit := do
  state.checkTargets effect player card targets
  state.checkCost effect.cost player card cost

end GameState

end CardDuel
