/-
This file tells what the activations of a player depend on, and shows that a sweep which finds nothing to do
leaves them as they are.
-/

import CardDuel.Proofs.Continuous.Fresh
import CardDuel.Proofs.Flow.Marks

namespace CardDuel

namespace GameState

/-- This tells that two states differ in nothing on which the activations of players depend. -/
structure SameOptions (before after : GameState) : Prop where
  cards : after.cards = before.cards
  players : after.players = before.players
  phase : after.phase = before.phase
  turnPlayer : after.turnPlayer = before.turnPlayer
  chain : after.chain = before.chain
  window : after.window = before.window
  attack : after.pendingAttack = before.pendingAttack
  activations : after.activations = before.activations

namespace SameOptions

variable {before after : GameState} {catalog : Catalog}

theorem record (state : GameState) (event : GameEvent) : SameOptions state (state.record event) :=
  ⟨rfl, rfl, rfl, rfl, rfl, rfl, rfl, rfl⟩

variable (same : SameOptions before after)

include same

theorem card? : after.card? = before.card? := by
  funext card
  rw [GameState.card?, GameState.card?, same.cards]

theorem player : after.player = before.player := by
  funext seat
  rw [GameState.player, GameState.player, same.players]

theorem zones : after.zones = before.zones := by
  funext seat
  rw [GameState.zones, GameState.zones, same.player]

theorem holdsIfAny (condition : Option Condition) (controller : Seat) (source : InstanceId) :
    Condition.holdsIfAny condition after controller source =
      Condition.holdsIfAny condition before controller source := by
  cases condition with
  | none => rfl
  | some condition =>
    exact Condition.holds_congr same.cards same.players same.phase controller source condition

theorem accepts (spec : TriggerSpec) (seat : Seat) (card : InstanceId) :
    spec.accepts after card seat = spec.accepts before card seat := by
  funext event
  simp only [TriggerSpec.accepts, TriggerSpec.concerns, same.card?]

theorem hasEvent (effect : CardEffect) (seat : Seat) (card : InstanceId) :
    after.hasEvent effect seat card = before.hasEvent effect seat card := by
  simp only [GameState.hasEvent, same.window, ResponseWindow.answers, same.accepts]

/-- The same effects follow events. -/
theorem collectTriggers (events : List GameEvent) :
    after.collectTriggers catalog events = before.collectTriggers catalog events := by
  have ofCard : after.triggersOf catalog events = before.triggersOf catalog events := by
    funext card
    simp only [triggersOf, triggerOf?, same.activations, same.holdsIfAny, same.accepts]
  rw [GameState.collectTriggers, GameState.collectTriggers, same.cards, same.turnPlayer, ofCard]

/-- The check of an activation gives the same plan or the same refusal. -/
theorem checkActivation (seat : Seat) (card : InstanceId) (index : Nat) :
    after.checkActivation catalog seat card index = before.checkActivation catalog seat card index := by
  have timing : after.timing = before.timing := by
    simp only [GameState.timing, same.chain, same.window, same.attack]
  have fast (effect : CardEffect) (moment : Timing) :
      after.checkTiming effect seat moment = before.checkTiming effect seat moment := by
    simp only [checkTiming, same.chain, same.turnPlayer, same.phase]
  have slot : after.needSlot seat = before.needSlot seat := by
    funext zone
    simp only [needSlot, same.zones]
  have placed (kind : CardKind) (effect : CardEffect) (found : CardInstance) :
      after.placementFor kind effect seat found card index =
        before.placementFor kind effect seat found card index := by
    rw [placementFor.eq_def, placementFor.eq_def, isOffered, isOffered, same.window,
      activationPlacement.eq_def, activationPlacement.eq_def, same.turnPlayer, slot]
  simp only [GameState.checkActivation, ownCard, knownCard, same.card?, timing, fast, placed,
    same.hasEvent, same.activations, same.holdsIfAny]

/-- The check of targets and costs gives the same answer. -/
theorem checkChoices (effect : CardEffect) (seat : Seat) (card : InstanceId)
    (targets cost : List InstanceId) :
    after.checkChoices effect seat card targets cost =
      before.checkChoices effect seat card targets cost := by
  have target (filter : CardFilter) :
      after.checkTarget seat card filter = before.checkTarget seat card filter := by
    funext named
    simp only [checkTarget, knownCard, same.card?]
  have specs (descriptions : List TargetSpec) (named : List InstanceId) :
      after.checkTargetSpecs seat card descriptions named =
        before.checkTargetSpecs seat card descriptions named := by
    induction descriptions generalizing named with
    | nil => rfl
    | cons spec rest ih => simp only [checkTargetSpecs, target, ih]
  have aims : after.checkTargets effect seat card targets = before.checkTargets effect seat card targets := by
    rw [checkTargets, checkTargets, specs]
  have pays : after.checkCost effect.cost seat card cost = before.checkCost effect.cost seat card cost := by
    have named (zone : Zone) : after.paysWith seat card zone cost = before.paysWith seat card zone cost := by
      rw [paysWith, paysWith, same.card?]
    rw [checkCost.eq_def, checkCost.eq_def, same.player, leftPlay, leftPlay, same.card?, named, named]
  rw [GameState.checkChoices, GameState.checkChoices, aims, pays]

/-- A player can activate the same effects in the same ways. -/
theorem legalActivations (seat : Seat) :
    after.legalActivations catalog seat = before.legalActivations catalog seat := by
  have targets (effect : CardEffect) (card : InstanceId) :
      after.targetChoices effect seat card = before.targetChoices effect seat card := by
    simp only [targetChoices, candidates, same.cards]
  have costs (cost : Option Cost) (card : InstanceId) :
      after.costChoices cost seat card = before.costChoices cost seat card := by
    simp only [costChoices, same.zones]
  have effects (card : InstanceId) : after.effectActivations catalog seat card =
      before.effectActivations catalog seat card := by
    funext index
    simp only [effectActivations, same.checkActivation, targets, costs, same.checkChoices]
  have ofCard : after.cardActivations catalog seat = before.cardActivations catalog seat := by
    funext card
    simp only [cardActivations, effects]
  rw [GameState.legalActivations, GameState.legalActivations, same.cards, ofCard]

theorem hasResponse (seat : Seat) :
    after.hasResponse catalog seat = before.hasResponse catalog seat := by
  rw [GameState.hasResponse, GameState.hasResponse, same.legalActivations]

end SameOptions

variable {state : GameState} {catalog : Catalog}

/-! Idle sweeps -/

/-- A refresh changes no card if the stored results are fresh. -/
theorem Fresh.refresh_cards (fresh : state.Fresh catalog) :
    (state.refresh catalog).cards = state.cards := by
  have again (cards : List CardInstance) : cards.zipWith
      (fun card (results : StatLine × Bool) =>
        { card with current := results.1, negated := results.2 })
      ((cards.map CardInstance.current).zip (cards.map CardInstance.negated)) = cards := by
    induction cards with
    | nil => rfl
    | cons card rest ih => exact congrArg (card :: ·) ih
  show (state.withResults (state.recompute catalog).stats (state.recompute catalog).negated).cards =
    state.cards
  rw [fresh]
  exact again state.cards

/-- A sweep of fresh cards without a mark that does not end the duel leaves all activations as they are. -/
theorem Fresh.sweep_sameOptions (fresh : state.Fresh catalog) (unmarked : state.Unmarked)
    (running : (state.sweep catalog).outcome = none) :
    SameOptions state (state.sweep catalog) := by
  have still : (state.refresh catalog).cards = state.cards := fresh.refresh_cards
  have idle : state.sweep catalog = (state.refresh catalog).checkLoss := by
    rw [sweep, destroyAllMarked_of_unmarked (unmarked.refresh catalog).marked_eq_nil]
  have refreshed : SameOptions state (state.refresh catalog) :=
    ⟨still, rfl, rfl, rfl, rfl, rfl, rfl, rfl⟩
  rw [idle] at running ⊢
  rw [checkLoss_outcome, Option.or_eq_none_iff] at running
  rw [checkLoss, running.2]
  exact refreshed

end GameState

end CardDuel
