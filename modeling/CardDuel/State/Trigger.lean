/-
This file finds the effects that follow events.
-/

import CardDuel.Card.Template
import CardDuel.State.Condition

namespace CardDuel

namespace TriggerEvent

def accepts : TriggerEvent → GameEvent → Bool
  | summoned, .summoned .. => true
  | specialSummoned, .summoned _ _ kind => kind = .special
  | flipSummoned, .summoned _ _ kind => kind = .flip
  | destroyed, .destroyed .. => true
  | destroyedByBattle, .destroyed _ byBattle => byBattle
  | sentToGraveyard, .cardMoved _ _ destination => destination = .graveyard
  | attackDeclared, .attackDeclared .. => true
  | damageTaken, .damage .. => true
  | _, _ => false

end TriggerEvent

namespace TriggerSpec

/-- This tells whether an event is about the right card or player. -/
def concerns (spec : TriggerSpec) (state : GameState) (source : InstanceId) (controller : Seat)
    (event : GameEvent) : Bool :=
  match event with
  | .damage player .. => spec.subject = .any && spec.side.includes controller player
  | _ =>
    event.subject?.any fun subject =>
      !(spec.subject = .this && subject ≠ source) &&
      (state.card? subject).any fun card => spec.side.includes controller card.owner

def accepts (spec : TriggerSpec) (state : GameState) (source : InstanceId) (controller : Seat)
    (event : GameEvent) : Bool :=
  spec.event.accepts event && spec.concerns state source controller event

end TriggerSpec

/-- This tells whether one of the events of a window is one that an effect waits for. -/
def ResponseWindow.answers (window : ResponseWindow) (spec : TriggerSpec) (state : GameState)
    (source : InstanceId) (controller : Seat) : Bool :=
  window.events.any (spec.accepts state source controller)

namespace TriggeredEffect

/-- This is the order of triggers: speed, turn player first, card number, effect number. -/
def key (turnPlayer : Seat) (trigger : TriggeredEffect) : List Nat :=
  [trigger.speed.value.toNat, if trigger.controller = turnPlayer then 0 else 1,
    trigger.source.index, trigger.effect]

def precedes (turnPlayer : Seat) (left right : TriggeredEffect) : Bool :=
  !(right.key turnPlayer).lex (left.key turnPlayer)

/-- This keeps the first trigger of every effect of every card. -/
def distinct (triggers : List TriggeredEffect) : List TriggeredEffect :=
  triggers.foldl (fun kept trigger =>
    if kept.any fun other => other.isFor trigger.source trigger.effect then kept
    else kept ++ [trigger]) []

end TriggeredEffect

namespace GameState

/-- This tells whether a card is where its trigger can be used. -/
def canWatch (card : CardInstance) (subject : TriggerSubject) : Bool :=
  match subject with
  | .this => card.zone ≠ .deck && card.zone ≠ .hand
  | .any => card.isFaceUpOnField

/-- This is the trigger of one effect of a card, if it follows one of the events. -/
def triggerOf? (state : GameState) (events : List GameEvent) (card : CardInstance)
    (effect : CardEffect) (index : Nat) : Option TriggeredEffect := do
  let spec ← effect.trigger
  if effect.kind = .trigger ∧ canWatch card spec.subject ∧ !card.negated ∧
      (state.activations.check card.id index effect.limit).isOk ∧
      Condition.holdsIfAny effect.condition state card.owner card.id ∧
      events.any (spec.accepts state card.id card.owner) then
    some ⟨card.id, card.moves, card.card, index, card.owner, effect.speed, spec.optional⟩
  else none

def triggersOf (state : GameState) (catalog : Catalog) (events : List GameEvent)
    (card : CardInstance) : List TriggeredEffect :=
  match catalog.get? card.card with
  | some template =>
    template.effects.zipIdx.filterMap fun (effect, index) =>
      state.triggerOf? events card effect index
  | none => []

/-- These are the effects that follow events, in the order in which they go on the chain. -/
def collectTriggers (state : GameState) (catalog : Catalog) (events : List GameEvent) :
    List TriggeredEffect :=
  (TriggeredEffect.distinct (state.cards.flatMap (state.triggersOf catalog events))).mergeSort
    (TriggeredEffect.precedes state.turnPlayer)

end GameState

end CardDuel
