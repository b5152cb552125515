/-
This file turns instructions into changes of the table. A plan only reads the table; it is made as a
whole before its first change happens.
-/

import CardDuel.Effect.Target
import CardDuel.State.Change

namespace CardDuel

namespace GameState

def needCards (player : Seat) (needed available : Nat) : Except Violation Unit :=
  if available < needed then .error (.notEnoughCards player needed available) else .ok ()

def planEach {α : Type} (plan : α → Except Violation (List Change)) (items : List α) :
    Except Violation (List Change) := do
  return (← items.mapM plan).flatten

def planDraw (state : GameState) (count : Nat) (player : Seat) :
    Except Violation (List Change) := do
  needCards player count (state.zones player).deck.length
  return ((state.zones player).deckTop count).map (Change.draw player)

/-- This plans to send some cards from the top of a player's deck to the graveyard. -/
def planMill (state : GameState) (count : Nat) (player : Seat) :
    Except Violation (List Change) := do
  needCards player count (state.zones player).deck.length
  return ((state.zones player).deckTop count).map Change.toGraveyard

/-- This plans to send the newest cards of a player's hand to the graveyard. -/
def planDiscard (state : GameState) (count : Nat) (player : Seat) :
    Except Violation (List Change) := do
  needCards player count (state.zones player).hand.length
  return ((state.zones player).newestInHand count).map Change.toGraveyard

/-- This plans to send a card that must be in a hand to the graveyard. -/
def planDiscardCard (state : GameState) (card : InstanceId) : Except Violation (List Change) := do
  let found ← state.requireCard card
  if found.zone = .hand then return [Change.toGraveyard card] else throw (.notInZone card .hand)

/-- This plans to take matching cards from a player's deck and to shuffle it if there are any. -/
def planSearch (state : GameState) (filter : CardFilter) (count : Nat) (player : Seat) :
    List Change :=
  let found := ((state.zones player).deck.reverse.filter fun card =>
    (state.card? card).any filter.matchesCard).take count
  if found.isEmpty then []
  else found.map (fun card => Change.moveCard card .hand .top) ++ [.shuffleDeck player]

/-- This plans to move a card to a pile; a card that is there already stays. -/
def planMove (state : GameState) (destination : Zone) (card : InstanceId) :
    Except Violation (List Change) := do
  let found ← state.requireCard card
  return if found.zone = destination then [] else [.moveCard card destination .top]

/-- This is the end of the deck to which cards return first; a shuffle follows if there is one. -/
def deckPlace : DeckPlacement → Place
  | .bottom => .bottom
  | .top | .shuffle => .top

def planReturn (state : GameState) (placement : DeckPlacement) (cards : List InstanceId) :
    Except Violation (List Change) := do
  let found ← cards.mapM state.requireCard
  let moves := cards.map fun card => Change.moveCard card .deck (deckPlace placement)
  let owners := (found.map CardInstance.owner).eraseDups
  return if placement = .shuffle then moves ++ owners.map .shuffleDeck else moves

def planModifier (state : GameState) (source : InstanceId) (alteration : Alteration)
    (duration : Duration) (card : InstanceId) : Except Violation (List Change) := do
  let found ← state.requireCard card
  if !found.isMonster then throw (.notAMonster card)
  if !found.isOnField then throw (.notOnField card)
  return [.grant ⟨source, card, alteration, duration, found.moves⟩]

def planNegation (state : GameState) (source : InstanceId) (card : InstanceId) :
    Except Violation (List Change) := do
  let found ← state.requireCard card
  if !found.isOnField then throw (.notOnField card)
  return [.grant ⟨source, card, .negate, .untilLeavesField, found.moves⟩]

def summonedPosition : SummonPosition → Position
  | .attack => .faceUpAttack
  | .defense => .faceUpDefense

/-- This plans the special summon of a monster; one that is on the field already stays. -/
def planSummon (state : GameState) (position : SummonPosition) (card : InstanceId) :
    Except Violation (List Change) := do
  let found ← state.requireCard card
  if !found.isMonster then throw (.notAMonster card)
  return if found.isOnField then [] else [.summon card (summonedPosition position) .special]

def planDestruction (state : GameState) (card : InstanceId) : Except Violation (List Change) := do
  let found ← state.requireCard card
  if !found.isOnField then throw (.notOnField card)
  return [.markDestroyed card .effect]

def plan (state : GameState) (link : ChainLink) (instruction : Instruction) (resolved : Resolved) :
    Except Violation (List Change) := do
  match instruction with
  | .draw count => planEach (state.planDraw count) (← resolved.players?)
  | .mill count => planEach (state.planMill count) (← resolved.players?)
  | .discard count =>
    match resolved with
    | .players seats => planEach (state.planDiscard count) seats
    | _ => planEach state.planDiscardCard (← resolved.cards?)
  | .banish => planEach (state.planMove .banished) (← resolved.cards?)
  | .search filter count => return (← resolved.players?).flatMap (state.planSearch filter count)
  | .returnToDeck placement => state.planReturn placement (← resolved.cards?)
  | .sendToGraveyard => planEach (state.planMove .graveyard) (← resolved.cards?)
  | .toHand => planEach (state.planMove .hand) (← resolved.cards?)
  | .damage amount => return (← resolved.players?).map fun seat => .damage seat amount false
  | .gainLife amount => return (← resolved.players?).map fun seat => .gainLife seat amount
  | .modifyStat stat amount duration =>
    planEach (state.planModifier link.source (.delta stat amount) duration) (← resolved.cards?)
  | .setStat stat value duration =>
    planEach (state.planModifier link.source (.override stat value) duration) (← resolved.cards?)
  | .specialSummon position => planEach (state.planSummon position) (← resolved.cards?)
  | .destroy => planEach state.planDestruction (← resolved.cards?)
  | .negate =>
    match resolved with
    | .link number _ => return [.negateLink number]
    | _ => planEach (state.planNegation link.source) (← resolved.cards?)
  | .negateAttack =>
    let _ ← state.requireAttack
    return [.negateAttack]

end GameState

end CardDuel
