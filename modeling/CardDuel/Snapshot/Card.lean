/-
This file defines the bytes of cards, zones and modifiers.
-/

import CardDuel.Snapshot.Codec
import CardDuel.State.Basic

namespace CardDuel

namespace Snapshot

open Codec

def cardId : Codec CardId := word32.map CardId.mk CardId.number

def instanceId : Codec InstanceId := word32.map InstanceId.mk InstanceId.number

/-- This is the number of a seat; other numbers are refused. -/
def seat : Codec Seat := byte.refine Seat.ofNumber? Seat.number

def perSeat {α : Type} (codec : Codec α) : Codec (PerSeat α) :=
  (codec.pair codec).map (fun (first, second) => ⟨first, second⟩)
    fun table => (table.first, table.second)

def zone : Codec Zone := oneOf Zone.all

def phase : Codec Phase := oneOf Phase.all

def category : Codec Category := oneOf [.monster, .spell, .trap]

def position : Codec Position :=
  oneOf [.faceUpAttack, .faceUpDefense, .faceDownDefense, .faceUp, .faceDown]

def destruction : Codec Destruction := oneOf [.battle, .effect]

def stat : Codec Stat := oneOf [.attack, .defense, .level]

def statLine : Codec StatLine :=
  (word32.pair (word32.pair word32)).map
    (fun (attack, defense, level) => ⟨attack, defense, level⟩)
    fun line => (line.attack, line.defense, line.level)

/-- These are the flags of a card that last for a turn, and its mark. -/
def turnFlags : Codec (Bool × Bool × Bool × Bool × Option Destruction) :=
  bool.pair (bool.pair (bool.pair (bool.pair destruction.option)))

def cardInstance : Codec CardInstance :=
  (instanceId.pair (cardId.pair (category.pair (seat.pair (zone.pair (size.option.pair
    (position.pair (statLine.pair (statLine.pair (bool.pair (word32.pair turnFlags))))))))))).map
    (fun (id, card, category, owner, zone, slot, position, base, current, negated, moves,
        summoned, set, attacked, changed, destruction) =>
      ⟨id, card, category, owner, zone, slot, position, base, current, negated, moves,
        summoned, set, attacked, changed, destruction⟩)
    fun card =>
      (card.id, card.card, card.category, card.owner, card.zone, card.slot, card.position,
        card.base, card.current, card.negated, card.moves, card.summonedThisTurn, card.setThisTurn,
        card.hasAttacked, card.positionChanged, card.destruction)

def playerZones : Codec PlayerZones :=
  let pile := instanceId.list
  let row := instanceId.option.list
  (pile.pair (pile.pair (row.pair (row.pair (pile.pair pile))))).map
    (fun (deck, hand, monsters, spells, graveyard, banished) =>
      ⟨deck, hand, monsters, spells, graveyard, banished⟩)
    fun zones =>
      (zones.deck, zones.hand, zones.monsters, zones.spells, zones.graveyard, zones.banished)

def playerState : Codec PlayerState :=
  (word32.pair (playerZones.pair (bool.pair bool))).map
    (fun (life, zones, summonUsed, deckOut) => ⟨life, zones, summonUsed, deckOut⟩)
    fun player => (player.life, player.zones, player.normalSummonUsed, player.deckOut)

def alteration : Codec Alteration := choice
  [constant .negate,
    case (stat.pair signed32) (fun (stat, amount) => .delta stat amount) fun
      | .delta stat amount => some (stat, amount)
      | _ => none,
    case (stat.pair word32) (fun (stat, value) => .override stat value) fun
      | .override stat value => some (stat, value)
      | _ => none]

def duration : Codec Duration := oneOf [.whileSourceActive, .endOfTurn, .untilLeavesField]

def modifier : Codec Modifier :=
  (instanceId.pair (instanceId.pair (alteration.pair (duration.pair word32)))).map
    (fun (source, target, alteration, duration, moves) =>
      ⟨source, target, alteration, duration, moves⟩)
    fun modifier =>
      (modifier.source, modifier.target, modifier.alteration, modifier.duration,
        modifier.targetMoves)

def shuffler : Codec Shuffler :=
  (word64.pair word64).map (fun (seed, streams) => ⟨seed, streams⟩)
    fun shuffler => (shuffler.seed, shuffler.streams)

end Snapshot

end CardDuel
