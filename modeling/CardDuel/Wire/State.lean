/-
This file writes the state of a duel, its views and the differences between two states as JSON.
-/

import CardDuel.Wire.Action

namespace CardDuel

instance : ToJson PlayerZones where
  toJson zones := .record
    [("deck", toJson zones.deck), ("hand", toJson zones.hand), ("monsters", toJson zones.monsters),
      ("spells", toJson zones.spells), ("graveyard", toJson zones.graveyard),
      ("banished", toJson zones.banished)]

instance : ToJson BoundTarget where
  toJson target := .record [("card", toJson target.card), ("moves", toJson target.moves)]

instance : ToJson ChainLink where
  toJson link := .record
    [("number", toJson link.number), ("source", toJson link.source),
      ("source_moves", toJson link.sourceMoves), ("card", toJson link.card),
      ("effect", toJson link.effect), ("controller", toJson link.controller),
      ("speed", toJson link.speed), ("targets", toJson link.targets),
      ("negated", toJson link.negated)]

instance : Tagged ChainStatus where
  tags := [("Idle", .idle), ("AwaitingResponse", .awaitingResponse), ("Resolving", .resolving)]

instance : ToJson Chain where
  toJson chain := .record
    [("links", toJson chain.links), ("status", toJson chain.status),
      ("priority", toJson chain.priority), ("passes", toJson chain.passes)]

instance : ToJson PassOutcome where
  toJson
    | .priorityTo player => .record [("priority_to", toJson player)]
    | .resolve => .string "resolve"

instance : ToJson TriggeredEffect where
  toJson trigger := .record
    [("source", toJson trigger.source), ("source_moves", toJson trigger.sourceMoves),
      ("card", toJson trigger.card), ("effect", toJson trigger.effect),
      ("controller", toJson trigger.controller), ("speed", toJson trigger.speed),
      ("optional", toJson trigger.optional)]

instance : ToJson ResponseWindow where
  toJson window := .record
    [("events", toJson window.events), ("optional", toJson window.optional),
      ("holder", toJson window.holder), ("passes", toJson window.passes)]

instance : ToJson PendingAttack where
  toJson attack := .record
    [("attacker", toJson attack.attacker), ("attacker_moves", toJson attack.attackerMoves),
      ("target", toJson attack.target), ("target_moves", toJson attack.targetMoves)]

instance : ToJson ActivationRecord where
  toJson entry := .record
    [("card", toJson entry.card), ("effect", toJson entry.effect),
      ("this_turn", toJson entry.thisTurn), ("this_duel", toJson entry.thisDuel)]

instance : ToJson Activations where
  toJson activations := .record [("records", toJson activations.records)]

instance : ToJson ContinuousResult where
  toJson result := .record
    [("modifiers", toJson result.modifiers), ("stats", toJson result.stats),
      ("negated", toJson result.negated)]

def Resolved.members : Resolved → List (String × Json)
  | players seats => [("players", toJson seats), ("cards", .null)]
  | cards chosen => [("players", .null), ("cards", toJson chosen)]
  | link number card => [("link", .array [toJson number, toJson card])]

instance : ToJson CardView where
  toJson view := .record
    [("id", toJson view.id), ("owner", toJson view.owner), ("card", toJson view.card),
      ("category", toJson view.category), ("position", toJson view.position),
      ("stats", toJson view.stats)]

instance : ToJson PlayerView where
  toJson view := .record
    [("player", toJson view.player), ("life", toJson view.life),
      ("deck_size", toJson view.deckSize), ("hand", toJson view.hand),
      ("monsters", toJson view.monsters), ("spells", toJson view.spells),
      ("graveyard", toJson view.graveyard), ("banished", toJson view.banished),
      ("normal_summon_used", toJson view.normalSummonUsed)]

instance : ToJson LinkView where
  toJson view := .record
    [("number", toJson view.number), ("source", toJson view.source), ("card", toJson view.card),
      ("effect", toJson view.effect), ("controller", toJson view.controller),
      ("speed", toJson view.speed), ("negated", toJson view.negated)]

instance : ToJson DuelView where
  toJson view := .record
    [("viewer", toJson view.viewer), ("version", toJson view.version), ("turn", toJson view.turn),
      ("phase", toJson view.phase), ("turn_player", toJson view.turnPlayer),
      ("priority", toJson view.priority), ("players", toJson [view.own, view.opponent]),
      ("chain", toJson view.chain), ("window_open", toJson view.windowOpen),
      ("attack", toJson view.attack), ("outcome", toJson view.outcome)]

namespace CardInstance

def flagText (card : CardInstance) : String :=
  String.join
    [if card.negated then "n" else "", if card.summonedThisTurn then "s" else "",
      if card.setThisTurn then "t" else "", if card.hasAttacked then "a" else "",
      if card.positionChanged then "p" else ""]

def statList (line : StatLine) : Json :=
  .array [toJson line.attack, toJson line.defense, toJson line.level]

def summary (card : CardInstance) : Json :=
  .array
    [toJson card.card, toJson card.owner, toJson card.category, toJson card.zone, toJson card.slot,
      toJson card.position, statList card.base, statList card.current, toJson card.moves,
      toJson card.flagText, toJson card.destruction]

end CardInstance

namespace GameState

def playerParts (state : GameState) (seat : Seat) : List (String × Json) :=
  let name := "p" ++ toString seat.number
  let player := state.player seat
  [(name, .array
      [toJson player.life, toJson player.normalSummonUsed, toJson player.deckOut]),
    (name ++ ".deck", toJson player.zones.deck), (name ++ ".hand", toJson player.zones.hand),
    (name ++ ".monsters", toJson player.zones.monsters),
    (name ++ ".spells", toJson player.zones.spells),
    (name ++ ".graveyard", toJson player.zones.graveyard),
    (name ++ ".banished", toJson player.zones.banished)]

def sharedParts (state : GameState) : List (String × Json) :=
  [("version", toJson state.version), ("turn", toJson state.turn), ("phase", toJson state.phase),
    ("turn_player", toJson state.turnPlayer), ("priority", toJson state.priorityHolder),
    ("open", toJson state.isOpen), ("chain", toJson state.chain), ("window", toJson state.window),
    ("attack", toJson state.pendingAttack), ("pending", toJson state.pendingEvents),
    ("granted", toJson state.granted), ("active", toJson state.active),
    ("activations", toJson state.activations), ("outcome", toJson state.outcome),
    ("streams", toJson state.shuffler.streams)]

def cardParts (state : GameState) : List (String × Json) :=
  state.cards.map fun card => ("c" ++ toString card.id.number, card.summary)

/-- These are all named parts of a state, sorted by name. -/
def parts (state : GameState) : List (String × Json) :=
  Json.sortMembers
    (state.sharedParts ++ Seat.both.flatMap state.playerParts ++ state.cardParts)

/-- These are the named parts in which a later state differs; a part that is gone is null. -/
def changedParts (before after : List (String × Json)) : List (String × Json) :=
  (after.filter fun (name, value) => !(before.lookup name).any value.same) ++
    ((before.filter fun (name, _) => (after.lookup name).isNone).map fun (name, _) => (name, .null))

end GameState

end CardDuel
