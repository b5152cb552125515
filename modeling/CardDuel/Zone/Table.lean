/-
This file defines the zones of one player: four piles and the two rows of the field.
-/

import CardDuel.Card.Id
import CardDuel.Random.Shuffle
import CardDuel.Zone.Kind

namespace CardDuel

/-- This holds the cards in the zones of one player. The last card of a pile is its top. -/
structure PlayerZones where
  deck : List InstanceId
  hand : List InstanceId
  monsters : List (Option InstanceId)
  spells : List (Option InstanceId)
  graveyard : List InstanceId
  banished : List InstanceId
deriving DecidableEq

namespace PlayerZones

def empty (monsterSlots spellSlots : Nat) : PlayerZones where
  deck := []
  hand := []
  monsters := List.replicate monsterSlots none
  spells := List.replicate spellSlots none
  graveyard := []
  banished := []

/-- This is the list of the cards of a zone, in the order of a pile or of a row. -/
def cards (zones : PlayerZones) : Zone → List InstanceId
  | .deck => zones.deck
  | .hand => zones.hand
  | .monsters => zones.monsters.filterMap id
  | .spells => zones.spells.filterMap id
  | .graveyard => zones.graveyard
  | .banished => zones.banished

/-- This is the row of a zone of the field; a pile has none. -/
def row? (zones : PlayerZones) : Zone → Option (List (Option InstanceId))
  | .monsters => some zones.monsters
  | .spells => some zones.spells
  | _ => none

def setPile (zones : PlayerZones) (zone : Zone) (pile : List InstanceId) : PlayerZones :=
  match zone with
  | .deck => { zones with deck := pile }
  | .hand => { zones with hand := pile }
  | .graveyard => { zones with graveyard := pile }
  | .banished => { zones with banished := pile }
  | .monsters | .spells => zones

def setRow (zones : PlayerZones) (zone : Zone) (row : List (Option InstanceId)) : PlayerZones :=
  match zone with
  | .monsters => { zones with monsters := row }
  | .spells => { zones with spells := row }
  | _ => zones

def count (zones : PlayerZones) (zone : Zone) : Nat := (zones.cards zone).length

def contains (zones : PlayerZones) (zone : Zone) (card : InstanceId) : Bool :=
  (zones.cards zone).contains card

def freeSlot? (zones : PlayerZones) (zone : Zone) : Option Nat :=
  (zones.row? zone).bind fun row => row.findIdx? Option.isNone

/-- This puts a card into a zone and tells its place; a full row takes no card. -/
def insert (zones : PlayerZones) (zone : Zone) (card : InstanceId) (place : Place) :
    PlayerZones × Option Nat :=
  match zones.row? zone with
  | some row =>
    match zones.freeSlot? zone with
    | some slot => (zones.setRow zone (row.set slot (some card)), some slot)
    | none => (zones, none)
  | none =>
    let pile := zones.cards zone
    match place with
    | .top => (zones.setPile zone (pile ++ [card]), some pile.length)
    | .bottom => (zones.setPile zone (card :: pile), some 0)

def remove? (zones : PlayerZones) (zone : Zone) (card : InstanceId) : Option PlayerZones :=
  match zones.row? zone with
  | some row =>
    (row.idxOf? (some card)).map fun slot => zones.setRow zone (row.set slot none)
  | none =>
    if zones.contains zone card then some (zones.setPile zone ((zones.cards zone).erase card))
    else none

def topOfDeck? (zones : PlayerZones) : Option InstanceId := zones.deck.getLast?

/-- These are the cards at the top of the deck, beginning with the top. -/
def deckTop (zones : PlayerZones) (count : Nat) : List InstanceId := zones.deck.reverse.take count

/-- These are the cards that came last into the hand, beginning with the newest. -/
def newestInHand (zones : PlayerZones) (count : Nat) : List InstanceId :=
  zones.hand.reverse.take count

def field (zones : PlayerZones) : List InstanceId := zones.cards .monsters ++ zones.cards .spells

def shuffleDeck (zones : PlayerZones) (shuffler : Shuffler) : PlayerZones × Shuffler :=
  let (deck, next) := shuffler.shuffle zones.deck
  ({ zones with deck := deck }, next)

end PlayerZones

end CardDuel
