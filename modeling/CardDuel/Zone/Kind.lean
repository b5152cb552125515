/-
This file names the places where a card can be.
-/

namespace CardDuel

inductive Zone where
  | deck
  | hand
  | monsters
  | spells
  | graveyard
  | banished
deriving DecidableEq

namespace Zone

def isField : Zone → Bool
  | monsters | spells => true
  | _ => false

def isHidden : Zone → Bool
  | deck | hand => true
  | _ => false

def name : Zone → String
  | deck => "deck"
  | hand => "hand"
  | monsters => "monster_zone"
  | spells => "spell_trap_zone"
  | graveyard => "graveyard"
  | banished => "banished"

def all : List Zone := [deck, hand, monsters, spells, graveyard, banished]

def ofName? (name : String) : Option Zone := all.find? fun zone => zone.name = name

theorem ofName?_name (zone : Zone) : ofName? zone.name = some zone := by
  cases zone <;> rfl

end Zone

/-- This is the end of a pile at which a card is put. -/
inductive Place where
  | top
  | bottom
deriving DecidableEq

end CardDuel
