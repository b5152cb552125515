/-
This file names the phases of a turn.
-/

namespace CardDuel

inductive Phase where
  | draw
  | standby
  | main1
  | battle
  | main2
  | ending
deriving DecidableEq

namespace Phase

def all : List Phase := [draw, standby, main1, battle, main2, ending]

/-- This is the phase after a phase; the last one is followed by the first of the next turn. -/
def next : Phase → Phase
  | draw => standby
  | standby => main1
  | main1 => battle
  | battle => main2
  | main2 => ending
  | ending => draw

def isMain : Phase → Bool
  | main1 | main2 => true
  | _ => false

/-- This tells whether the turn player may end the turn in a phase. -/
def isPlayable : Phase → Bool
  | main1 | battle | main2 => true
  | _ => false

def name : Phase → String
  | draw => "draw"
  | standby => "standby"
  | main1 => "main1"
  | battle => "battle"
  | main2 => "main2"
  | ending => "end"

def ofName? (name : String) : Option Phase := all.find? fun phase => phase.name = name

theorem ofName?_name (phase : Phase) : ofName? phase.name = some phase := by
  cases phase <;> rfl

end Phase

end CardDuel
