/-
This file defines the faults that a card description can have and where in it they are.
-/

import CardDuel.Card.Id
import CardDuel.Effect.Kind
import CardDuel.Json.Value

namespace CardDuel

/-- This is one step from a JSON value to a part of it. -/
inductive PathStep where
  | key (name : String)
  | index (position : Nat)
deriving DecidableEq

namespace PathStep

def leading : PathStep → String
  | key name => name
  | index position => "[" ++ toString position ++ "]"

def following : PathStep → String
  | key name => "." ++ name
  | index position => "[" ++ toString position ++ "]"

def follow? (step : PathStep) (value : Json) : Option Json :=
  match step with
  | key name => value.field? name
  | index position => value.items?.bind fun items => items[position]?

end PathStep

/-- This leads from a JSON value to a part of it. -/
abbrev Path := List PathStep

namespace Path

def render : Path → String
  | [] => ""
  | step :: rest => step.leading ++ String.join (rest.map PathStep.following)

def follow? (path : Path) (value : Json) : Option Json :=
  match path with
  | [] => some value
  | step :: rest => (step.follow? value).bind (follow? rest)

end Path

/-- This is what can be wrong with a card description. -/
inductive Fault where
  | missingField (name : String)
  | expected (what : String)
  | unknownKind (name : String)
  | unknownEffectType (name : String)
  | unknownAction (name : String)
  | unknownAttribute (name : String)
  | malformedSelector (text : String)
  | unknownResource (name : String)
  | unknownValue (field value : String)
  | unknownCondition
  | unknownNode
  | cyclicRef (name : String)
  | unknownRef (name : String)
  | speedOutOfRange (value : UInt64)
  | speedMismatch (declared needed : Speed)
  | activateOnMonster
  | specialSummonOnOther
  | triggerTargets
  | triggerCost
  | chosenOutOfRange (index available : Nat)
  | selectorKind (action : String) (players : Bool)
  | zeroCount
  | duplicateId (card : CardId)
deriving DecidableEq

namespace Fault

def quoted (text : String) : String := "`" ++ text ++ "`"

def message : Fault → String
  | missingField name => "missing field " ++ quoted name
  | expected what => "expected " ++ what
  | unknownKind name => "unknown card kind " ++ quoted name
  | unknownEffectType name => "unknown effect type " ++ quoted name
  | unknownAction name => "unknown action " ++ quoted name
  | unknownAttribute name => "unknown attribute " ++ quoted name
  | malformedSelector text => "malformed target selector " ++ quoted text
  | unknownResource name => "cost references unknown resource " ++ quoted name
  | unknownValue field value => "unknown " ++ field ++ " " ++ quoted value
  | unknownCondition => "unrecognized condition"
  | unknownNode => "node is not an action, sequence, if or ref"
  | cyclicRef name => "subeffect " ++ quoted name ++ " references itself"
  | unknownRef name => "subeffect " ++ quoted name ++ " does not exist"
  | speedOutOfRange value => "spell speed " ++ toString value ++ " is outside 1-3"
  | speedMismatch declared needed =>
    "declared spell speed " ++ toString declared.value ++ " but this effect has speed " ++
      toString needed.value
  | activateOnMonster => quoted "activate" ++ " effects are only allowed on spells and traps"
  | specialSummonOnOther => quoted "special_summon" ++ " is only allowed on monsters"
  | triggerTargets => "trigger effects cannot declare targets"
  | triggerCost => "trigger effects can only cost life points or the card itself"
  | chosenOutOfRange index available =>
    quoted ("chosen:" ++ toString index) ++ " but only " ++ toString available ++
      " target(s) are declared"
  | selectorKind action players =>
    quoted action ++ " needs a " ++ (if players then "player" else "card") ++ " selector"
  | zeroCount => "count must be at least 1"
  | duplicateId card => "duplicate card id " ++ card.label

end Fault

structure Issue where
  path : Path
  fault : Fault
deriving DecidableEq

namespace Issue

/-- This writes the place of an issue; a card that is no object at all is written as a dollar. -/
def place (issue : Issue) : String :=
  match issue.path, issue.fault with
  | [], .expected _ => "$"
  | path, _ => path.render

def message (issue : Issue) : String := issue.place ++ ": " ++ issue.fault.message

end Issue

end CardDuel
