/-
This file reads the options of a duel from JSON. Missing options keep their usual values, unknown
ones are skipped, and a list gives the options in their fixed order.
-/

import CardDuel.Config.Basic
import CardDuel.Wire.Basic

namespace CardDuel

instance : Tagged PassRule := ⟨[("consecutive", .consecutive), ("single_flip", .singleFlip)]⟩

namespace DuelConfig

def names : List String :=
  ["starting_life", "starting_hand", "hand_limit", "monster_zones", "spell_trap_zones",
    "tribute_one_level", "tribute_two_level", "first_player_draws", "first_turn_battle",
    "pass_rule"]

/-- This reads one option, which keeps its usual value when it is missing. -/
def option? {α : Type} [FromJson α] (fields : List (String × Json)) (name : String) (usual : α) :
    Option α :=
  match fields.lookup name with
  | none => some usual
  | some value => fromJson? value

def ofFields? (fields : List (String × Json)) : Option DuelConfig := do
  return {
    startingLife := ← option? fields "starting_life" standard.startingLife
    startingHand := ← option? fields "starting_hand" standard.startingHand
    handLimit := ← option? fields "hand_limit" standard.handLimit
    monsterZones := ← option? fields "monster_zones" standard.monsterZones
    spellZones := ← option? fields "spell_trap_zones" standard.spellZones
    tributeOneLevel := ← option? fields "tribute_one_level" standard.tributeOneLevel
    tributeTwoLevel := ← option? fields "tribute_two_level" standard.tributeTwoLevel
    firstPlayerDraws := ← option? fields "first_player_draws" standard.firstPlayerDraws
    firstTurnBattle := ← option? fields "first_turn_battle" standard.firstTurnBattle
    passRule := ← option? fields "pass_rule" standard.passRule }

/-- This pairs listed values with the names of the options; there may not be more of them. -/
def pairItems? {α : Type} (items : List α) : Option (List (String × α)) :=
  if items.length ≤ names.length then some (names.zip items) else none

def ofJson? : Json → Option DuelConfig
  | .object members => ofFields? members
  | .array items => (pairItems? items).bind ofFields?
  | _ => none

/-- This keeps the members that name an option; none of them may occur twice. -/
def knownMembers? :
    List (List Json.TextUnit × Json.Document) → Option (List (String × Json.Document))
  | [] => some []
  | (key, value) :: rest => do
    let name := String.ofList (← Json.decodeUnits key)
    let known ← knownMembers? rest
    if !names.contains name then return known
    else if (known.lookup name).isSome then none
    else return (name, value) :: known

/-- This is the value of an option as it is written; an object has exactly one member. -/
def writtenValue? (document : Json.Document) : Option Json :=
  match document with
  | .object members => if members.length = 1 then Json.ofDocument? Json.maxDepth document else none
  | _ => Json.ofDocument? Json.maxDepth document

def ofWritten? (fields : List (String × Json.Document)) : Option DuelConfig := do
  let values ← fields.mapM fun (name, document) => do
    return (name, ← writtenValue? document)
  ofFields? values

/-- This reads the options from a text, without asking whether they make a duel. -/
def ofText? (text : String) : Option DuelConfig := do
  match ← Json.Document.read? text with
  | .object members => (knownMembers? members).bind ofWritten?
  | .array items => (pairItems? items).bind ofWritten?
  | _ => none

end DuelConfig

instance : FromJson DuelConfig := ⟨DuelConfig.ofJson?, none⟩

instance : ToJson DuelConfig where
  toJson config := .record
    [("starting_life", toJson config.startingLife), ("starting_hand", toJson config.startingHand),
      ("hand_limit", toJson config.handLimit), ("monster_zones", toJson config.monsterZones),
      ("spell_trap_zones", toJson config.spellZones),
      ("tribute_one_level", toJson config.tributeOneLevel),
      ("tribute_two_level", toJson config.tributeTwoLevel),
      ("first_player_draws", toJson config.firstPlayerDraws),
      ("first_turn_battle", toJson config.firstTurnBattle),
      ("pass_rule", toJson config.passRule)]

def ConfigError.tag : ConfigError → String
  | zeroLife => "ZeroLife"
  | noMonsterZones | noSpellZones => "NoZones"
  | tributeLevels .. => "TributeLevels"
  | handLimit .. => "HandLimit"

instance : ToJson ConfigError where
  toJson error := .record [("error", toJson error.tag), ("message", toJson error.message)]

end CardDuel
