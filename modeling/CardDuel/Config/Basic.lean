/-
This file defines the options of a duel.
-/

namespace CardDuel

inductive PassRule where
  /-- Both players must pass one after the other. -/
  | consecutive
  /-- One pass is enough. -/
  | singleFlip
deriving DecidableEq

structure DuelConfig where
  startingLife : UInt32
  startingHand : Nat
  handLimit : Nat
  monsterZones : Nat
  spellZones : Nat
  tributeOneLevel : UInt8
  tributeTwoLevel : UInt8
  firstPlayerDraws : Bool
  firstTurnBattle : Bool
  passRule : PassRule
deriving DecidableEq

inductive ConfigError where
  | zeroLife
  | noMonsterZones
  | noSpellZones
  | tributeLevels (one two : UInt8)
  | handLimit (limit starting : Nat)
deriving DecidableEq

def ConfigError.message : ConfigError → String
  | zeroLife => "starting life must be positive"
  | noMonsterZones => "board needs at least one monster zone"
  | noSpellZones => "board needs at least one spell/trap zone"
  | tributeLevels one two =>
    "two-tribute level " ++ toString two ++ " must exceed one-tribute level " ++ toString one
  | handLimit limit starting =>
    "hand limit " ++ toString limit ++ " is smaller than starting hand " ++ toString starting

namespace DuelConfig

def standard : DuelConfig where
  startingLife := 8000
  startingHand := 5
  handLimit := 6
  monsterZones := 5
  spellZones := 5
  tributeOneLevel := 5
  tributeTwoLevel := 7
  firstPlayerDraws := false
  firstTurnBattle := false
  passRule := .consecutive

/-- This refuses options that do not make a duel; the first fault in this order is reported. -/
def validate (config : DuelConfig) : Except ConfigError Unit :=
  if config.startingLife = 0 then .error .zeroLife
  else if config.monsterZones = 0 then .error .noMonsterZones
  else if config.spellZones = 0 then .error .noSpellZones
  else if config.tributeTwoLevel ≤ config.tributeOneLevel then
    .error (.tributeLevels config.tributeOneLevel config.tributeTwoLevel)
  else if config.handLimit < config.startingHand then
    .error (.handLimit config.handLimit config.startingHand)
  else .ok ()

/-- This is the number of tributes for a normal summon of a monster of a level. -/
def tributesForLevel (config : DuelConfig) (level : UInt32) : Nat :=
  if level ≥ config.tributeTwoLevel.toUInt32 then 2
  else if level ≥ config.tributeOneLevel.toUInt32 then 1
  else 0

end DuelConfig

end CardDuel
