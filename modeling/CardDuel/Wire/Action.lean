/-
This file relates the actions of players and the answers to them to JSON.
-/

import CardDuel.Config.Text
import CardDuel.Duel.Basic
import CardDuel.Wire.Event

namespace CardDuel

instance : ToJson Action where
  toJson
    | .activateEffect card effect targets cost =>
      .variant "ActivateEffect"
        [("card", toJson card), ("effect", toJson effect), ("targets", toJson targets),
          ("cost", toJson cost)]
    | .passPriority => .string "PassPriority"
    | .declareAttack attacker target =>
      .variant "DeclareAttack" [("attacker", toJson attacker), ("target", toJson target)]
    | .normalSummon card tributes =>
      .variant "NormalSummon" [("card", toJson card), ("tributes", toJson tributes)]
    | .specialSummon card => .variant "SpecialSummon" [("card", toJson card)]
    | .setCard card tributes =>
      .variant "SetCard" [("card", toJson card), ("tributes", toJson tributes)]
    | .changePosition card => .variant "ChangePosition" [("card", toJson card)]
    | .enterBattlePhase => .string "EnterBattlePhase"
    | .enterMainPhase2 => .string "EnterMainPhase2"
    | .endTurn => .string "EndTurn"
    | .forfeit => .string "Forfeit"

namespace Action

def ofTag? : (tag : String) → Option Action
  | "PassPriority" => some .passPriority
  | "EnterBattlePhase" => some .enterBattlePhase
  | "EnterMainPhase2" => some .enterMainPhase2
  | "EndTurn" => some .endTurn
  | "Forfeit" => some .forfeit
  | _ => none

def ofFields? (tag : String) (fields : List (String × Json)) : Option Action := do
  match tag with
  | "ActivateEffect" =>
    return .activateEffect (← Json.get? fields "card") (← Json.get? fields "effect")
      (← Json.get? fields "targets") (← Json.get? fields "cost")
  | "DeclareAttack" =>
    return .declareAttack (← Json.get? fields "attacker") (← Json.get? fields "target")
  | "NormalSummon" =>
    return .normalSummon (← Json.get? fields "card") (← Json.get? fields "tributes")
  | "SpecialSummon" => return .specialSummon (← Json.get? fields "card")
  | "SetCard" => return .setCard (← Json.get? fields "card") (← Json.get? fields "tributes")
  | "ChangePosition" => return .changePosition (← Json.get? fields "card")
  | _ => none

end Action

instance : FromJson Action := ⟨Json.choose? Action.ofTag? Action.ofFields?, none⟩

def Violation.tag : Violation → String
  | targetMoved _ => "TargetMoved"
  | missingCard _ => "MissingCard"
  | notOnField _ => "NotOnField"
  | notInZone .. => "NotInZone"
  | deckEmpty _ => "DeckEmpty"
  | notEnoughCards .. => "NotEnoughCards"
  | noFreeZone .. => "NoFreeZone"
  | notAMonster _ => "NotAMonster"
  | unknownTemplate _ => "UnknownTemplate"
  | noPreviousLink => "NoPreviousLink"
  | noAttack => "NoAttack"
  | wrongTargetKind => "WrongTargetKind"

instance : ToJson Violation where
  toJson violation := .record
    [("violation", toJson violation.tag), ("message", toJson violation.message)]

instance : Tagged RejectionClass where
  tags := [("Legality", .legality), ("Invariant", .invariant), ("Terminal", .terminal)]

instance : ToJson Rejection where
  toJson rejection := .record
    [("err", toJson rejection.code), ("class", toJson rejection.classOf),
      ("recoverable", toJson rejection.isRecoverable), ("message", toJson rejection.message)]

def SetupError.tag : SetupError → String
  | config _ => "Config"
  | unknownCard .. => "UnknownCard"
  | deckTooSmall .. => "DeckTooSmall"
  | violated _ => "Invariant"

/-- This is the fault in the options, if that is why a duel cannot be set up. -/
def SetupError.configError? : SetupError → Option ConfigError
  | config error => some error
  | _ => none

instance : ToJson SetupError where
  toJson error := .record
    [("error", toJson error.tag), ("message", toJson error.message),
      ("detail", toJson error.configError?)]

instance : ToJson SummonPlan where
  toJson plan := .record
    [("card", toJson plan.card), ("tributes", toJson plan.tributes), ("kind", toJson plan.kind)]

instance : ToJson BattleOutcome where
  toJson outcome := .record
    [("destroyed", toJson outcome.destroyed), ("damage", toJson outcome.damage)]

/-- This tells how an accepted action ended: what is hidden from the actor and how much happened. -/
instance : ToJson StepReport where
  toJson report := .record
    [("version", toJson report.version), ("viewer", toJson report.view.viewer),
      ("hidden", toJson (report.view.opponent.hand.countP CardView.isHidden)),
      ("n", toJson report.events.length)]

end CardDuel
