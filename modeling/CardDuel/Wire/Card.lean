/-
This file relates the names, numbers and templates of cards to JSON.
-/

import CardDuel.Catalog.Load
import CardDuel.Wire.Basic

namespace CardDuel

instance : ToJson CardId := ⟨fun card => toJson card.number⟩

instance : FromJson CardId := ⟨fun value => value.uint32?.map CardId.mk, none⟩

instance : ToJson InstanceId := ⟨fun card => toJson card.number⟩

instance : FromJson InstanceId := ⟨fun value => value.uint32?.map InstanceId.mk, none⟩

instance : ToJson Seat := ⟨fun seat => toJson seat.number⟩

instance : FromJson Seat := ⟨fun value => value.uint8?.bind Seat.ofNumber?, none⟩

instance : ToJson Speed := ⟨fun speed => toJson speed.value⟩

instance : Tagged Stat := ⟨[("Atk", .attack), ("Def", .defense), ("Level", .level)]⟩

instance : Tagged Zone where
  tags := [("Deck", .deck), ("Hand", .hand), ("MonsterZone", .monsters), ("SpellTrapZone", .spells),
    ("Graveyard", .graveyard), ("Banished", .banished)]

instance : Tagged Place := ⟨[("Top", .top), ("Bottom", .bottom)]⟩

instance : Tagged Position where
  tags := [("FaceUpAttack", .faceUpAttack), ("FaceUpDefense", .faceUpDefense),
    ("FaceDownDefense", .faceDownDefense), ("FaceUp", .faceUp), ("FaceDown", .faceDown)]

instance : Tagged Phase where
  tags := [("Draw", .draw), ("Standby", .standby), ("Main1", .main1), ("Battle", .battle),
    ("Main2", .main2), ("End", .ending)]

instance : Tagged Destruction := ⟨[("Battle", .battle), ("Effect", .effect)]⟩

instance : Tagged Category := ⟨[("Monster", .monster), ("Spell", .spell), ("Trap", .trap)]⟩

instance : Tagged SpellKind where
  tags := [("Normal", .normal), ("QuickPlay", .quickPlay), ("Continuous", .continuous)]

instance : Tagged TrapKind where
  tags := [("Normal", .normal), ("Continuous", .continuous), ("Counter", .counter)]

instance : Tagged EffectKind where
  tags := [("Ignition", .ignition), ("Quick", .quick), ("Trigger", .trigger),
    ("Activate", .activate)]

instance : Tagged ActivationLimit where
  tags := [("OncePerTurn", .oncePerTurn), ("OncePerDuel", .oncePerDuel)]

instance : Tagged CostResource where
  tags := [("LifePoints", .lifePoints), ("Hand", .hand), ("Field", .field), ("This", .this)]

instance : Tagged DeckPlacement where
  tags := [("Top", .top), ("Bottom", .bottom), ("Shuffle", .shuffle)]

instance : Tagged SummonPosition := ⟨[("Attack", .attack), ("Defense", .defense)]⟩

instance : Tagged InstructionCategory where
  tags := [("Movement", .movement), ("Combat", .combat), ("Summon", .summon), ("Utility", .utility)]

instance : Tagged Side where
  tags := [("Controller", .controller), ("Opponent", .opponent), ("Either", .either)]

instance : Tagged Duration where
  tags := [("WhileSourceActive", .whileSourceActive), ("EndOfTurn", .endOfTurn),
    ("UntilLeavesField", .untilLeavesField)]

instance : Tagged TriggerEvent where
  tags := [("Summoned", .summoned), ("SpecialSummoned", .specialSummoned),
    ("FlipSummoned", .flipSummoned), ("Destroyed", .destroyed),
    ("DestroyedByBattle", .destroyedByBattle), ("SentToGraveyard", .sentToGraveyard),
    ("AttackDeclared", .attackDeclared), ("DamageTaken", .damageTaken)]

instance : Tagged TriggerSubject := ⟨[("This", .this), ("Any", .any)]⟩

instance : ToJson StatLine where
  toJson line := .record
    [("atk", toJson line.attack), ("def", toJson line.defense), ("level", toJson line.level)]

instance : ToJson CardKind where
  toJson
    | .monster level attack defense =>
      .variant "Monster" [("level", toJson level), ("atk", toJson attack), ("def", toJson defense)]
    | .spell kind => .tagged "Spell" (toJson kind)
    | .trap kind => .tagged "Trap" (toJson kind)

instance : FromJson CardKind where
  fromJson? value := do
    match ← value.alternative? with
    | ("Monster", some content) => do
      let fields ← content.members?
      return .monster (← Json.get? fields "level") (← Json.get? fields "atk")
        (← Json.get? fields "def")
    | ("Spell", some content) => (fromJson? content).map CardKind.spell
    | ("Trap", some content) => (fromJson? content).map CardKind.trap
    | _ => none

instance : ToJson CardFilter where
  toJson filter := .record
    [("zone", match filter.scope with
      | .field => .string "field"
      | .zone zone => .string zone.name),
      ("side", toJson filter.side), ("category", toJson filter.category),
      ("card", toJson filter.card), ("max_level", toJson filter.maxLevel),
      ("min_atk", toJson filter.minAttack), ("max_atk", toJson filter.maxAttack),
      ("face_up", toJson filter.faceUp), ("exclude_self", toJson filter.excludeSelf)]

namespace Condition

mutual

def json : Condition → Json
  | always => .string "Always"
  | lifeAtMost side amount => .tagged "LifeAtMost" (toJson (side, amount))
  | lifeAtLeast side amount => .tagged "LifeAtLeast" (toJson (side, amount))
  | handAtLeast side size => .tagged "HandAtLeast" (toJson (side, size))
  | count filter atLeast atMost =>
    .tagged "Count" (.array [toJson filter, toJson atLeast, toJson atMost])
  | phase current => .tagged "Phase" (.string current.name)
  | all conditions => .tagged "All" (.array (jsons conditions))
  | any conditions => .tagged "Any" (.array (jsons conditions))
  | not condition => .tagged "Not" (json condition)

def jsons : List Condition → List Json
  | [] => []
  | condition :: rest => json condition :: jsons rest

end

end Condition

instance : ToJson Condition := ⟨Condition.json⟩

def Instruction.arguments : Instruction → List Json
  | .draw count | .mill count | .discard count => [toJson count]
  | .search filter count => [toJson filter, toJson count]
  | .returnToDeck placement => [toJson placement]
  | .damage amount | .gainLife amount => [toJson amount]
  | .modifyStat stat amount duration => [toJson stat, toJson amount, toJson duration]
  | .setStat stat value duration => [toJson stat, toJson value, toJson duration]
  | .specialSummon position => [toJson position]
  | _ => []

instance : ToJson Selector where
  toJson
    | .this => .string "This"
    | .controller => .string "Controller"
    | .opponent => .string "Opponent"
    | .bothPlayers => .string "BothPlayers"
    | .chosen index => .tagged "Chosen" (toJson index)
    | .previousLink => .string "PreviousLink"
    | .attacker => .string "Attacker"
    | .attackTarget => .string "AttackTarget"
    | .all filter => .tagged "All" (toJson filter)

namespace EffectTree

mutual

def json : EffectTree → Json
  | act instruction target => .record
    [("action", toJson instruction.name), ("category", toJson instruction.category),
      ("args", .array instruction.arguments), ("target", toJson target)]
  | sequence children => .record [("sequence", .array (jsons children))]
  | branch condition yes no => .record
    [("if", toJson condition), ("then", json yes), ("else", optionalJson no)]

def jsons : List EffectTree → List Json
  | [] => []
  | child :: rest => json child :: jsons rest

def optionalJson : Option EffectTree → Json
  | none => .null
  | some child => json child

end

end EffectTree

instance : ToJson EffectTree := ⟨EffectTree.json⟩

instance : ToJson Cost where
  toJson cost := .array [toJson cost.resource, toJson cost.amount, toJson cost.cardsNamed]

instance : ToJson TriggerSpec where
  toJson spec := .record
    [("event", toJson spec.event), ("subject", toJson spec.subject), ("side", toJson spec.side),
      ("optional", toJson spec.optional)]

instance : ToJson TargetSpec := ⟨fun spec => toJson (spec.filter, spec.count)⟩

instance : ToJson CardEffect where
  toJson effect := .record
    [("kind", toJson effect.kind), ("speed", toJson effect.speed), ("limit", toJson effect.limit),
      ("cost", toJson effect.cost), ("condition", toJson effect.condition),
      ("trigger", toJson effect.trigger), ("targets", toJson effect.targets),
      ("target_count", toJson effect.targetCount),
      ("optional_trigger", toJson effect.isOptionalTrigger),
      ("event_gated", toJson effect.isEventGated), ("actions", toJson effect.root.actionCount),
      ("uses", toJson ([InstructionCategory.movement, .combat, .summon, .utility].map
        effect.root.uses)),
      ("root", toJson effect.root)]

instance : ToJson Ability where
  toJson ability := .record
    [("affects", toJson ability.affects),
      ("effect", match ability.alteration with
        | .negate => .string "Negate"
        | .delta stat amount => .tagged "Modify" (toJson (stat, amount))
        | .override stat value => .tagged "Override" (toJson (stat, value))),
      ("condition", toJson ability.condition)]

instance : ToJson CardTemplate where
  toJson template := .record
    [("id", toJson template.id), ("name", toJson template.name), ("kind", toJson template.kind),
      ("category", toJson template.kind.category), ("effects", toJson template.effects),
      ("continuous", toJson template.continuous),
      ("special_summon", toJson template.specialSummon)]

def Fault.tag : Fault → String
  | .missingField _ => "MissingField"
  | .expected _ => "ExpectedType"
  | .unknownKind _ => "UnknownKind"
  | .unknownEffectType _ => "UnknownEffectType"
  | .unknownAction _ => "UnknownAction"
  | .unknownAttribute _ => "UnknownAttribute"
  | .malformedSelector _ => "MalformedSelector"
  | .unknownResource _ => "UnknownResource"
  | .unknownValue .. => "UnknownValue"
  | .unknownCondition => "UnknownCondition"
  | .unknownNode => "UnknownNode"
  | .cyclicRef _ => "CyclicRef"
  | .unknownRef _ => "UnknownRef"
  | .speedOutOfRange _ => "SpeedOutOfRange"
  | .speedMismatch .. => "SpeedMismatch"
  | .activateOnMonster => "ActivateOnMonster"
  | .specialSummonOnOther => "MonsterOnly"
  | .triggerTargets => "TriggerTargets"
  | .triggerCost => "TriggerCost"
  | .chosenOutOfRange .. => "ChosenOutOfRange"
  | .selectorKind .. => "SelectorKind"
  | .zeroCount => "ZeroCount"
  | .duplicateId _ => "DuplicateId"

instance : ToJson Issue where
  toJson issue := .record
    [("path", toJson issue.place), ("kind", toJson issue.fault.tag),
      ("message", toJson issue.message)]

instance : ToJson RejectedCard where
  toJson rejected := .record
    [("card", toJson rejected.card), ("index", toJson rejected.index),
      ("errors", toJson rejected.issues), ("message", toJson rejected.message)]

instance : ToJson CatalogError where
  toJson
    | .notJson => .record [("error", .string "Document"), ("path", .string "$")]
    | .notArray => .record
      [("error", .string "Document"), ("path", .string "$"),
        ("message", .string "$: invalid catalog document: catalog must be a JSON array")]

end CardDuel
