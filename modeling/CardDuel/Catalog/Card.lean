/-
This file reads the effects of a card and whole cards.
-/

import CardDuel.Catalog.Tree

namespace CardDuel

namespace Located

open Checked

def effectKind (card : CardKind) (part : Located) : Checked EffectKind := do
  let field ← part.required "type"
  let name ← field.string
  let kind ← field.orFail (.unknownEffectType name) (EffectKind.ofName? name)
  if kind = .activate ∧ card.isMonster then field.fail .activateOnMonster else pure kind

/-- This reads a declared speed, which must be the one that the effect has anyway. -/
def speed (needed : Speed) (part : Located) : Checked Speed := do
  let value ← part.natural
  let declared ← part.orFail (.speedOutOfRange value)
    (if value.toNat < UInt8.size then Speed.ofValue? value.toUInt8 else none)
  if declared = needed then pure declared else part.fail (.speedMismatch declared needed)

/-- This reads the speed of an effect; an effect without a valid kind has none. -/
def effectSpeed (card : CardKind) (kind : Option EffectKind) (part : Located) : Checked Speed := do
  let kind ← require kind
  match part.field? "speed" with
  | none => pure (card.speedOf kind)
  | some field => field.speed (card.speedOf kind)

/-- This reads the trigger of an effect, which only trigger effects need. -/
def effectTrigger (kind : Option EffectKind) (part : Located) : Checked (Option TriggerSpec) :=
  match part.field? "trigger" with
  | some field => do
    return some (← field.trigger)
  | none => if kind = some .trigger then part.fail (.missingField "trigger") else pure none

/-- This reads the targets of an effect one by one; trigger effects may not have any. -/
def effectTargets (kind : Option EffectKind) (part : Located) :
    Checked (List (Option TargetSpec)) :=
  match part.field? "targets" with
  | none => pure []
  | some list => do
    if kind = some .trigger then list.note .triggerTargets
    list.array
    each targetSpec list.items

/-- This reports a trigger effect whose cost names cards. -/
def triggerCost (kind : Option EffectKind) (cost : Option Cost) (part : Located) : Checked Unit :=
  match part.field? "cost", cost with
  | some field, some cost =>
    if kind = some .trigger ∧ (cost.resource = .hand ∨ cost.resource = .field) then
      field.note .triggerCost
    else pure ()
  | _, _ => pure ()

/-- This tells whether the targets of an effect are allowed; they are read in any case. -/
def targetsAllowed (kind : Option EffectKind) (part : Located) : Bool :=
  !(kind = some .trigger && (part.field? "targets").isSome)

def effect (subeffects : Located) (card : CardKind) (part : Located) : Checked CardEffect := do
  part.object
  let kind ← (part.effectKind card).attempt
  let speed ← (part.effectSpeed card kind).attempt
  let limit ← (part.choice "limit" none fun name => (ActivationLimit.ofName? name).map some).attempt
  let cost ← (part.optional "cost" Located.cost).attempt
  let condition ← (part.optional "condition" Located.condition).attempt
  let trigger ← (part.effectTrigger kind).attempt
  let targets ← part.effectTargets kind
  part.triggerCost kind cost.join
  let available := TargetSpec.total (targets.filterMap id)
  let root ← Checked.attempt do
    (← part.required "effect").tree subeffects available
  return {
    kind := ← require kind
    speed := ← require speed
    root := ← require root
    limit := ← require limit
    cost := ← require cost
    condition := ← require condition
    trigger := ← require trigger
    targets := ← require (if part.targetsAllowed kind then complete? targets else none) }

def entries {α : Type} (part : Located) (name : String) (read : Located → Checked α) :
    Checked (List α) :=
  match part.field? name with
  | none => pure []
  | some list => do
    list.array
    return (← each read list.items).filterMap id

/-- This reads what a monster asks for to be special summoned; other cards may not say it. -/
def specialSummon (kind : CardKind) (part : Located) : Checked (Option Condition) :=
  match part.field? "special_summon" with
  | none => pure none
  | some field =>
    if kind.isMonster then field.condition.attempt
    else do
      field.note .specialSummonOnOther
      return none

/-- This is the part that holds the subeffects; a card without any has an empty one. -/
def subeffects (part : Located) : Checked Located :=
  match part.field? "subeffects" with
  | none => pure ⟨part.path ++ [.key "subeffects"], .null⟩
  | some field => do
    if field.value.members?.isNone then field.note (.expected "object")
    return field

/-- This gives a spell or trap without an activation an empty one. -/
def withActivation (kind : CardKind) (effects : List CardEffect) : List CardEffect :=
  if !kind.isMonster && !effects.any (fun effect => effect.kind = .activate) then
    effects ++ [.plain .activate (kind.speedOf .activate) .empty]
  else effects

/-- This reads a card. Without a number, a name and a kind the rest is not looked at. -/
def card (part : Located) : Checked CardTemplate := do
  part.object
  let subeffects ← part.subeffects
  let id ← Checked.attempt do
    (← part.required "id").word
  let name ← Checked.attempt do
    (← part.required "name").string
  let kind ← part.kind.attempt
  let id ← require id
  let name ← require name
  let kind ← require kind
  let effects ← part.entries "effects" (Located.effect subeffects kind)
  let continuous ← part.entries "continuous" Located.ability
  let specialSummon ← part.specialSummon kind
  return {
    id := ⟨id⟩
    name := name
    kind := kind
    effects := withActivation kind effects
    continuous := continuous
    specialSummon := specialSummon }

end Located

/-- This is a card that was not taken into a catalog, with the reasons. -/
structure RejectedCard where
  card : Option CardId
  index : Nat
  issues : List Issue
deriving DecidableEq

namespace RejectedCard

def message (rejected : RejectedCard) : String :=
  "card at index " ++ toString rejected.index ++ " rejected with " ++
    toString rejected.issues.length ++ " error(s)"

def duplicate (card : CardId) (index : Nat) : RejectedCard :=
  ⟨some card, index, [⟨[.key "id"], .duplicateId card⟩]⟩

end RejectedCard

def CardTemplate.read (index : Nat) (value : Json) : Except RejectedCard CardTemplate :=
  let result := (Located.root value).card
  match result.value?, result.issues with
  | some template, [] => .ok template
  | _, issues => .error ⟨((value.field? "id").bind Json.uint32?).map CardId.mk, index, issues⟩

end CardDuel
