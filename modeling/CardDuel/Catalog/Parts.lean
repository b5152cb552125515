/-
This file reads the parts of a card that hold no effect tree: filters, conditions, costs, triggers,
abilities and kinds.
-/

import CardDuel.Card.Template
import CardDuel.Catalog.Field

namespace CardDuel

namespace Located

open Checked

def filter (part : Located) : Checked CardFilter := do
  part.object
  let scope ← (part.choice "zone" .field Scope.ofName?).attempt
  let side ← (part.choice "side" .either Side.ofName?).attempt
  let category ← (part.choice "category" none fun name => (Category.ofName? name).map some).attempt
  let card ← (part.optional "card" word).attempt
  let maxLevel ← (part.optional "max_level" word).attempt
  let minAttack ← (part.optional "min_atk" word).attempt
  let maxAttack ← (part.optional "max_atk" word).attempt
  let faceUp ← (part.flag "face_up").attempt
  let excludeSelf ← (part.flag "exclude_self").attempt
  return {
    scope := ← require scope
    side := ← require side
    category := ← require category
    card := (← require card).map CardId.mk
    maxLevel := ← require maxLevel
    minAttack := ← require minAttack
    maxAttack := ← require maxAttack
    faceUp := ← require faceUp
    excludeSelf := ← require excludeSelf }

/-- This reads the side of a condition, which is the controller's when it is missing. -/
def ownSide (part : Located) : Checked Side := part.choice "side" .controller Side.ofName?

def comparison (part bound : Located) (build : Side → UInt32 → Condition) : Checked Condition := do
  let amount ← bound.word.attempt
  let side ← part.ownSide
  return build side (← require amount)

def counting (part filterPart : Located) : Checked Condition := do
  let filter ← filterPart.filter.attempt
  let atLeast ← (part.optional "at_least" word).attempt
  let atMost ← (part.optional "at_most" word).attempt
  return .count (← require filter) ((← require atLeast).map UInt32.toNat)
    ((← require atMost).map UInt32.toNat)

/-- This reads a condition. Of several keys that name one, the first in this order counts. -/
def condition (part : Located) : Checked Condition :=
  if part.value.string? = some "always" then pure .always
  else do
    part.object
    match part.field? "life_at_most" with
    | some bound => part.comparison bound .lifeAtMost
    | none =>
    match part.field? "life_at_least" with
    | some bound => part.comparison bound .lifeAtLeast
    | none =>
    match part.field? "hand_at_least" with
    | some bound => part.comparison bound fun side count => .handAtLeast side count.toNat
    | none =>
    match part.field? "count" with
    | some filterPart => part.counting filterPart
    | none =>
    match part.field? "no_monsters" with
    | some _ => do
      return .noMonsters (← part.choice "no_monsters" .controller Side.ofName?)
    | none =>
    match part.field? "phase" with
    | some _ => do
      return .phase (← part.choice "phase" .main1 Phase.ofName?)
    | none =>
    match _ : part.field? "all" with
    | some list => do
      list.array
      let results ← each (fun item => condition item.1) list.items.attach
      return .all (← require (complete? results))
    | none =>
    match _ : part.field? "any" with
    | some list => do
      list.array
      let results ← each (fun item => condition item.1) list.items.attach
      return .any (← require (complete? results))
    | none =>
    match _ : part.field? "not" with
    | some inner => do
      return .not (← condition inner)
    | none => part.fail .unknownCondition
termination_by sizeOf part.value
decreasing_by
  · have := field?_size ‹_›
    have := items_size item.2
    omega
  · have := field?_size ‹_›
    have := items_size item.2
    omega
  · exact field?_size ‹_›

def cost (part : Located) : Checked Cost := do
  part.object
  let resource ← part.required "resource"
  let name ← resource.string
  if name = "life_points" then
    return ⟨.lifePoints, ← (← part.required "amount").word⟩
  else if name = "hand" then
    return ⟨.hand, ← part.positive "amount"⟩
  else if name = "field" then
    return ⟨.field, ← part.positive "amount"⟩
  else if name = "self" then
    return ⟨.this, 1⟩
  else resource.fail (.unknownResource name)

def trigger (part : Located) : Checked TriggerSpec := do
  part.object
  let event ← Checked.attempt do
    let field ← part.required "event"
    let name ← field.string
    field.orFail (.unknownValue "event" name) (TriggerEvent.ofName? name)
  let subject ← (part.choice "subject" .any TriggerSubject.ofName?).attempt
  let side ← (part.choice "side" .either Side.ofName?).attempt
  let optional ← (part.flag "optional").attempt
  return {
    event := ← require event
    subject := ← require subject
    side := ← require side
    optional := ← require optional }

def targetSpec (part : Located) : Checked TargetSpec := do
  part.object
  let count ← (part.positive "count").attempt
  let filter ← part.filter.attempt
  return ⟨← require filter, (← require count).toNat⟩

def duration (part : Located) : Checked Duration :=
  part.choice "until" .endOfTurn Duration.ofName?

def alteration (part : Located) : Checked Alteration := do
  let stat ← part.stat.attempt
  match part.field? "amount", part.field? "value" with
  | some amount, _ => do
    let amount ← amount.signed
    return .delta (← require stat) amount
  | none, some value => do
    let value ← value.word
    return .override (← require stat) value
  | none, none => part.fail (.missingField "amount")

def ability (part : Located) : Checked Ability := do
  part.object
  let affects ← Checked.attempt do
    (← part.required "affects").filter
  let negates ← part.flag "negate"
  let alteration ← (if negates then pure .negate else part.alteration).attempt
  let condition ← (part.optional "condition" condition).attempt
  return ⟨← require affects, ← require alteration, ← require condition⟩

def monster (part : Located) : Checked CardKind := do
  let level ← Checked.attempt do
    (← part.required "level").word
  let attack ← Checked.attempt do
    (← part.required "atk").word
  let defense ← Checked.attempt do
    (← part.required "def").word
  let level ← Checked.attempt do
    let value ← require level
    match part.field? "level" with
    | some field =>
      if value > 255 then field.fail (.expected "level between 0 and 255") else pure value
    | none => pure value
  return .monster (← require level) (← require attack) (← require defense)

def kind (part : Located) : Checked CardKind := do
  let field ← part.required "kind"
  let name ← field.string
  if name = "monster" then part.monster
  else if name = "spell" then
    return .spell (← part.choice "spell_type" .normal SpellKind.ofName?)
  else if name = "trap" then
    return .trap (← part.choice "trap_type" .normal TrapKind.ofName?)
  else field.fail (.unknownKind name)

end Located

end CardDuel
