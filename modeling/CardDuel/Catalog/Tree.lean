/-
This file reads effect trees. A reference to a subeffect is read as the body of that subeffect, and
a subeffect that is entered again inside itself is a fault.
-/

import CardDuel.Catalog.Parts

namespace CardDuel

namespace Located

open Checked

/-- This reads the selector of an instruction when `targets` targets are chosen at activation. -/
def selector (targets : Nat) (part : Located) : Checked Selector :=
  match part.value.string? with
  | some name => do
    let selector ← part.orFail (.malformedSelector name) (Selector.ofName? name)
    match selector with
    | .chosen index =>
      if index ≥ targets then part.fail (.chosenOutOfRange index targets) else pure selector
    | _ => pure selector
  | none =>
    match part.field? "all" with
    | some filterPart => do
      return .all (← filterPart.filter)
    | none => part.fail (.malformedSelector part.value.write)

def modifyStat (part : Located) : Checked Instruction := do
  let stat ← part.stat.attempt
  let amount ← Checked.attempt do
    (← part.required "amount").signed
  let duration ← part.duration.attempt
  return .modifyStat (← require stat) (← require amount) (← require duration)

def setStat (part : Located) : Checked Instruction := do
  let stat ← part.stat.attempt
  let value ← Checked.attempt do
    (← part.required "value").word
  let duration ← part.duration.attempt
  return .setStat (← require stat) (← require value) (← require duration)

def search (part : Located) : Checked Instruction := do
  let filter ← Checked.attempt do
    (← part.required "filter").filter
  let count ← (part.positive "count").attempt
  return .search (← require filter) (← require count).toNat

def instruction (part field : Located) (name : String) : Checked Instruction :=
  if name = "draw" then do
    return .draw (← part.positive "count").toNat
  else if name = "mill" then do
    return .mill (← part.positive "count").toNat
  else if name = "discard" then do
    return .discard (← part.positive "count").toNat
  else if name = "banish" then pure .banish
  else if name = "search" then part.search
  else if name = "return_to_deck" then do
    return .returnToDeck (← part.choice "placement" .shuffle DeckPlacement.ofName?)
  else if name = "send_to_graveyard" then pure .sendToGraveyard
  else if name = "to_hand" then pure .toHand
  else if name = "damage" then do
    return .damage (← (← part.required "amount").word)
  else if name = "gain_life" then do
    return .gainLife (← (← part.required "amount").word)
  else if name = "modify_stat" then part.modifyStat
  else if name = "set_stat" then part.setStat
  else if name = "special_summon" then do
    return .specialSummon (← part.choice "position" .attack SummonPosition.ofName?)
  else if name = "destroy" then pure .destroy
  else if name = "negate" then pure .negate
  else if name = "negate_attack" then pure .negateAttack
  else field.fail (.unknownAction name)

def accepts (instruction : Instruction) (selector : Selector) : Bool :=
  match instruction with
  | .discard _ => true
  | _ => instruction.takesPlayers = selector.selectsPlayers

/-- The usual selector of an instruction needs no check: it is accepted and names no chosen target. -/
theorem accepts_default (targets : Nat) (instruction : Instruction) :
    accepts instruction instruction.defaultSelector = true ∧
      ∀ index, instruction.defaultSelector = .chosen index → index < targets := by
  constructor
  · cases instruction <;> rfl
  · intro index chosen
    cases instruction <;> cases chosen

def act (targets : Nat) (part : Located) : Checked EffectTree := do
  let field ← part.required "action"
  let name ← field.string
  let instruction ← part.instruction field name
  match part.field? "target" with
  | none => pure (.act instruction instruction.defaultSelector)
  | some target => do
    let selector ← target.selector targets
    if accepts instruction selector then pure (.act instruction selector)
    else target.fail (.selectorKind instruction.name instruction.takesPlayers)

/-- This reads a tree; `inline` reads the subeffect that a reference names. -/
def treeWith (inline : Located → String → Checked EffectTree) (targets : Nat) (part : Located) :
    Checked EffectTree := do
  part.object
  match part.field? "ref" with
  | some reference => do
    inline reference (← reference.string)
  | none =>
  match _ : part.field? "sequence" with
  | some list => do
    list.array
    let results ← each (fun child => treeWith inline targets child.1) list.items.attach
    return .sequence (← require (complete? results))
  | none =>
  match part.field? "if" with
  | some question => do
    let condition ← question.condition.attempt
    let yes ← Checked.attempt do
      match _ : part.field? "then" with
      | some branch => treeWith inline targets branch
      | none => part.fail (.missingField "then")
    let no ← Checked.attempt do
      match _ : part.field? "else" with
      | some branch => do
        return some (← treeWith inline targets branch)
      | none => pure none
    return .branch (← require condition) (← require yes) (← require no)
  | none =>
  match part.field? "action" with
  | some _ => part.act targets
  | none => part.fail .unknownNode
termination_by sizeOf part.value
decreasing_by
  · have := field?_size ‹_›
    have := items_size child.2
    omega
  · exact field?_size ‹_›
  · exact field?_size ‹_›

def without (names : List String) (name : String) : List String := names.filter (· ≠ name)

theorem length_without_lt {names : List String} {name : String} (member : name ∈ names) :
    (without names name).length < names.length :=
  List.length_filter_lt_length_iff_exists.2 ⟨name, member, by simp⟩

/-- This reads the subeffect that a reference names; only the names in `free` may be entered. -/
def inlineRef (subeffects : Located) (targets : Nat) (free : List String) (reference : Located)
    (name : String) : Checked EffectTree :=
  match subeffects.field? name with
  | none => reference.fail (.unknownRef name)
  | some body =>
    if _ : name ∈ free then
      body.treeWith
        (fun inner other => inlineRef subeffects targets (without free name) inner other)
        targets
    else reference.fail (.cyclicRef name)
termination_by free.length
decreasing_by
  exact length_without_lt ‹_›

/-- This reads the tree of an effect; every subeffect may be entered from its root. -/
def tree (part subeffects : Located) (targets : Nat) : Checked EffectTree :=
  let names := (subeffects.value.members?.getD []).map Prod.fst
  part.treeWith (inlineRef subeffects targets names) targets

end Located

end CardDuel
