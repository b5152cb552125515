/-
This file tells how the parts of a card that is taken correspond to what is written. Every reading reports an
issue or gives a card with all that is written, item by item; of several keys that say what a condition or a
node of a tree is, the first counts.
-/

import CardDuel.Proofs.Accepted
import CardDuel.Proofs.Catalog.Told

namespace CardDuel

namespace Json

/-- This is the first of several keys under which an object holds something. -/
def firstKey? (value : Json) (keys : List String) : Option String :=
  keys.find? fun key => (value.field? key).isSome

/-- This tells that a list has one entry for each item of an array, in order; a missing array has none. -/
def Lists {α : Type} (pairs : Json → α → Prop) (value : Option Json) (entries : List α) : Prop :=
  match value with
  | none => entries = []
  | some value => ∃ items, value = .array items ∧ List.Forall₂ pairs items entries

end Json

namespace Condition

/-- These are the keys that say what a condition asks; the first one that is there counts. -/
def keys : List String :=
  ["life_at_most", "life_at_least", "hand_at_least", "count", "no_monsters", "phase", "all", "any", "not"]

/-- This tells that a condition without parts is what a key asks for. -/
def NamedBy (key : String) : Condition → Prop
  | lifeAtMost .. => key = "life_at_most"
  | lifeAtLeast .. => key = "life_at_least"
  | handAtLeast .. => key = "hand_at_least"
  | count .. => key = "count" ∨ key = "no_monsters"
  | phase _ => key = "phase"
  | _ => False

/-- This tells that a condition is what is written, with one part for each item of `all` and `any`. -/
inductive WrittenBy : Json → Condition → Prop where
  | always : WrittenBy (.string "always") .always
  | plain {value : Json} {key : String} {condition : Condition} (first : value.firstKey? keys = some key)
      (named : condition.NamedBy key) : WrittenBy value condition
  | all {value : Json} {items : List Json} {conditions : List Condition}
      (first : value.firstKey? keys = some "all") (found : value.field? "all" = some (.array items))
      (written : List.Forall₂ WrittenBy items conditions) : WrittenBy value (.all conditions)
  | any {value : Json} {items : List Json} {conditions : List Condition}
      (first : value.firstKey? keys = some "any") (found : value.field? "any" = some (.array items))
      (written : List.Forall₂ WrittenBy items conditions) : WrittenBy value (.any conditions)
  | not {value inner : Json} {condition : Condition} (first : value.firstKey? keys = some "not")
      (found : value.field? "not" = some inner) (written : WrittenBy inner condition) :
      WrittenBy value (.not condition)

end Condition

namespace EffectTree

/-- These are the keys that say what a node of a tree is; the first one that is there counts. -/
def keys : List String := ["ref", "sequence", "if", "action"]

/--
This tells that a tree is what is written, with one child for each item of a sequence. A reference stands for
the subeffect that it names.
-/
inductive WrittenBy (subeffects : Json) : Json → EffectTree → Prop where
  | inlined {value body : Json} {name : String} {tree : EffectTree}
      (first : value.firstKey? keys = some "ref") (found : value.field? "ref" = some (.string name))
      (known : subeffects.field? name = some body) (written : WrittenBy subeffects body tree) :
      WrittenBy subeffects value tree
  | sequence {value : Json} {items : List Json} {children : List EffectTree}
      (first : value.firstKey? keys = some "sequence")
      (found : value.field? "sequence" = some (.array items))
      (written : List.Forall₂ (WrittenBy subeffects) items children) :
      WrittenBy subeffects value (.sequence children)
  | branch {value question node : Json} {condition : Condition} {yes : EffectTree}
      {no : Option EffectTree} (first : value.firstKey? keys = some "if")
      (found : value.field? "if" = some question) (asked : condition.WrittenBy question)
      (chosen : value.field? "then" = some node) (written : WrittenBy subeffects node yes)
      (other : Option.Rel (WrittenBy subeffects) (value.field? "else") no) :
      WrittenBy subeffects value (.branch condition yes no)
  | act {value : Json} {instruction : Instruction} {selector : Selector}
      (first : value.firstKey? keys = some "action")
      (found : value.field? "action" = some (.string instruction.name)) :
      WrittenBy subeffects value (.act instruction selector)

end EffectTree

/-- This tells that a description of targets is what is written; it asks for one target if nothing is said. -/
def TargetSpec.WrittenBy (value : Json) (spec : TargetSpec) : Prop :=
  ((value.field? "count").bind Json.nat?).getD 1 = spec.count

/-- This tells that an effect is what is written, with one description for each item of its targets. -/
structure CardEffect.WrittenBy (subeffects value : Json) (effect : CardEffect) : Prop where
  kind : ∃ name, value.field? "type" = some (.string name) ∧ EffectKind.ofName? name = some effect.kind
  cost : effect.cost.isSome = (value.field? "cost").isSome
  condition : Option.Rel Condition.WrittenBy (value.field? "condition") effect.condition
  trigger : effect.trigger.isSome = (value.field? "trigger").isSome
  targets : Json.Lists TargetSpec.WrittenBy (value.field? "targets") effect.targets
  root : ∃ node, value.field? "effect" = some node ∧ effect.root.WrittenBy subeffects node

/-- This tells that an ability asks for the condition that is written. -/
structure Ability.WrittenBy (value : Json) (ability : Ability) : Prop where
  condition : Option.Rel Condition.WrittenBy (value.field? "condition") ability.condition

/--
This tells that a card is what is written. It has one effect for each item, in order, and then an activation
that does nothing if it is a spell or trap without an activation; it has one ability for each item.
-/
structure CardTemplate.WrittenBy (value : Json) (template : CardTemplate) : Prop where
  effects : ∃ printed,
    Json.Lists (CardEffect.WrittenBy ((value.field? "subeffects").getD .null)) (value.field? "effects")
      printed ∧
    template.effects = printed ++
      if template.kind.isMonster = false ∧ ∀ effect ∈ printed, effect.kind ≠ .activate then
        [.plain .activate (template.kind.speedOf .activate) .empty]
      else []
  continuous : Json.Lists Ability.WrittenBy (value.field? "continuous") template.continuous
  specialSummon : Option.Rel Condition.WrittenBy (value.field? "special_summon") template.specialSummon

namespace Located

open Checked

variable (part : Located)

/-! Keys and lists -/

section Keys

variable {α : Type} {good : α → Prop} {all keys : List String} {key : String}

/-- A key that is there is the first of the keys that start with it. -/
theorem firstKey?_of_some {field : Located} (found : part.field? key = some field) :
    part.value.firstKey? (key :: keys) = some key := by
  rw [Json.firstKey?, List.find?_cons_of_pos]
  rw [part.field?_value found]
  rfl

/-- A key that is missing is not the first one. -/
theorem firstKey?_of_none (absent : part.field? key = none) :
    part.value.firstKey? (key :: keys) = part.value.firstKey? keys := by
  rw [Json.firstKey?, List.find?_cons_of_neg]
  · rfl
  · rw [part.field?_value_none absent]
    exact Bool.false_ne_true

/-- A key is the first one, or it is missing and the others are left. -/
theorem byKey {there : Located → Checked α} {missing : Checked α}
    (left : part.value.firstKey? all = part.value.firstKey? (key :: keys))
    (found : ∀ field, part.field? key = some field → part.value.firstKey? all = some key →
      (there field).Yields good)
    (absent : part.value.firstKey? all = part.value.firstKey? keys → missing.Yields good) :
    (match part.field? key with
      | some field => there field
      | none => missing).Yields good := by
  split
  · next field given => exact found field given (left.trans (part.firstKey?_of_some given))
  · next given => exact absent (left.trans (part.firstKey?_of_none given))

/-- A key is the first one, or it is missing and the others are left; the reading knows which. -/
theorem byKeyOf {there : (field : Located) → part.field? key = some field → Checked α}
    {missing : part.field? key = none → Checked α}
    (left : part.value.firstKey? all = part.value.firstKey? (key :: keys))
    (found : ∀ field (given : part.field? key = some field), part.value.firstKey? all = some key →
      (there field given).Yields good)
    (absent : ∀ given, part.value.firstKey? all = part.value.firstKey? keys →
      (missing given).Yields good) :
    (match given : part.field? key with
      | some field => there field given
      | none => missing given).Yields good := by
  split
  · next field given => exact found field given (left.trans (part.firstKey?_of_some given))
  · next given => exact absent given (left.trans (part.firstKey?_of_none given))

end Keys

section Lists

variable {α β : Type} {pairs : Json → α → Prop} {read : Located → Checked α} {values : List Json}

/-- Items that are read without an issue have one value each. -/
theorem each_written (array : part.value = .array values)
    (each : ∀ item ∈ part.items, (read item).Yields (pairs item.value)) :
    (Checked.each read part.items).Yields fun listed =>
      ∃ entries : List α, listed = entries.map some ∧ List.Forall₂ pairs values entries := by
  apply (Yields.each each).imp
  intro listed given
  obtain ⟨entries, rfl, matched⟩ := given
  refine ⟨entries, rfl, ?_⟩
  rw [← part.items_value array, List.forall₂_map_left_iff]
  exact matched

/-- What is built of all items of an array is built of one value for each item. -/
theorem all_written {build : List α → β} {good : β → Prop}
    (each : ∀ item ∈ part.items, (read item).Yields (pairs item.value))
    (built : ∀ values entries, part.value = .array values → List.Forall₂ pairs values entries →
      good (build entries)) :
    (part.array >>= fun _ => Checked.each (fun item => read item.1) part.items.attach >>= fun results =>
      require (complete? results) >>= fun entries => pure (build entries)).Yields good := by
  have attached : Checked.each (fun item => read item.1) part.items.attach =
      Checked.each read part.items := by
    simp only [Checked.each, List.attach_map_val]
  apply part.array_yields.bind
  intro _ given
  obtain ⟨values, array⟩ := given
  rw [attached]
  apply (part.each_written array each).bind
  intro results given
  obtain ⟨entries, rfl, matched⟩ := given
  rw [complete?_map_some, yields_require_bind, yields_pure]
  exact built values entries array matched

end Lists

/-! Conditions -/

/-- A condition that is read is what is written. -/
theorem condition_written (part : Located) : part.condition.Yields (Condition.WrittenBy part.value) := by
  rw [condition]
  apply Yields.ite
  · intro always
    rw [yields_pure]
    cases value : part.value <;> simp_all [Json.string?, Condition.WrittenBy.always]
  intro _
  apply part.object_sure.bind
  intro _ _
  -- Key by key: it is the first one that is there, or the first one is among those that are left.
  have keys : part.value.firstKey? Condition.keys = part.value.firstKey? Condition.keys := rfl
  apply part.byKey keys
  · intro bound _ first
    exact part.comparison_yields bound fun _ _ => .plain first rfl
  intro keys
  apply part.byKey keys
  · intro bound _ first
    exact part.comparison_yields bound fun _ _ => .plain first rfl
  intro keys
  apply part.byKey keys
  · intro bound _ first
    exact part.comparison_yields bound fun _ _ => .plain first rfl
  intro keys
  apply part.byKey keys
  · intro filterPart _ first
    exact part.counting_yields filterPart fun _ _ _ => .plain first (.inl rfl)
  intro keys
  apply part.byKey keys
  · intro _ _ first
    exact (part.choice_sure _ _ _).bind fun _ _ => yields_pure.mpr (.plain first (.inr rfl))
  intro keys
  apply part.byKey keys
  · intro _ _ first
    exact (part.choice_sure _ _ _).bind fun _ _ => yields_pure.mpr (.plain first rfl)
  intro keys
  apply part.byKeyOf keys
  · intro list found first
    apply list.all_written (fun item member => condition_written item)
    intro _ _ array written
    exact .all first (array ▸ part.field?_value found) written
  intro _ keys
  apply part.byKeyOf keys
  · intro list found first
    apply list.all_written (fun item member => condition_written item)
    intro _ _ array written
    exact .any first (array ▸ part.field?_value found) written
  intro _ keys
  refine part.byKeyOf keys ?_ fun _ _ => part.yields_fail _
  intro inner found first
  apply (condition_written inner).bind
  intro condition written
  rw [yields_pure]
  exact .not first (part.field?_value found) written
termination_by sizeOf part.value
decreasing_by
  · have := field?_size ‹_›
    have := items_size ‹_›
    omega
  · have := field?_size ‹_›
    have := items_size ‹_›
    omega
  · exact field?_size ‹_›

/-! Trees -/

/-- A tree that is read is what is written if references are read as the subeffects that they name. -/
theorem treeWith_written {inline : Located → String → Checked EffectTree} {subeffects : Json}
    (inlined : ∀ reference name, (inline reference name).Yields fun tree =>
      ∃ body, subeffects.field? name = some body ∧ tree.WrittenBy subeffects body)
    (targets : Nat) (part : Located) :
    (part.treeWith inline targets).Yields (EffectTree.WrittenBy subeffects part.value) := by
  rw [treeWith]
  apply part.object_sure.bind
  intro _ _
  have keys : part.value.firstKey? EffectTree.keys = part.value.firstKey? EffectTree.keys := rfl
  apply part.byKey keys
  · intro reference found first
    apply reference.string_yields.bind
    intro name named
    apply (inlined reference name).imp
    intro tree given
    obtain ⟨body, known, written⟩ := given
    exact .inlined first (named ▸ part.field?_value found) known written
  intro keys
  apply part.byKeyOf keys
  · intro list found first
    apply list.all_written (fun child member => treeWith_written inlined targets child)
    intro _ _ array written
    exact .sequence first (array ▸ part.field?_value found) written
  intro _ keys
  apply part.byKey keys
  · intro question found first
    apply question.condition_written.attempt
    intro condition asked
    refine .attempt ?_ fun yes (chosen : ∃ node, part.value.field? "then" = some node ∧
      yes.WrittenBy subeffects node) => ?_
    · split
      · next node there =>
        apply (treeWith_written inlined targets node).imp
        intro _ written
        exact ⟨node.value, part.field?_value there, written⟩
      · exact part.yields_fail _
    refine .attempt ?_ fun no (other : Option.Rel (EffectTree.WrittenBy subeffects)
      (part.value.field? "else") no) => ?_
    · split
      · next node there =>
        rw [part.field?_value there]
        exact (treeWith_written inlined targets node).bind fun _ written => yields_pure.mpr (.some written)
      · next absent =>
        rw [yields_pure, part.field?_value_none absent]
        exact .none
    obtain ⟨node, chosen, written⟩ := chosen
    simp only [yields_require_bind, yields_pure]
    exact .branch first (part.field?_value found) asked chosen written other
  intro keys
  refine part.byKey keys ?_ fun _ => part.yields_fail _
  intro _ _ first
  apply (part.act_yields targets).imp
  intro tree given
  obtain ⟨instruction, selector, rfl, action⟩ := given
  exact .act first action
termination_by sizeOf part.value
decreasing_by
  · have := field?_size ‹_›
    have := items_size ‹_›
    omega
  · exact field?_size ‹_›
  · exact field?_size ‹_›

/-- A reference that is read stands for the subeffect that it names. -/
theorem inlineRef_written (subeffects : Located) (targets : Nat) (free : List String)
    (reference : Located) (name : String) :
    (inlineRef subeffects targets free reference name).Yields fun tree =>
      ∃ body, subeffects.value.field? name = some body ∧ tree.WrittenBy subeffects.value body := by
  rw [inlineRef]
  split
  · exact reference.yields_fail _
  · next body found =>
    split
    · have written := treeWith_written
        (inlineRef_written subeffects targets (without free name)) targets body
      exact written.imp fun _ written => ⟨body.value, subeffects.field?_value found, written⟩
    · exact reference.yields_fail _
termination_by free.length
decreasing_by exact length_without_lt ‹_›

/-- The tree of an effect is what is written. -/
theorem tree_written (subeffects : Located) (targets : Nat) :
    (part.tree subeffects targets).Yields (EffectTree.WrittenBy subeffects.value part.value) :=
  treeWith_written (inlineRef_written subeffects targets _) targets part

/-! Effects -/

/-- A description of targets that is read asks for the number that is written. -/
theorem targetSpec_written : part.targetSpec.Yields (TargetSpec.WrittenBy part.value) := by
  apply part.object_sure.bind
  intro _ _
  apply (part.positive_yields "count").attempt
  intro count written
  apply part.filter_sure.attempt
  intro filter _
  simp only [yields_require_bind, yields_pure]
  exact written

/-- Targets are read one by one, and a trigger has none. -/
theorem effectTargets_written (kind : Option EffectKind) : (part.effectTargets kind).Yields fun listed =>
    part.targetsAllowed kind = true ∧ ∃ targets, listed = targets.map some ∧
      Json.Lists TargetSpec.WrittenBy (part.value.field? "targets") targets := by
  rw [effectTargets]
  split
  · next absent =>
    rw [yields_pure, part.field?_value_none absent]
    exact ⟨by simp [targetsAllowed, absent], [], rfl, rfl⟩
  · next list found =>
    -- Targets of a trigger are reported, whatever they are.
    apply Yields.ite
    · intro _
      exact (list.yields_note _).bind fun _ (never : False) => never.elim
    intro other
    apply list.array_yields.bind
    intro _ given
    obtain ⟨values, array⟩ := given
    apply (list.each_written array fun item _ => item.targetSpec_written).imp
    intro listed given
    obtain ⟨targets, rfl, matched⟩ := given
    rw [part.field?_value found]
    exact ⟨by simp [targetsAllowed, other], targets, rfl, values, array, matched⟩

/-- Two optional things that belong together are both there or both missing. -/
theorem isSome_of_rel {α : Type} {pairs : Json → α → Prop} {value : Option Json} {given : Option α}
    (rel : Option.Rel pairs value given) : given.isSome = value.isSome := by
  cases rel <;> rfl

/-- An effect that is read is what is written. -/
theorem effect_written (subeffects : Located) (card : CardKind) :
    (effect subeffects card part).Yields (CardEffect.WrittenBy subeffects.value part.value) := by
  have cost : (part.optional "cost" Located.cost).Yields
      (Option.Rel (fun _ _ => True) (part.value.field? "cost")) := part.optional_yields cost_sure
  have root (available : Nat) :
      (part.required "effect" >>= fun field => field.tree subeffects available).Yields fun tree =>
        ∃ node, part.value.field? "effect" = some node ∧ tree.WrittenBy subeffects.value node := by
    apply (part.required_yields "effect").bind
    intro field found
    apply (field.tree_written subeffects available).imp
    intro tree written
    exact ⟨field.value, part.field?_value found, written⟩
  apply part.object_sure.bind
  intro _ _
  apply (part.effectKind_yields card).attempt
  intro kind named
  apply (part.effectSpeed_sure card kind).attempt
  intro speed _
  apply (part.choice_sure "limit" _ _).attempt
  intro limit _
  apply cost.attempt
  intro cost priced
  apply (part.optional_yields condition_written).attempt
  intro condition asked
  apply (part.effectTrigger_yields _).attempt
  intro trigger following
  apply (part.effectTargets_written _).bind
  intro listed given
  obtain ⟨allowed, targets, rfl, aimed⟩ := given
  apply (part.triggerCost_sure _ _).bind
  intro _ _
  apply (root _).attempt
  intro tree written
  rw [allowed, if_pos rfl, complete?_map_some]
  simp only [yields_require_bind, yields_pure]
  exact ⟨named, isSome_of_rel priced, asked, following, aimed, written⟩

/-! Cards -/

/-- An ability that is read has the condition that is written. -/
theorem ability_written : part.ability.Yields (Ability.WrittenBy part.value) := by
  have affects : (part.required "affects" >>= Located.filter).Sure := by simp
  apply part.object_sure.bind
  intro _ _
  apply affects.attempt
  intro affects _
  apply (part.flag_sure "negate").bind
  intro negates _
  have altered : (if negates = true then pure .negate else part.alteration).Sure := by simp
  apply altered.attempt
  intro alteration _
  apply (part.optional_yields condition_written).attempt
  intro condition asked
  simp only [yields_require_bind, yields_pure]
  exact ⟨asked⟩

/-- A list that is read without an issue has one entry for each item. -/
theorem entries_written {α : Type} {pairs : Json → α → Prop} {read : Located → Checked α}
    (each : ∀ item, (read item).Yields (pairs item.value)) (name : String) :
    (part.entries name read).Yields (Json.Lists pairs (part.value.field? name)) := by
  rw [entries]
  split
  · next absent =>
    rw [yields_pure, part.field?_value_none absent]
    rfl
  · next list found =>
    rw [part.field?_value found]
    apply list.array_yields.bind
    intro _ given
    obtain ⟨values, array⟩ := given
    apply (list.each_written array fun item _ => each item).bind
    intro listed given
    obtain ⟨entries, rfl, matched⟩ := given
    rw [yields_pure, List.filterMap_map, Function.id_comp, List.filterMap_some]
    exact ⟨values, array, matched⟩

/-- A condition for a special summon that is read is the one that is written. -/
theorem specialSummon_written (kind : CardKind) : (part.specialSummon kind).Yields
    (Option.Rel Condition.WrittenBy (part.value.field? "special_summon")) := by
  rw [specialSummon]
  split
  · next absent =>
    rw [yields_pure, part.field?_value_none absent]
    exact .none
  · next field found =>
    rw [part.field?_value found]
    -- A condition of another card than a monster is reported, and the one of a monster is attempted.
    apply Yields.ite
    · intro _ silent
      obtain ⟨condition, given, written⟩ := field.condition_written silent
      exact ⟨field.condition.value?, rfl, given ▸ .some written⟩
    · intro _
      exact (field.yields_note _).bind fun _ (never : False) => never.elim

/-- A spell or trap without an activation gets an empty one after its effects. -/
theorem withActivation_eq (kind : CardKind) (effects : List CardEffect) :
    withActivation kind effects = effects ++
      if kind.isMonster = false ∧ ∀ effect ∈ effects, effect.kind ≠ .activate then
        [.plain .activate (kind.speedOf .activate) .empty]
      else [] := by
  rw [withActivation]
  by_cases missing : kind.isMonster = false ∧ ∀ effect ∈ effects, effect.kind ≠ .activate
  · rw [if_pos missing, if_pos (by simpa using missing)]
  · rw [if_neg missing, if_neg (by simpa using missing), List.append_nil]

/-- A card that is read is what is written. -/
theorem card_written : part.card.Yields (CardTemplate.WrittenBy part.value) := by
  have id : (part.required "id" >>= word).Sure := by simp
  have name : (part.required "name" >>= string).Sure := by simp
  apply part.object_sure.bind
  intro _ _
  apply part.subeffects_yields.bind
  intro subeffects same
  apply id.attempt
  intro id _
  apply name.attempt
  intro name _
  apply part.kind_sure.attempt
  intro kind _
  simp only [yields_require_bind]
  apply (part.entries_written (effect_written · subeffects kind) "effects").bind
  intro effects printed
  apply (part.entries_written ability_written "continuous").bind
  intro continuous listed
  apply (part.specialSummon_written kind).bind
  intro condition asked
  rw [yields_pure]
  exact ⟨⟨effects, same ▸ printed, withActivation_eq kind effects⟩, listed, asked⟩

end Located

namespace CardTemplate

/--
No reading of a card is silent. A card that is not taken has an issue, and one that is taken has everything
that is written: an effect for each item of the list of effects and nothing after them but the activation of a
spell or trap without one, an ability for each item, and a description of targets, a child or a condition for
each item of every list of targets, every sequence and every list of conditions that counts.
-/
theorem read_exact (index : Nat) (value : Json) :
    match read index value with
    | .ok template => template.WrittenBy value
    | .error rejected => rejected.issues ≠ [] := by
  have written := (Located.root value).card_written
  rw [read]
  cases silent : (Located.root value).card.issues with
  | nil =>
    obtain ⟨template, taken, holds⟩ := written silent
    simp only [taken]
    exact holds
  | cons issue rest => cases (Located.root value).card.value? <;> exact List.cons_ne_nil issue rest

end CardTemplate

/-- This describes a spell with a condition and a tree that say two things at once. -/
def Json.echo : Json :=
  .object [
    ("effects", .array [.object [
      ("condition", .object [("all", .array []), ("any", .array [.string "always"])]),
      ("effect", .object [("ref", .string "hit"),
        ("sequence", .array [.object [("action", .string "draw")]])]),
      ("type", .string "activate")]]),
    ("id", .number (.integer 1)), ("kind", .string "spell"), ("name", .string "Echo"),
    ("subeffects", .object [("hit", .object [("action", .string "damage"),
      ("amount", .number (.integer 100)), ("target", .string "opponent")])])]

/-- These are the parts of a condition that asks for all or any of them. -/
def Condition.parts : Condition → List Condition
  | .all conditions | .any conditions => conditions
  | _ => []

/-- Of an echo the reference and `all` count; the item of the sequence and that of `any` are left out. -/
theorem CardTemplate.echo_drops : ∃ template, CardTemplate.read 0 .echo = .ok template ∧
    Path.follow? [.key "effects", .index 0, .key "effect", .key "sequence"] .echo =
      some (.array [.object [("action", .string "draw")]]) ∧
    Path.follow? [.key "effects", .index 0, .key "condition", .key "any"] .echo =
      some (.array [.string "always"]) ∧
    (template.effects.map fun effect =>
      (effect.root.instructions, effect.condition.map fun condition => condition.parts.length)) =
        [([.damage 100], some 0)] := by
  have taken : (CardTemplate.read 0 .echo).toOption.any (fun template =>
      decide ((template.effects.map fun effect =>
        (effect.root.instructions, effect.condition.map fun condition => condition.parts.length)) =
          [([.damage 100], some 0)])) = true := by
    decide +kernel
  obtain ⟨template, read, left⟩ := any_toOption_iff.mp taken
  exact ⟨template, read, rfl, rfl, of_decide_eq_true left⟩

end CardDuel
