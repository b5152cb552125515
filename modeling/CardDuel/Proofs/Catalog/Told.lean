/-
This file shows that no check of a card fails in silence: whatever has no value has been reported. What holds
of the value of a check without an issue is told along with it, check by check.
-/

import CardDuel.Proofs.Catalog.Checked
import CardDuel.Catalog.Card
import Mathlib.Data.List.Forall2

namespace CardDuel

namespace Checked

variable {α β : Type} {good : α → Prop} {first : β → Prop}

/-- This tells that a check reports an issue or has a good value. -/
def Yields (good : α → Prop) (check : Checked α) : Prop :=
  check.issues = [] → ∃ value, check.value? = some value ∧ good value

/-- This tells that a check reports an issue or has a value. -/
def Sure (check : Checked α) : Prop := check.Yields fun _ => True

/-- A sequence reports what its first check does, and then what the rest does if there is a value. -/
theorem issues_bind (check : Checked β) (next : β → Checked α) :
    (check >>= next).issues = check.issues ++ (check.value?.elim [] fun value => (next value).issues) := by
  show (check.andThen next).issues = _
  rw [andThen]
  cases check.value? <;> simp

@[simp] theorem yields_pure {value : α} : (pure value : Checked α).Yields good ↔ good value := by
  simp [Yields, pure]

@[simp] theorem yields_require_bind {value : β} {next : β → Checked α} :
    (require (some value) >>= next).Yields good ↔ (next value).Yields good := by
  rw [Yields, value?_bind, issues_bind]
  rfl

namespace Yields

/-- A check that yields a good value yields one that is good in a weaker sense. -/
theorem imp {other : α → Prop} {check : Checked α} (yields : check.Yields good)
    (weaker : ∀ value, good value → other value) : check.Yields other := fun silent =>
  (yields silent).imp fun value given => ⟨given.1, weaker value given.2⟩

theorem sure {check : Checked α} (yields : check.Yields good) : check.Sure :=
  yields.imp fun _ _ => trivial

/-- A sequence is silent only if its first check is, and then it goes on with a value. -/
theorem bind {check : Checked β} {next : β → Checked α} (yields : check.Yields first)
    (rest : ∀ value, first value → (next value).Yields good) : (check >>= next).Yields good := by
  intro silent
  rw [issues_bind, List.append_eq_nil_iff] at silent
  obtain ⟨value, given, holds⟩ := yields silent.1
  rw [given, Option.elim_some] at silent
  rw [value?_bind, given, Option.bind_some]
  exact rest value holds silent.2

/-- What was attempted is there in a silent sequence. -/
theorem attempt {check : Checked β} {next : Option β → Checked α} (yields : check.Yields first)
    (rest : ∀ value, first value → (next (some value)).Yields good) :
    (check.attempt >>= next).Yields good := by
  have attempted : check.attempt.Yields fun result => ∃ value, result = some value ∧ first value :=
    fun silent => ⟨check.value?, rfl, yields silent⟩
  apply attempted.bind
  intro result given
  obtain ⟨value, rfl, holds⟩ := given
  exact rest value holds

/-- A check that depends on a condition yields a good value if it does in either case. -/
theorem ite {condition : Prop} [Decidable condition] {yes no : Checked α}
    (holds : condition → yes.Yields good) (fails : ¬condition → no.Yields good) :
    (if condition then yes else no).Yields good := by
  split
  · next given => exact holds given
  · next given => exact fails given

/-- Checks on several items that report nothing have a value for each of them, in order. -/
theorem each {check : β → Checked α} {items : List β} {pairs : β → α → Prop}
    (each : ∀ item ∈ items, (check item).Yields (pairs item)) :
    (Checked.each check items).Yields fun values =>
      ∃ results : List α, values = results.map some ∧ List.Forall₂ pairs items results := by
  intro silent
  refine ⟨_, rfl, ?_⟩
  have quiet : ∀ item ∈ items, (check item).issues = [] := fun item member =>
    List.flatMap_eq_nil_iff.mp silent _ (List.mem_map_of_mem member)
  clear silent
  induction items with
  | nil => exact ⟨[], rfl, .nil⟩
  | cons item rest ih =>
    obtain ⟨value, given, holds⟩ := each item List.mem_cons_self (quiet item List.mem_cons_self)
    obtain ⟨results, same, pairs⟩ := ih (fun other member => each other (List.mem_cons_of_mem _ member))
      fun other member => quiet other (List.mem_cons_of_mem _ member)
    refine ⟨value :: results, ?_, .cons holds pairs⟩
    rw [List.map_cons, List.map_cons, List.map_cons, given, same]

end Yields

/-! Checks that have a value when they are silent, whatever the value is -/

@[simp] theorem sure_pure (value : α) : (pure value : Checked α).Sure := yields_pure.mpr trivial

@[simp] theorem sure_require_some (value : α) : (require (some value)).Sure := yields_pure.mpr trivial

/-- A sequence is sure if its first check is, and if the rest is sure after each silent start. -/
@[simp] theorem sure_bind {check : Checked β} {next : β → Checked α} :
    (check >>= next).Sure ↔
      check.Sure ∧ (check.issues = [] → ∀ value ∈ check.value?, (next value).Sure) := by
  simp only [Sure, Yields, issues_bind, value?_bind, List.append_eq_nil_iff, and_true]
  cases check.value? with
  | none => simp
  | some value => simp

/-- After a sure check that was attempted the rest needs to be sure only where there is a value. -/
@[simp high] theorem sure_attempt_bind {check : Checked β} {next : Option β → Checked α}
    (sure : check.Sure) : (check.attempt >>= next).Sure ↔
      (check.issues = [] → ∀ value ∈ check.value?, (next (some value)).Sure) := by
  have attempted : check.attempt.Sure := by
    intro _
    exact ⟨_, rfl, trivial⟩
  rw [sure_bind, and_iff_right attempted]
  constructor
  · intro rest silent value given
    have next := rest silent check.value? rfl
    rwa [given] at next
  · intro rest silent result given
    obtain ⟨value, there, _⟩ := sure silent
    obtain rfl := Option.some.inj given
    rw [there]
    exact rest silent value there

@[simp] theorem sure_ite {condition : Prop} [Decidable condition] {yes no : Checked α} :
    (if condition then yes else no).Sure ↔ (condition → yes.Sure) ∧ (¬condition → no.Sure) := by
  by_cases holds : condition <;> simp [holds]

/-- A sure check whose values are all good yields a good one. -/
theorem Sure.yields {check : Checked α} (sure : check.Sure) (only : check.Only good) :
    check.Yields good := by
  intro silent
  obtain ⟨value, given, _⟩ := sure silent
  exact ⟨value, given, only.of_value? given⟩

/-- A list of values that are all there is complete. -/
theorem complete?_map_some (values : List α) : complete? (values.map some) = some values :=
  complete?_eq_some.mpr rfl

end Checked

namespace Located

open Checked

variable {α : Type} {good : α → Prop} (part : Located)

/-! Fields -/

/-- A check that reports an issue may promise anything. -/
theorem yields_fail (fault : Fault) : (part.fail fault : Checked α).Yields good :=
  fun silent => absurd silent (List.cons_ne_nil _ _)

theorem yields_note {good : Unit → Prop} (fault : Fault) : (part.note fault).Yields good :=
  fun silent => absurd silent (List.cons_ne_nil _ _)

@[simp] theorem sure_fail (fault : Fault) : (part.fail fault : Checked α).Sure := part.yields_fail fault

@[simp] theorem sure_note (fault : Fault) : (part.note fault).Sure := part.yields_note fault

/-- A value that is there is what is given. -/
theorem orFail_yields (fault : Fault) (value : Option α) :
    (part.orFail fault value).Yields fun given => value = some given := by
  cases value with
  | none => exact part.yields_fail fault
  | some value => exact yields_pure.mpr rfl

@[simp] theorem sure_orFail (fault : Fault) (value : Option α) : (part.orFail fault value).Sure :=
  (part.orFail_yields fault value).sure

/-- A part under a key holds what the value has there. -/
theorem field?_value {field : Located} {name : String} (found : part.field? name = some field) :
    part.value.field? name = some field.value := by
  obtain ⟨value, inside, rfl⟩ := Option.map_eq_some_iff.mp found
  exact inside

theorem field?_value_none {name : String} (absent : part.field? name = none) :
    part.value.field? name = none :=
  Option.map_eq_none_iff.mp absent

/-- The items of an array are its values, in order. -/
theorem items_value {values : List Json} (array : part.value = .array values) :
    part.items.map Located.value = values := by
  simp only [items, items?, array, Json.items?, Option.map_some, Option.getD_some]
  exact List.ext_getElem (by simp) fun index _ _ => by simp

@[simp] theorem object_sure : part.object.Sure := by simp [object]

@[simp] theorem string_sure : part.string.Sure := by simp [string]

@[simp] theorem natural_sure : part.natural.Sure := by simp [natural]

@[simp] theorem word_sure : part.word.Sure := by simp [word]

@[simp] theorem signed_sure : part.signed.Sure := by simp [signed]

@[simp] theorem boolean_sure : part.boolean.Sure := by simp [boolean]

@[simp] theorem required_sure (name : String) : (part.required name).Sure := by simp [required]

@[simp] theorem optional_sure {name : String} {read : Located → Checked α}
    (each : ∀ field, (read field).Sure) : (part.optional name read).Sure := by
  rw [optional]
  split <;> simp [each]

@[simp] theorem flag_sure (name : String) : (part.flag name).Sure := by simp [flag]

@[simp] theorem choice_sure (name : String) (default : α) (ofName? : String → Option α) :
    (part.choice name default ofName?).Sure := by
  rw [choice]
  split <;> simp

@[simp] theorem positive_sure (name : String) : (part.positive name).Sure := by
  rw [positive]
  split <;> simp

@[simp] theorem stat_sure : part.stat.Sure := by simp [stat]

/-- A text that is read is the one that is written. -/
theorem string_yields : part.string.Yields fun text => part.value = .string text := by
  apply part.string_sure.yields
  intro text given
  rw [string, value?_orFail] at given
  cases value : part.value <;> simp_all [Json.string?]

theorem natural_yields : part.natural.Yields fun number => part.value.uint64? = some number :=
  part.orFail_yields _ _

/-- A natural number of 32 bits is the number that is written. -/
theorem word_yields : part.word.Yields fun number => part.value.nat? = some number.toNat := by
  apply part.natural_yields.bind
  intro wide written
  apply (part.orFail_yields _ _).imp
  intro number given
  split at given
  · next fits =>
    obtain rfl := Option.some.inj given
    have same : wide.toUInt32.toNat = wide.toNat := by
      rw [UInt64.toNat_toUInt32]
      exact Nat.mod_eq_of_lt fits
    rw [Json.nat?, written, Option.map_some, same]
  · cases given

/-- What is read as a list is an array. -/
theorem array_yields : part.array.Yields fun _ => ∃ values, part.value = .array values := by
  rw [array]
  split
  · next items given =>
    rw [yields_pure]
    cases value : part.value <;> simp_all [items?, Json.items?]
  · exact part.yields_note _

/-- A field that must be there is read where it is there. -/
theorem required_yields (name : String) :
    (part.required name).Yields fun field => part.field? name = some field :=
  part.orFail_yields _ _

/-- What is read of an optional field is there exactly when the field is. -/
theorem optional_yields {pairs : Json → α → Prop} {name : String} {read : Located → Checked α}
    (each : ∀ field, (read field).Yields (pairs field.value)) :
    (part.optional name read).Yields (Option.Rel pairs (part.value.field? name)) := by
  rw [optional]
  split
  · next absent =>
    rw [yields_pure, part.field?_value_none absent]
    exact .none
  · next field found =>
    rw [part.field?_value found]
    apply (each field).bind
    intro value holds
    rw [yields_pure]
    exact .some holds

/-- A positive number is the one that is written, or one. -/
theorem positive_yields (name : String) : (part.positive name).Yields fun number =>
    ((part.value.field? name).bind Json.nat?).getD 1 = number.toNat := by
  rw [positive]
  split
  · next absent =>
    rw [yields_pure, part.field?_value_none absent]
    rfl
  · next field found =>
    apply field.word_yields.bind
    intro number written
    split
    · exact field.yields_fail _
    · rw [yields_pure, part.field?_value found, Option.bind_some, written, Option.getD_some]

/-! Parts -/

@[simp] theorem filter_sure : part.filter.Sure := by simp [filter]

/-- A condition with a bound is what is built of a side and a number. -/
theorem comparison_yields {good : Condition → Prop} (bound : Located)
    {build : Side → UInt32 → Condition} (built : ∀ side amount, good (build side amount)) :
    (part.comparison bound build).Yields good := by
  apply Sure.yields
  · simp [comparison, ownSide]
  · simp [comparison, built]

/-- A condition that counts is what is built of a filter and of bounds. -/
theorem counting_yields {good : Condition → Prop} (filterPart : Located)
    (built : ∀ filter least most, good (.count filter least most)) :
    (part.counting filterPart).Yields good := by
  apply Sure.yields
  · simp [counting]
  · simp [counting, built]

@[simp] theorem cost_sure : part.cost.Sure := by simp [cost]

@[simp] theorem trigger_sure : part.trigger.Sure := by simp [trigger]

@[simp] theorem alteration_sure : part.alteration.Sure := by
  rw [alteration, sure_attempt_bind part.stat_sure]
  intro _ stat _
  split <;> simp

@[simp] theorem monster_sure : part.monster.Sure := by
  cases found : part.field? "level" with
  | none => simp [monster, found]
  | some field => simp [monster, found]

@[simp] theorem kind_sure : part.kind.Sure := by simp [kind]

/-! Instructions -/

theorem selector_sure (targets : Nat) : (part.selector targets).Sure := by
  rw [selector]
  split
  · simp only [sure_bind, sure_orFail, true_and]
    intro _ selector _
    split <;> simp
  · split <;> simp

@[simp] theorem modifyStat_sure : part.modifyStat.Sure := by simp [modifyStat, duration]

@[simp] theorem setStat_sure : part.setStat.Sure := by simp [setStat, duration]

@[simp] theorem search_sure : part.search.Sure := by simp [search]

theorem instruction_sure (field : Located) (name : String) : (part.instruction field name).Sure := by
  simp [Located.instruction]

/-- The instruction that is read is the one with the written name. -/
theorem instruction_yields (field : Located) (name : String) :
    (part.instruction field name).Yields (·.name = name) := by
  apply (part.instruction_sure field name).yields
  simp [Located.instruction, modifyStat, setStat, search, Instruction.name, eq_comm]
  tauto

/-- What is read as an action is one instruction with the written name. -/
theorem act_yields (targets : Nat) : (part.act targets).Yields fun tree =>
    ∃ instruction selector, tree = .act instruction selector ∧
      part.value.field? "action" = some (.string instruction.name) := by
  apply (part.required_yields "action").bind
  intro field found
  apply field.string_yields.bind
  intro name written
  apply (part.instruction_yields field name).bind
  intro instruction named
  have action : part.value.field? "action" = some (.string instruction.name) := by
    rw [part.field?_value found, written, named]
  split
  · rw [yields_pure]
    exact ⟨instruction, _, rfl, action⟩
  · next target _ =>
    apply (target.selector_sure targets).bind
    intro selector _
    split
    · rw [yields_pure]
      exact ⟨instruction, selector, rfl, action⟩
    · exact target.yields_fail _

/-! Effects -/

/-- The kind of an effect is the one with the written name. -/
theorem effectKind_yields (card : CardKind) : (part.effectKind card).Yields fun kind =>
    ∃ name, part.value.field? "type" = some (.string name) ∧ EffectKind.ofName? name = some kind := by
  apply (part.required_yields "type").bind
  intro field found
  apply field.string_yields.bind
  intro name written
  apply (field.orFail_yields _ _).bind
  intro kind named
  split
  · exact field.yields_fail _
  · rw [yields_pure, part.field?_value found, written]
    exact ⟨name, rfl, named⟩

theorem speed_sure (needed : Speed) : (part.speed needed).Sure := by simp [speed]

theorem effectSpeed_sure (card : CardKind) (kind : EffectKind) :
    (part.effectSpeed card (some kind)).Sure := by
  rw [effectSpeed, Sure, yields_require_bind]
  split
  · exact sure_pure _
  · exact speed_sure _ _

/-- An effect has a trigger exactly if one is written. -/
theorem effectTrigger_yields (kind : Option EffectKind) : (part.effectTrigger kind).Yields fun trigger =>
    trigger.isSome = (part.value.field? "trigger").isSome := by
  rw [effectTrigger]
  split
  · next field found =>
    rw [part.field?_value found]
    apply field.trigger_sure.bind
    intro trigger _
    rw [yields_pure]
    rfl
  · next absent =>
    rw [part.field?_value_none absent]
    split
    · exact part.yields_fail _
    · exact yields_pure.mpr rfl

theorem triggerCost_sure (kind : Option EffectKind) (cost : Option Cost) :
    (part.triggerCost kind cost).Sure := by
  rw [triggerCost.eq_def]
  split
  · simp
  · exact sure_pure _

/-- The subeffects that are read are those of the card, or there are none. -/
theorem subeffects_yields : part.subeffects.Yields fun subeffects =>
    subeffects.value = (part.value.field? "subeffects").getD .null := by
  rw [subeffects]
  split
  · next absent =>
    rw [yields_pure, part.field?_value_none absent]
    rfl
  · next field found =>
    rw [part.field?_value found]
    split
    · have noted : (field.note (.expected "object")).Sure := field.sure_note _
      apply noted.bind
      intro _ _
      rw [yields_pure]
      rfl
    · exact yields_pure.mpr rfl

end Located

end CardDuel
