/-
This file tells what the checks of the parts of a card blame. Every issue is at the part that is read or below it,
at a part that is there, and none of them is about a reference; those come only from the trees of effects.
-/

import CardDuel.Proofs.Catalog.Told

namespace CardDuel

/-- Steps that are taken one after another lead where the second ones lead from the end of the first. -/
theorem Path.follow?_append (first second : Path) (value : Json) :
    (first ++ second).follow? value = (first.follow? value).bind second.follow? := by
  induction first generalizing value with
  | nil => rfl
  | cons step rest ih =>
    rw [List.cons_append, follow?, follow?]
    cases step.follow? value with
    | none => rfl
    | some next => exact ih next

@[simp]
def Fault.isOfReference : Fault → Bool
  | cyclicRef _ | unknownRef _ => true
  | _ => false

namespace Checked

variable {α β : Type} {told : Issue → Prop}

@[simp] theorem issues_pure (value : α) : (pure value : Checked α).issues = [] := rfl

@[simp] theorem issues_require (value : Option α) : (require value).issues = [] := rfl

@[simp] theorem issues_attempt (check : Checked α) : check.attempt.issues = check.issues := rfl

/-- A value that may be missing changes nothing where nothing is reported in either case. -/
@[simp] theorem elim_nil (value : Option β) : (value.elim [] fun _ => []) = ([] : List Issue) := by
  cases value <;> rfl

@[simp] theorem issues_require_bind {value : Option β} {next : β → Checked α} :
    (require value >>= next).issues = value.elim [] fun value => (next value).issues := by
  rw [issues_bind, issues_require, List.nil_append]
  rfl

@[simp] theorem issues_attempt_bind {check : Checked β} {next : Option β → Checked α} :
    (check.attempt >>= next).issues = check.issues ++ (next check.value?).issues := by
  rw [issues_bind]
  rfl

/-- This tells that every issue of a check is as told. -/
def Reports (told : Issue → Prop) (check : Checked α) : Prop := ∀ issue ∈ check.issues, told issue

theorem Reports.imp {other : Issue → Prop} {check : Checked α} (reports : check.Reports told)
    (weaker : ∀ issue, told issue → other issue) : check.Reports other :=
  fun issue member => weaker issue (reports issue member)

/-- A sequence reports what its first check does, and then what the rest does if there is a value. -/
@[simp] theorem reports_bind {check : Checked β} {next : β → Checked α} :
    (check >>= next).Reports told ↔
      check.Reports told ∧ ∀ value ∈ check.value?, (next value).Reports told := by
  rw [Reports, issues_bind, List.forall_mem_append]
  cases check.value? <;> simp [Reports]

@[simp] theorem reports_pure {value : α} : (pure value : Checked α).Reports told := by
  simp [Reports, pure]

@[simp] theorem reports_require {value : Option α} : (require value).Reports told := by
  simp [Reports, require]

@[simp] theorem reports_attempt {check : Checked α} :
    check.attempt.Reports told ↔ check.Reports told := Iff.rfl

@[simp] theorem reports_ite {condition : Prop} [Decidable condition] {yes no : Checked α} :
    (if condition then yes else no).Reports told ↔
      (condition → yes.Reports told) ∧ (¬condition → no.Reports told) := by
  by_cases holds : condition <;> simp [holds]

/-- Checks on several items report what each of them reports. -/
theorem reports_each {check : β → Checked α} {items : List β} :
    (Checked.each check items).Reports told ↔ ∀ item ∈ items, (check item).Reports told := by
  simp only [Reports, Checked.each, List.mem_flatMap, List.mem_map]
  constructor
  · intro reports item member issue told
    exact reports issue ⟨_, ⟨item, member, rfl⟩, told⟩
  · intro reports issue given
    obtain ⟨_, ⟨item, member, rfl⟩, told⟩ := given
    exact reports item member issue told

end Checked

namespace Located

open Checked

variable {α : Type}

/-- This tells that steps lead from a part to another one. -/
def Below (part below : Located) : Prop :=
  ∃ path : Path, below.path = part.path ++ path ∧ path.follow? part.value = some below.value

theorem Below.refl (part : Located) : part.Below part := ⟨[], (List.append_nil _).symm, rfl⟩

/-- What is below a part of a part is below the part. -/
theorem Below.trans {part middle below : Located} (first : part.Below middle) (second : middle.Below below) :
    part.Below below := by
  obtain ⟨path, same, taken⟩ := first
  obtain ⟨rest, sameRest, takenRest⟩ := second
  refine ⟨path ++ rest, ?_, ?_⟩
  · rw [sameRest, same, List.append_assoc]
  · rw [Path.follow?_append, taken, Option.bind_some, takenRest]

theorem Below.path_starts {part below : Located} (lower : part.Below below) : part.path <+: below.path := by
  obtain ⟨path, same, _⟩ := lower
  exact ⟨path, same.symm⟩

/-- A field is one step below the part that has it. -/
theorem below_field {part field : Located} {name : String} (found : part.field? name = some field) :
    part.Below field := by
  obtain ⟨value, stored, rfl⟩ := Option.map_eq_some_iff.mp found
  exact ⟨[.key name], rfl, by rw [Path.follow?, PathStep.follow?, stored]; rfl⟩

/-- An item is one step below the list that has it. -/
theorem below_item {part item : Located} (member : item ∈ part.items) : part.Below item := by
  unfold items items? at member
  cases array : part.value.items? with
  | none => simp [array] at member
  | some values =>
    rw [array] at member
    obtain ⟨position, inRange, rfl⟩ := List.mem_mapIdx.mp member
    exact ⟨[.index position], rfl, by simp [Path.follow?, PathStep.follow?, array, inRange]⟩

/-- This tells that an issue is at a part or at one below it, and that it is not about a reference. -/
structure Blames (part : Located) (issue : Issue) : Prop where
  inside : ∃ below, part.Below below ∧ issue.path = below.path
  plain : issue.fault.isOfReference = false

variable (part : Located)

/-- An issue at the part itself is blamed on it. -/
theorem blames_self {fault : Fault} (plain : fault.isOfReference = false) :
    part.Blames ⟨part.path, fault⟩ :=
  ⟨⟨part, .refl part, rfl⟩, plain⟩

variable {part}

/-- What is blamed on a part is blamed on all that it is a part of. -/
theorem Blames.of_below {below : Located} {issue : Issue} (blames : below.Blames issue)
    (lower : part.Below below) : part.Blames issue := by
  obtain ⟨lowest, deeper, path⟩ := blames.inside
  exact ⟨⟨lowest, lower.trans deeper, path⟩, blames.plain⟩

/-- What is blamed on a field is blamed on the part that has it. -/
theorem Blames.of_field {field : Located} {name : String} {issue : Issue} (blames : field.Blames issue)
    (found : part.field? name = some field) : part.Blames issue :=
  blames.of_below (below_field found)

/-- What is blamed on an item is blamed on its list. -/
theorem Blames.of_item {item : Located} {issue : Issue} (blames : item.Blames issue)
    (member : item ∈ part.items) : part.Blames issue :=
  blames.of_below (below_item member)

end Located

namespace Checked.Reports

variable {α : Type} {check : Checked α} {part field item : Located}

/-- A reading of a field of a part blames the part. -/
theorem of_field {name : String} (reports : check.Reports field.Blames)
    (found : part.field? name = some field) : check.Reports part.Blames :=
  reports.imp fun _ blames => blames.of_field found

/-- A reading of an item of a list blames the list. -/
theorem of_item (reports : check.Reports item.Blames) (member : item ∈ part.items) :
    check.Reports part.Blames :=
  reports.imp fun _ blames => blames.of_item member

end Checked.Reports

namespace Located

open Checked

variable {α : Type} (part : Located)

/-! Fields -/

@[simp] theorem fail_blames {fault : Fault} :
    (part.fail fault : Checked α).Reports part.Blames ↔ fault.isOfReference = false := by
  constructor
  · intro reports
    exact (reports _ (List.mem_singleton_self _)).plain
  · intro plain issue member
    obtain rfl := List.mem_singleton.mp member
    exact part.blames_self plain

@[simp] theorem note_blames {fault : Fault} :
    (part.note fault).Reports part.Blames ↔ fault.isOfReference = false :=
  part.fail_blames (α := Unit)

@[simp] theorem orFail_blames {fault : Fault} {value : Option α} :
    (part.orFail fault value).Reports part.Blames ↔ (value = none → fault.isOfReference = false) := by
  cases value with
  | none => simp [orFail]
  | some value => simp [orFail]

@[simp] theorem object_blames : part.object.Reports part.Blames := by simp [object]

@[simp] theorem string_blames : part.string.Reports part.Blames := by simp [string]

@[simp] theorem natural_blames : part.natural.Reports part.Blames := by simp [natural]

@[simp] theorem word_blames : part.word.Reports part.Blames := by simp [word]

@[simp] theorem signed_blames : part.signed.Reports part.Blames := by simp [signed]

@[simp] theorem boolean_blames : part.boolean.Reports part.Blames := by simp [boolean]

@[simp] theorem array_blames : part.array.Reports part.Blames := by
  rw [array]
  split <;> simp

/-- What is read of a field that must be there blames the field, or its absence. -/
@[simp high] theorem required_blames (name : String) {read : Located → Checked α}
    (each : ∀ field, (read field).Reports field.Blames) :
    (part.required name >>= read).Reports part.Blames := by
  rw [reports_bind, value?_required]
  constructor
  · simp [required]
  · intro field found
    exact (each field).of_field found

/-- What is read by the name in a field may blame the part in any way. -/
theorem named_blames {key : String} {next : Located → String → Checked α}
    (each : ∀ field name, part.field? key = some field → (next field name).Reports part.Blames) :
    (part.required key >>= fun field => field.string >>= next field).Reports part.Blames := by
  rw [reports_bind, value?_required]
  constructor
  · simp [required]
  · intro field found
    rw [reports_bind]
    exact ⟨field.string_blames.of_field found, fun name _ => each field name found⟩

@[simp] theorem optional_blames (name : String) {read : Located → Checked α}
    (each : ∀ field, (read field).Reports field.Blames) :
    (part.optional name read).Reports part.Blames := by
  rw [optional]
  split
  · exact reports_pure
  · next field found =>
    rw [reports_bind]
    exact ⟨(each field).of_field found, fun _ _ => reports_pure⟩

@[simp] theorem flag_blames (name : String) : (part.flag name).Reports part.Blames := by simp [flag]

@[simp] theorem choice_blames (name : String) (default : α) (ofName? : String → Option α) :
    (part.choice name default ofName?).Reports part.Blames := by
  rw [choice]
  split
  · exact reports_pure
  · next field found =>
    apply Reports.of_field _ found
    simp

@[simp] theorem positive_blames (name : String) : (part.positive name).Reports part.Blames := by
  rw [positive]
  split
  · exact reports_pure
  · next field found =>
    apply Reports.of_field _ found
    simp

@[simp] theorem stat_blames : part.stat.Reports part.Blames := by simp [stat]

theorem amount_blames (name : String) : (part.required name >>= word).Reports part.Blames := by simp

/-! Parts -/

@[simp] theorem filter_blames : part.filter.Reports part.Blames := by simp [filter]

/-- A condition with a bound blames the part that holds the bound. -/
theorem comparison_blames {bound : Located} {name : String} (found : part.field? name = some bound)
    (build : Side → UInt32 → Condition) : (part.comparison bound build).Reports part.Blames := by
  have amount : bound.word.Reports part.Blames := bound.word_blames.of_field found
  simp [comparison, ownSide, amount]

/-- A condition that counts blames the part that holds its filter. -/
theorem counting_blames {filterPart : Located} {name : String}
    (found : part.field? name = some filterPart) : (part.counting filterPart).Reports part.Blames := by
  have filter : filterPart.filter.Reports part.Blames := filterPart.filter_blames.of_field found
  simp [counting, filter]

/-- What is read item by item of a list under a key blames the list or its items. -/
theorem items_blames {list : Located} {name : String} (found : part.field? name = some list)
    {read : Located → Checked α} {next : List (Option α) → Checked α}
    (each : ∀ item ∈ list.items, (read item).Reports item.Blames)
    (rest : ∀ results, (next results).Reports part.Blames) :
    (list.array >>= fun _ => Checked.each (fun item => read item.1) list.items.attach >>= next).Reports
      part.Blames := by
  have items : (Checked.each (fun item => read item.1) list.items.attach).Reports list.Blames := by
    rw [reports_each]
    intro item _
    exact (each item.1 item.2).of_item item.2
  simp [list.array_blames.of_field found, items.of_field found, rest]

/-- A condition blames itself or a part of it. -/
theorem condition_blames (part : Located) : part.condition.Reports part.Blames := by
  rw [condition, reports_ite]
  constructor
  · intro _
    exact reports_pure
  intro _
  rw [reports_bind, and_iff_right part.object_blames]
  intro _ _
  split
  · next bound found => exact part.comparison_blames found _
  split
  · next bound found => exact part.comparison_blames found _
  split
  · next bound found => exact part.comparison_blames found _
  split
  · next filterPart found => exact part.counting_blames found
  split
  · simp
  split
  · simp
  split
  · next list found =>
    apply part.items_blames found
    · intro item _
      exact condition_blames item
    · simp
  split
  · next list found =>
    apply part.items_blames found
    · intro item _
      exact condition_blames item
    · simp
  split
  · next inner found =>
    have reports : inner.condition.Reports part.Blames := (condition_blames inner).of_field found
    simp [reports]
  · simp
termination_by sizeOf part.value
decreasing_by
  · have := field?_size ‹_›
    have := items_size ‹_›
    omega
  · have := field?_size ‹_›
    have := items_size ‹_›
    omega
  · exact field?_size ‹_›

@[simp] theorem cost_blames : part.cost.Reports part.Blames := by
  rw [cost, reports_bind, and_iff_right part.object_blames]
  intro _ _
  apply part.named_blames
  intro field name found
  have unknown : (field.fail (.unknownResource name) : Checked Cost).Reports part.Blames :=
    Reports.of_field (by simp) found
  simp [unknown]

@[simp] theorem trigger_blames : part.trigger.Reports part.Blames := by simp [trigger]

@[simp] theorem targetSpec_blames : part.targetSpec.Reports part.Blames := by simp [targetSpec]

@[simp] theorem alteration_blames : part.alteration.Reports part.Blames := by
  rw [alteration, reports_bind, reports_attempt, and_iff_right part.stat_blames]
  intro stat _
  split
  · next amount found => simp [amount.signed_blames.of_field found]
  · next value _ found => simp [value.word_blames.of_field found]
  · simp

@[simp] theorem ability_blames : part.ability.Reports part.Blames := by
  simp [ability, condition_blames]

@[simp] theorem monster_blames : part.monster.Reports part.Blames := by
  cases found : part.field? "level" with
  | none => simp [monster, found]
  | some field =>
    have large : (field.fail (.expected "level between 0 and 255") : Checked UInt32).Reports part.Blames :=
      Reports.of_field (by simp) found
    simp [monster, found, large]

@[simp] theorem kind_blames : part.kind.Reports part.Blames := by
  apply part.named_blames
  intro field name found
  have unknown : (field.fail (.unknownKind name) : Checked CardKind).Reports part.Blames :=
    Reports.of_field (by simp) found
  simp [unknown]

/-! Instructions -/

@[simp] theorem selector_blames (targets : Nat) : (part.selector targets).Reports part.Blames := by
  rw [selector]
  split
  · rw [reports_bind]
    constructor
    · simp
    intro selector _
    split <;> simp
  · split
    · next filterPart found => simp [filterPart.filter_blames.of_field found]
    · simp

@[simp] theorem modifyStat_blames : part.modifyStat.Reports part.Blames := by simp [modifyStat, duration]

@[simp] theorem setStat_blames : part.setStat.Reports part.Blames := by simp [setStat, duration]

@[simp] theorem search_blames : part.search.Reports part.Blames := by simp [search]

/-- An instruction blames its node or the field with its name. -/
theorem instruction_blames {field : Located} {key : String} (found : part.field? key = some field)
    (name : String) : (part.instruction field name).Reports part.Blames := by
  have unknown : (field.fail (.unknownAction name) : Checked Instruction).Reports part.Blames :=
    Reports.of_field (by simp) found
  simp [Located.instruction, unknown]

/-- An action blames its node, whether its name, its data or its target is wrong. -/
theorem act_blames (targets : Nat) : (part.act targets).Reports part.Blames := by
  apply part.named_blames
  intro field name found
  rw [reports_bind, and_iff_right (part.instruction_blames found name)]
  intro instruction _
  split
  · exact reports_pure
  · next target aimed =>
    apply Reports.of_field _ aimed
    simp

/-! Effects -/

theorem effectKind_blames (card : CardKind) : (part.effectKind card).Reports part.Blames := by
  simp [effectKind]

@[simp] theorem speed_blames (needed : Speed) : (part.speed needed).Reports part.Blames := by simp [speed]

/-- A speed is blamed on its field, and nothing is reported where the kind is not known. -/
theorem effectSpeed_blames (card : CardKind) (kind : Option EffectKind) :
    (part.effectSpeed card kind).Reports part.Blames := by
  rw [effectSpeed, reports_bind, and_iff_right reports_require]
  intro kind _
  split
  · exact reports_pure
  · next field found => exact (field.speed_blames _).of_field found

/-- A trigger is blamed on its field, and a missing one on the effect. -/
theorem effectTrigger_blames (kind : Option EffectKind) :
    (part.effectTrigger kind).Reports part.Blames := by
  rw [effectTrigger]
  split
  · next field found => simp [field.trigger_blames.of_field found]
  · simp

/-- The targets of an effect are blamed on their list, also where a trigger has any. -/
theorem effectTargets_blames (kind : Option EffectKind) :
    (part.effectTargets kind).Reports part.Blames := by
  rw [effectTargets]
  split
  · exact reports_pure
  · next list found =>
    have items : (each targetSpec list.items).Reports list.Blames := by
      rw [reports_each]
      intro item member
      exact item.targetSpec_blames.of_item member
    apply Reports.of_field _ found
    simp [items]

/-- The cost that a trigger must not have is blamed on its field. -/
theorem triggerCost_blames (kind : Option EffectKind) (cost : Option Cost) :
    (part.triggerCost kind cost).Reports part.Blames := by
  rw [triggerCost.eq_def]
  split
  · next _ _ field _ found =>
    apply Reports.of_field _ found
    simp
  · exact reports_pure

end Located

end CardDuel
