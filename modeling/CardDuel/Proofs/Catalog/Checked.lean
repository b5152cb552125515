/-
This file tells what the values of checks are like, whatever the issues are.
-/

import CardDuel.Catalog.Field

namespace CardDuel

namespace Checked

variable {α β : Type}

/-- This tells that the value of a check is good if there is one. -/
def Only (good : α → Prop) (check : Checked α) : Prop := ∀ value ∈ check.value?, good value

variable {good : α → Prop}

theorem Only.of_value? {check : Checked α} (only : check.Only good) {value : α}
    (given : check.value? = some value) : good value := only value given

/-- A sequence has the value that the rest gives for the value of the first check. -/
theorem value?_bind (check : Checked β) (next : β → Checked α) :
    (check >>= next).value? = check.value?.bind fun value => (next value).value? := by
  show (check.andThen next).value? = _
  rw [andThen]
  cases check.value? <;> rfl

/-- Without a value of the first check there is no value of a sequence. -/
@[simp] theorem only_bind {check : Checked β} {next : β → Checked α} :
    (check >>= next).Only good ↔ ∀ value ∈ check.value?, (next value).Only good := by
  rw [Only, value?_bind]
  cases check.value? <;> simp [Only]

@[simp] theorem only_pure {value : α} : (pure value : Checked α).Only good ↔ good value := by
  simp [Only, pure]

@[simp] theorem only_ite {condition : Prop} [Decidable condition] {yes no : Checked α} :
    (if condition then yes else no).Only good ↔
      (condition → yes.Only good) ∧ (¬condition → no.Only good) := by
  by_cases holds : condition <;> simp [holds]

@[simp] theorem value?_pure (value : α) : (pure value : Checked α).value? = some value := rfl

@[simp] theorem value?_attempt (check : Checked α) : check.attempt.value? = some check.value? := rfl

@[simp] theorem value?_require (value : Option α) : (require value).value? = value := rfl

@[simp] theorem value?_each (check : β → Checked α) (items : List β) :
    (each check items).value? = some (items.map fun item => (check item).value?) := by
  simp [each]

/-- The values of checks on several items are good if each of them is. -/
theorem only_each {check : β → Checked α} {items : List β} (each : ∀ item, (check item).Only good) :
    (Checked.each check items).Only fun values => ∀ value, some value ∈ values → good value := by
  intro values given value member
  obtain rfl := Option.some.inj given
  obtain ⟨_, checked, read⟩ := List.mem_map.mp member
  obtain ⟨item, _, rfl⟩ := List.mem_map.mp checked
  exact each item value read

/-- A list is complete exactly when no value is missing. -/
theorem complete?_eq_some {values : List (Option α)} {list : List α} :
    complete? values = some list ↔ values = list.map some := by
  induction values generalizing list with
  | nil => cases list <;> simp [complete?]
  | cons value rest ih =>
    cases value with
    | none => cases list <;> simp [complete?]
    | some value =>
      cases list with
      | nil => simp [complete?, Option.bind_eq_some_iff]
      | cons head tail =>
        rw [List.map_cons, List.cons_eq_cons, Option.some_inj, ← ih]
        simp [complete?, Option.bind_eq_some_iff, and_left_comm]

end Checked

namespace Located

open Checked

variable {α : Type} {good : α → Prop} (part : Located)

@[simp] theorem only_fail (fault : Fault) : (part.fail fault : Checked α).Only good := by
  simp [Only, fail]

@[simp] theorem value?_orFail (fault : Fault) (value : Option α) :
    (part.orFail fault value).value? = value := by cases value <;> rfl

@[simp] theorem only_orFail (fault : Fault) (value : Option α) :
    (part.orFail fault value).Only good ↔ ∀ given ∈ value, good given := by
  rw [Only, value?_orFail]

@[simp] theorem value?_required (name : String) :
    (part.required name).value? = part.field? name := value?_orFail _ _ _

@[simp] theorem value?_array : part.array.value? = some () := by
  rw [array]
  split <;> rfl

/-- A choice is good if its default and all values with a name are. -/
theorem only_choice {name : String} {default : α} {ofName? : String → Option α}
    (usual : good default) (named : ∀ text, ∀ value ∈ ofName? text, good value) :
    (part.choice name default ofName?).Only good := by
  rw [choice]
  split
  · simpa using usual
  · simpa using fun text _ => named text

/-- What is read of an optional part is good if it is whenever the part is there. -/
theorem only_optional {name : String} {read : Located → Checked α}
    (each : ∀ field, (read field).Only good) :
    (part.optional name read).Only fun value => ∀ given ∈ value, good given := by
  rw [optional]
  split
  · simp
  · next field _ =>
    rw [only_bind]
    intro value given
    simpa using each field value given

end Located

end CardDuel
