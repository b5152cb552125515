/-
This file shows that what a part of a card is read as does not depend on where it is; its place only tells where
issues are.
-/

import CardDuel.Proofs.Catalog.Visit

namespace CardDuel

namespace Checked

variable {α β : Type}

/-- What was attempted is handed on, whatever came of it. -/
theorem value?_attempt_bind (check : Checked β) (next : Option β → Checked α) :
    (check.attempt >>= next).value? = (next check.value?).value? := by
  rw [value?_bind, value?_attempt, Option.bind_some]

/-- Sequences after an attempt agree if the attempts do and the rest goes on alike. -/
theorem attempt_alike {left right : Checked β} {next rest : Option β → Checked α}
    (first : left.value? = right.value?) (alike : ∀ value, (next value).value? = (rest value).value?) :
    (left.attempt >>= next).value? = (right.attempt >>= rest).value? := by
  rw [value?_attempt_bind, value?_attempt_bind, first]
  exact alike right.value?

end Checked

namespace Located

open Checked

variable {α : Type}

/-- This is a part at another place. -/
def moved (path : Path) (part : Located) : Located := ⟨path, part.value⟩

/-- This tells that a reader makes the same of a part at another place. -/
def Placeless (read : Located → Checked α) : Prop :=
  ∀ path part, (read (moved path part)).value? = (read part).value?

variable (path : Path) (part : Located)

@[simp] theorem value_moved : (part.moved path).value = part.value := rfl

/-- A part at another place has the same fields, at places below the new one. -/
theorem field?_moved (name : String) : (part.moved path).field? name =
    (part.field? name).map (moved (path ++ [.key name])) := by
  simp [field?, Function.comp_def, moved]

/-! Fields -/

@[simp] theorem object_moved : (part.moved path).object.value? = part.object.value? := by simp [object]

@[simp] theorem string_moved : (part.moved path).string.value? = part.string.value? := by simp [string]

@[simp] theorem natural_moved : (part.moved path).natural.value? = part.natural.value? := by simp [natural]

@[simp] theorem word_moved : (part.moved path).word.value? = part.word.value? := by
  simp [word, value?_bind]

@[simp] theorem signed_moved : (part.moved path).signed.value? = part.signed.value? := by simp [signed]

@[simp] theorem boolean_moved : (part.moved path).boolean.value? = part.boolean.value? := by simp [boolean]

/-- What is read of a field that must be there is read at another place if it is read there alike. -/
theorem required_moved {read rest : Located → Checked α} (name : String)
    (alike : ∀ path field, (read (moved path field)).value? = (rest field).value?) :
    ((part.moved path).required name >>= read).value? = (part.required name >>= rest).value? := by
  simp [value?_bind, field?_moved, Option.bind_map, alike]

/-- An optional field is read alike at another place. -/
theorem optional_moved {read : Located → Checked α} (placeless : Placeless read) (name : String) :
    ((part.moved path).optional name read).value? = (part.optional name read).value? := by
  simp only [optional, field?_moved]
  cases part.field? name with
  | none => rfl
  | some field => simp [value?_bind, placeless _ field]

@[simp] theorem flag_moved (name : String) : ((part.moved path).flag name).value? = (part.flag name).value? := by
  simp [flag, value?_bind, optional_moved path part fun path field => boolean_moved path field]

@[simp] theorem choice_moved (name : String) (default : α) (ofName? : String → Option α) :
    ((part.moved path).choice name default ofName?).value? = (part.choice name default ofName?).value? := by
  simp only [choice, field?_moved]
  cases part.field? name with
  | none => rfl
  | some field => simp [value?_bind]

@[simp] theorem positive_moved (name : String) :
    ((part.moved path).positive name).value? = (part.positive name).value? := by
  simp only [positive, field?_moved]
  cases part.field? name with
  | none => rfl
  | some field => simp [value?_bind, apply_ite Checked.value?, fail]

@[simp] theorem stat_moved : (part.moved path).stat.value? = part.stat.value? := by
  apply required_moved
  intro path field
  simp [value?_bind]

/-- An optional number is the same at another place. -/
@[simp] theorem number_moved (name : String) :
    ((part.moved path).optional name word).value? = (part.optional name word).value? :=
  optional_moved path part word_moved name

/-! Parts -/

@[simp] theorem filter_moved : (part.moved path).filter.value? = part.filter.value? := by
  rw [filter, filter, value?_bind (part.moved path).object, value?_bind part.object, object_moved]
  simp only [value?_attempt_bind, choice_moved, number_moved, flag_moved]

@[simp] theorem comparison_moved (other : Path) (bound : Located) (build : Side → UInt32 → Condition) :
    ((part.moved path).comparison (bound.moved other) build).value? = (part.comparison bound build).value? := by
  simp [comparison, ownSide, value?_bind]

@[simp] theorem counting_moved (other : Path) (filterPart : Located) :
    ((part.moved path).counting (filterPart.moved other)).value? = (part.counting filterPart).value? := by
  simp [counting, value?_bind]

/-- A field that is there for a part is there for the part at another place. -/
theorem match_moved {name : String} {present : ∀ field, (part.moved path).field? name = some field → Checked α}
    {other : ∀ field, part.field? name = some field → Checked α}
    {absent : (part.moved path).field? name = none → Checked α} {missing : part.field? name = none → Checked α}
    (found : ∀ field path moved here, part.field? name = some field →
      (present (field.moved path) moved).value? = (other field here).value?)
    (lost : ∀ moved here, (absent moved).value? = (missing here).value?) :
    (match given : (part.moved path).field? name with
      | some field => present field given
      | none => absent given).value? =
    (match given : part.field? name with
      | some field => other field given
      | none => missing given).value? := by
  split
  · next field given =>
    obtain ⟨inner, here, rfl⟩ := Option.map_eq_some_iff.mp (field?_moved path part name ▸ given)
    split
    · next last there =>
      obtain rfl := Option.some.inj (here.symm.trans there)
      exact found inner _ given there here
    · next there => cases here.symm.trans there
  · next given =>
    have here := Option.map_eq_none_iff.mp (field?_moved path part name ▸ given)
    split
    · next there => cases here.symm.trans there
    · exact lost given here

/-- What is read item by item does not depend on the place of the list. -/
theorem items_moved {read : Located → Checked α}
    (alike : ∀ item ∈ part.items, ∀ path, (read (item.moved path)).value? = (read item).value?) :
    (each (fun item => read item.1) (part.moved path).items.attach).value? =
      (each (fun item => read item.1) part.items.attach).value? := by
  simp only [value?_each, List.map_attach_eq_pmap, List.pmap_eq_map]
  unfold items items? at alike ⊢
  rw [value_moved]
  cases values : part.value.items? with
  | none => rfl
  | some values =>
    simp only [values, Option.map_some, Option.getD_some, List.mapIdx_eq_zipIdx_map, List.map_map] at alike ⊢
    congr 1
    apply List.map_congr_left
    intro entry member
    exact alike ⟨part.path ++ [.index entry.2], entry.1⟩ (List.mem_map_of_mem member) _

/-- A condition is read alike at another place, with all its parts. -/
theorem condition_moved (path : Path) (part : Located) :
    (part.moved path).condition.value? = part.condition.value? := by
  rw [condition, condition, value_moved]
  split
  · rfl
  rw [value?_bind, value?_bind, object_moved]
  congr 1
  funext _
  have list {name : String} {build : List Condition → Condition} {field : Located} {place : Path}
      (found : part.field? name = some field) :
      ((field.moved place).array >>= fun _ =>
        each (fun item => item.1.condition) (field.moved place).items.attach >>= fun results =>
          require (complete? results) >>= fun conditions => pure (build conditions)).value? =
      (field.array >>= fun _ => each (fun item => item.1.condition) field.items.attach >>= fun results =>
        require (complete? results) >>= fun conditions => pure (build conditions)).value? := by
    have items := items_moved place field fun item _ other => condition_moved other item
    simp only [value?_bind, value?_array, items]
  simp only [field?_moved]
  cases part.field? "life_at_most" with
  | some bound => exact comparison_moved path part _ bound _
  | none =>
  cases part.field? "life_at_least" with
  | some bound => exact comparison_moved path part _ bound _
  | none =>
  cases part.field? "hand_at_least" with
  | some bound => exact comparison_moved path part _ bound _
  | none =>
  cases part.field? "count" with
  | some filterPart => exact counting_moved path part _ filterPart
  | none =>
  cases part.field? "no_monsters" with
  | some _ => simp [value?_bind]
  | none =>
  cases part.field? "phase" with
  | some _ => simp [value?_bind]
  | none =>
  apply match_moved path part
  · intro field place _ _ found
    exact list found
  intro _ _
  apply match_moved path part
  · intro field place _ _ found
    exact list found
  intro _ _
  apply match_moved path part
  · intro inner place _ _ found
    rw [value?_bind, value?_bind, condition_moved place inner]
  intro _ _
  rfl
termination_by sizeOf part.value
decreasing_by
  · have := field?_size ‹_›
    have := items_size ‹_›
    omega
  · exact field?_size ‹_›

/-! Trees -/

@[simp] theorem selector_moved (targets : Nat) :
    ((part.moved path).selector targets).value? = (part.selector targets).value? := by
  simp only [selector, value_moved, field?_moved]
  cases part.value.string? with
  | some name =>
    simp only [value?_bind, value?_orFail]
    congr 1
    funext selector
    cases selector <;> simp [apply_ite Checked.value?, fail]
  | none =>
    cases part.field? "all" with
    | none => rfl
    | some filterPart => simp [value?_bind]

@[simp] theorem modifyStat_moved : (part.moved path).modifyStat.value? = part.modifyStat.value? := by
  have amount := required_moved path part "amount" signed_moved
  simp only [modifyStat, duration, value?_attempt_bind, stat_moved, choice_moved, amount]

@[simp] theorem setStat_moved : (part.moved path).setStat.value? = part.setStat.value? := by
  have value := required_moved path part "value" word_moved
  simp only [setStat, duration, value?_attempt_bind, stat_moved, choice_moved, value]

@[simp] theorem search_moved : (part.moved path).search.value? = part.search.value? := by
  have filter := required_moved path part "filter" filter_moved
  simp only [search, value?_attempt_bind, positive_moved, filter]

/-- An instruction is read alike wherever its node and the field with its name are. -/
theorem instruction_moved (other : Path) (field : Located) (name : String) :
    ((part.moved path).instruction (field.moved other) name).value? = (part.instruction field name).value? := by
  have amount {build : UInt32 → Instruction} :
      ((part.moved path).required "amount" >>= fun amount => amount.word >>= fun amount =>
        pure (build amount)).value? =
      (part.required "amount" >>= fun amount => amount.word >>= fun amount => pure (build amount)).value? := by
    apply required_moved
    intro place amount
    rw [value?_bind, value?_bind, word_moved]
  simp only [Located.instruction, apply_ite Checked.value?, search_moved, modifyStat_moved, setStat_moved, amount]
  simp only [value?_bind, positive_moved, choice_moved, fail]

/-- An action is read alike at another place. -/
theorem act_moved (targets : Nat) : ((part.moved path).act targets).value? = (part.act targets).value? := by
  apply required_moved
  intro place field
  simp only [value?_bind, string_moved, instruction_moved, field?_moved]
  congr 1
  funext name
  congr 1
  funext instruction
  cases part.field? "target" with
  | none => rfl
  | some target => simp [value?_bind, apply_ite Checked.value?, fail]

/-- What a tree is read as does not depend on its place if what a reference is read as does not. -/
theorem treeWith_moved {inline : Located → String → Checked EffectTree} (targets : Nat)
    (inlined : ∀ name, Placeless (inline · name)) (path : Path) (part : Located) :
    (treeWith inline targets (part.moved path)).value? = (treeWith inline targets part).value? := by
  rw [treeWith, treeWith]
  rw [value?_bind, value?_bind, object_moved]
  congr 1
  funext _
  simp only [field?_moved]
  cases part.field? "ref" with
  | some reference =>
    simp only [Option.map_some, value?_bind, string_moved]
    congr 1
    funext name
    exact inlined name _ reference
  | none =>
  apply match_moved path part
  · intro list place _ _ found
    have items := items_moved place list fun item _ other =>
      treeWith_moved targets inlined other item
    simp only [value?_bind, value?_array, items]
  intro _ _
  cases part.field? "if" with
  | some question =>
    apply attempt_alike (condition_moved _ question)
    intro condition
    apply attempt_alike
    · apply match_moved path part
      · intro branch place _ _ found
        exact treeWith_moved targets inlined place branch
      · intro _ _
        rfl
    intro yes
    apply attempt_alike
    · apply match_moved path part
      · intro branch place _ _ found
        rw [value?_bind, value?_bind, treeWith_moved targets inlined place branch]
      · intro _ _
        rfl
    intro no
    rfl
  | none =>
    cases part.field? "action" with
    | none => rfl
    | some _ => exact act_moved path part targets
termination_by sizeOf part.value
decreasing_by
  · have := field?_size ‹_›
    have := items_size ‹_›
    omega
  · exact field?_size ‹_›
  · exact field?_size ‹_›

/-- A reference is read as the subeffect that it names, wherever it is. -/
theorem inlineRef_moved (subeffects : Located) (targets : Nat) (free : List String) (name : String) :
    Placeless (inlineRef subeffects targets free · name) := by
  intro path reference
  show (inlineRef subeffects targets free (reference.moved path) name).value? =
    (inlineRef subeffects targets free reference name).value?
  rw [inlineRef, inlineRef]
  split
  · rfl
  · split <;> rfl

end Located

/-- What a node is read as does not depend on its place. -/
theorem Visit.read_moved {subeffects : Located} {targets : Nat} (entered : List String) (path : Path)
    (node : Located) : ((Visit.mk entered (node.moved path)).read subeffects targets).value? =
      ((Visit.mk entered node).read subeffects targets).value? :=
  Located.treeWith_moved targets (Located.inlineRef_moved subeffects targets _) path node

end CardDuel
