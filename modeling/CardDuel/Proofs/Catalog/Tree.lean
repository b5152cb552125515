/-
This file shows that what is read as an effect tree can be carried out: every instruction, however deep,
accepts its selector, and no chosen target is missing.
-/

import CardDuel.Proofs.Catalog.Checked
import CardDuel.Proofs.Effect.Plan
import CardDuel.Proofs.Effect.Tree
import CardDuel.Catalog.Tree

namespace CardDuel

/-- This tells that an instruction can act on a selector when there is a number of targets. -/
structure Instruction.Fits (targets : Nat) (instruction : Instruction) (selector : Selector) :
    Prop where
  accepted : Located.accepts instruction selector = true
  bound : ∀ index, selector = .chosen index → index < targets
  lasting : instruction.duration? ≠ some .whileSourceActive

/-- No written duration is that of an ability. -/
theorem Duration.ofName?_ne {name : String} : Duration.ofName? name ≠ some .whileSourceActive := by
  rw [ofName?]
  split
  · simp
  · split <;> simp

namespace Located

open Checked

variable {targets : Nat} (part : Located)

/-- No instruction asks for a modifier that lasts as long as its source is active. -/
theorem duration_only : part.duration.Only (· ≠ .whileSourceActive) := by
  refine part.only_choice (by simp) ?_
  intro text duration named lasts
  exact Duration.ofName?_ne (lasts ▸ named)

theorem modifyStat_only : part.modifyStat.Only (·.duration? ≠ some .whileSourceActive) := by
  simpa [modifyStat, Instruction.duration?] using fun _ _ _ _ duration => part.duration_only duration

theorem setStat_only : part.setStat.Only (·.duration? ≠ some .whileSourceActive) := by
  simpa [setStat, Instruction.duration?] using fun _ _ _ _ duration => part.duration_only duration

/-- No instruction is read that lasts as long as an ability. -/
theorem instruction_only (field : Located) (name : String) :
    (part.instruction field name).Only (·.duration? ≠ some .whileSourceActive) := by
  simp only [Located.instruction, search, only_ite, only_bind, only_pure, modifyStat_only,
    setStat_only]
  simp [Instruction.duration?]

/-- A chosen target that is read is one of the targets. -/
theorem selector_only : (part.selector targets).Only
    fun selector => ∀ index, selector = .chosen index → index < targets := by
  rw [selector]
  split
  · simp only [only_bind, value?_orFail]
    intro selector named
    split
    · simp
    · next other => simpa using fun index chosen => absurd chosen (other index)
  · split
    · simp
    · simp

/-- What is read as an action is an instruction with a selector that it accepts. -/
theorem act_cases {tree : EffectTree} (read : (part.act targets).value? = some tree) :
    ∃ field name instruction selector, (part.instruction field name).value? = some instruction ∧
      tree = .act instruction selector ∧ accepts instruction selector = true ∧
      ∀ index, selector = .chosen index → index < targets := by
  have only : (part.act targets).Only fun tree => ∃ field name instruction selector,
      (part.instruction field name).value? = some instruction ∧ tree = .act instruction selector ∧
      accepts instruction selector = true ∧ ∀ index, selector = .chosen index → index < targets := by
    simp only [act, only_bind]
    intro field _ name _ instruction made
    split
    · obtain ⟨accepted, bound⟩ := accepts_default targets instruction
      exact only_pure.mpr ⟨field, name, instruction, _, made, rfl, accepted, bound⟩
    · next target _ =>
      simp only [only_bind, only_ite, only_pure, only_fail, implies_true, and_true]
      intro selector chosen accepted
      exact ⟨field, name, instruction, selector, made, rfl, accepted,
        target.selector_only selector chosen⟩
  exact only tree read

/-- What is read as an instruction fits its selector. -/
theorem act_only : (part.act targets).Only fun tree => tree.Each (Instruction.Fits targets) := by
  intro tree read
  obtain ⟨field, name, instruction, selector, made, rfl, accepted, bound⟩ := part.act_cases read
  exact (EffectTree.each_act _ _).mpr
    ⟨accepted, bound, part.instruction_only field name instruction made⟩

/-- What is read as a tree is good if what is read as a reference or an instruction is. -/
theorem treeWith_only {good : Instruction → Selector → Prop}
    {inline : Located → String → Checked EffectTree}
    (inlined : ∀ reference name, (inline reference name).Only (·.Each good))
    (acts : ∀ part : Located, (part.act targets).Only (·.Each good)) (part : Located) :
    (treeWith inline targets part).Only (·.Each good) := by
  rw [treeWith]
  simp only [only_bind]
  intro _ _
  split
  · simp [inlined]
  split
  · next list found =>
    simp only [only_bind, value?_array, value?_each, value?_require, only_pure, Option.mem_some_iff]
    rintro _ - _ rfl children complete
    have values := complete?_eq_some.mp complete
    rw [EffectTree.each_sequence]
    intro child member
    obtain ⟨item, _, given⟩ : ∃ item ∈ list.items.attach,
        (treeWith inline targets item.1).value? = some child := by
      rw [← List.mem_map, values]
      exact List.mem_map_of_mem member
    exact treeWith_only inlined acts item.1 child given
  split
  · next question _ =>
    simp only [only_bind, value?_attempt, value?_require, only_pure, Option.mem_some_iff]
    rintro _ - _ rfl _ rfl condition _ yes yesGiven no noGiven
    rw [EffectTree.each_branch]
    constructor
    · split at yesGiven
      · next branch _ => exact treeWith_only inlined acts branch yes yesGiven
      · cases yesGiven
    · intro child member
      split at noGiven
      · next branch _ =>
        have only : (treeWith inline targets branch >>= fun tree => pure (some tree)).Only
            (∀ child ∈ ·, child.Each good) := by
          simpa using fun tree => (treeWith_only inlined acts branch).of_value?
        exact only no noGiven child member
      · cases noGiven
        cases member
  split
  · exact acts part
  · simp
termination_by sizeOf part.value
decreasing_by
  · have := field?_size ‹_›
    have := items_size item.2
    omega
  · exact field?_size ‹_›
  · exact field?_size ‹_›

section Each

variable {good : Instruction → Selector → Prop}
  (acts : ∀ part : Located, (part.act targets).Only (·.Each good))
include acts

/-- What is read as a reference is good if what is read as an instruction is. -/
theorem inlineRef_only (subeffects : Located) (free : List String) (reference : Located)
    (name : String) : (inlineRef subeffects targets free reference name).Only (·.Each good) := by
  rw [inlineRef]
  split
  · exact reference.only_fail _
  · next body _ =>
    split
    · exact treeWith_only (inlineRef_only subeffects (without free name)) acts body
    · exact reference.only_fail _
termination_by free.length
decreasing_by exact length_without_lt ‹_›

/-- The tree of an effect is good, references included, if what is read as an instruction is. -/
theorem tree_only (subeffects : Located) :
    (part.tree subeffects targets).Only (·.Each good) :=
  treeWith_only (inlineRef_only acts subeffects _) acts part

end Each

end Located

end CardDuel
