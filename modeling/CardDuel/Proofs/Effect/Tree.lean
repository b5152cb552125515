/-
This file tells what holds of every instruction of an effect tree together with its selector.
-/

import CardDuel.Card.Template

namespace CardDuel

namespace EffectTree

variable {good : Instruction → Selector → Prop}

mutual

/-- This tells that every instruction of a tree is good with its selector. -/
def Each (good : Instruction → Selector → Prop) : EffectTree → Prop
  | act instruction target => good instruction target
  | sequence children => EachOfAll good children
  | branch _ yes no => Each good yes ∧ EachOfOption good no

def EachOfAll (good : Instruction → Selector → Prop) : List EffectTree → Prop
  | [] => True
  | child :: rest => Each good child ∧ EachOfAll good rest

/-- This tells that every instruction of a tree that may be missing is good with its selector. -/
def EachOfOption (good : Instruction → Selector → Prop) : Option EffectTree → Prop
  | none => True
  | some child => Each good child

end

@[simp] theorem each_act (instruction : Instruction) (target : Selector) :
    (act instruction target).Each good ↔ good instruction target := by rw [Each]

@[simp] theorem each_branch (condition : Condition) (yes : EffectTree) (no : Option EffectTree) :
    (branch condition yes no).Each good ↔ yes.Each good ∧ ∀ child ∈ no, child.Each good := by
  rw [Each]
  cases no with
  | none => simp [EachOfOption]
  | some child => simp [EachOfOption]

/-- The instructions of several trees are good if those of each tree are. -/
theorem eachOfAll_iff {children : List EffectTree} :
    EachOfAll good children ↔ ∀ child ∈ children, child.Each good := by
  induction children with
  | nil => simp [EachOfAll]
  | cons child rest ih => simp [EachOfAll, ih]

@[simp] theorem each_sequence (children : List EffectTree) :
    (sequence children).Each good ↔ ∀ child ∈ children, child.Each good := by
  rw [Each, eachOfAll_iff]

mutual

/-- Every instruction that is listed for a good tree is good with some selector. -/
theorem Each.instruction {instruction : Instruction} : {tree : EffectTree} → tree.Each good →
    instruction ∈ tree.instructions → ∃ target, good instruction target
  | .act _ target, all, member => by
    obtain rfl : instruction = _ := by simpa [instructions] using member
    exact ⟨target, (each_act _ _).mp all⟩
  | .sequence children, all, member => by
    rw [Each] at all
    exact EachOfAll.instruction all (by simpa only [instructions] using member)
  | .branch _ yes no, all, member => by
    rw [Each] at all
    rw [instructions, List.mem_append] at member
    rcases member with inYes | inNo
    · exact Each.instruction all.1 inYes
    · exact EachOfOption.instruction all.2 inNo

/-- Every instruction of several good trees is good with some selector. -/
theorem EachOfAll.instruction {instruction : Instruction} : {children : List EffectTree} →
    EachOfAll good children → instruction ∈ instructionsOfAll children →
      ∃ target, good instruction target
  | [], _, member => by simp [instructionsOfAll] at member
  | child :: rest, all, member => by
    rw [EachOfAll] at all
    rw [instructionsOfAll, List.mem_append] at member
    rcases member with inChild | inRest
    · exact Each.instruction all.1 inChild
    · exact EachOfAll.instruction all.2 inRest

/-- Every instruction of a good tree that may be missing is good with some selector. -/
theorem EachOfOption.instruction {instruction : Instruction} : {child : Option EffectTree} →
    EachOfOption good child → instruction ∈ instructionsOfOption child →
      ∃ target, good instruction target
  | none, _, member => by simp [instructionsOfOption] at member
  | some child, all, member => Each.instruction (by simpa only [EachOfOption] using all)
      (by simpa only [instructionsOfOption] using member)

end

end EffectTree

end CardDuel
