/-
This file defines gentle changes, which are what the effects and costs of cards make: nothing is set or summoned
normally, and whatever comes to the field without being told to move comes from elsewhere.
-/

import CardDuel.Proofs.Effect.Summons
import CardDuel.Proofs.Legal.Costs
import CardDuel.Proofs.Table.Deed
import CardDuel.Proofs.Table.Shift

namespace CardDuel

open GameState

/--
This tells that a change is gentle: nothing is set or summoned normally, and a card that is summoned or placed
without being told to move comes from outside the field.
-/
def Change.Gentle (state : GameState) : Change → Prop
  | summon card _ kind => kind = .special ∧ (state.Numbered → state.IsAway card)
  | setMonster _ => False
  | placeSpell card faceUp => faceUp = true ∧ (state.Numbered → state.IsAway card)
  | _ => True

/-- Plain changes are gentle, apart from summons. -/
theorem Change.gentle_of_plain {change : Change} (plain : change.isPlain = true)
    (other : change.isSummon = false) (state : GameState) : change.Gentle state := by
  cases change with
  | summon card position kind => simp [isSummon] at other
  | setMonster card => simp [isPlain] at plain
  | placeSpell card faceUp => simp [isPlain] at plain
  | _ => trivial

namespace GameState

variable {state next : GameState} {cards : List InstanceId} {player : Seat} {card : InstanceId}

/-- Different cards from outside the field are summoned by gentle deeds. -/
theorem summons_deeds {position : Position}
    (fair : state.Numbered → cards.Nodup ∧ ∀ card ∈ cards, state.IsAway card) :
    Deeds (fun state change => change.Gentle state) state
      (Change.applyUntil state (cards.map fun card => .summon card position .special)).1 := by
  induction cards generalizing state with
  | nil => exact .refl state
  | cons card rest ih =>
    rw [List.map_cons, Change.applyUntil]
    cases made : (Change.summon card position .special).apply state with
    | error violation => exact .refl state
    | ok next =>
      have gentle : (Change.summon card position .special).Gentle state :=
        ⟨rfl, fun numbered => (fair numbered).2 card (List.mem_cons_self ..)⟩
      refine (Deeds.change gentle made).trans (ih ?_)
      intro numbered
      obtain ⟨distinct, away⟩ := fair ((Change.apply_shifts made).numbered_iff.mp numbered)
      obtain ⟨fresh, others⟩ := List.nodup_cons.mp distinct
      refine ⟨others, ?_⟩
      intro other member found known
      have different : other ≠ card := fun same => fresh (same ▸ member)
      rw [card?_of_summon made different] at known
      exact away other (List.mem_cons_of_mem card member) found known

/-- Costs are paid by gentle deeds. -/
theorem costChanges_gentle {cost : Option Cost} {paid : List InstanceId}
    (pays : state.applyChanges (costChanges player card paid cost) = .ok next) :
    Deeds (fun state change => change.Gentle state) state next := by
  refine applyChanges_deeds ?_ pays
  intro _ change member
  obtain ⟨_, rfl⟩ | ⟨_, rfl⟩ := mem_costChanges member
  · trivial
  · trivial

end GameState

namespace EffectTree

variable {catalog : Catalog} {link : ChainLink} {state next : GameState}

/-- An instruction makes gentle deeds. -/
theorem runInstruction_gentle {instruction : Instruction} {target : Selector}
    (made : runInstruction catalog link instruction target state = .ok next) :
    Deeds (fun state change => change.Gentle state) state next := by
  simp only [runInstruction, bind_eq_ok, pure_eq_ok] at made
  obtain ⟨resolved, given, changes, planned, changed, applied, rfl⟩ := made
  refine Deeds.trans ?_ (.refresh changed catalog)
  by_cases summons : ∃ position, instruction = .specialSummon position
  · obtain ⟨position, rfl⟩ := summons
    obtain ⟨cards, acted, made⟩ := bind_eq_ok.mp planned
    obtain ⟨kept, sublist, monsters, rfl⟩ := planSummons_eq_ok made
    have away (card : InstanceId) (member : card ∈ kept) : state.IsAway card := by
      obtain ⟨found, known, _, field⟩ := monsters card member
      exact isAway_of_card? known field
    rw [← Change.applyUntil_of_applyAll applied]
    exact summons_deeds fun numbered => ⟨sublist.nodup (resolve_nodup given acted numbered), away⟩
  · have within := plan_within planned (fun _ _ _ _ => trivial) fun _ _ _ _ => trivial
    have other := plan_isSummon planned fun position same => summons ⟨position, same⟩
    exact Change.applyAll_deeds (fun state change member =>
      Change.gentle_of_plain (within change member).plain (other change member) state) applied

mutual

/-- A whole effect tree makes gentle deeds. -/
theorem run_gentle : (tree : EffectTree) → {state next : GameState} →
    run catalog link tree state = .ok next →
      Deeds (fun state change => change.Gentle state) state next
  | .act _ _, _, _, made => runInstruction_gentle (by simpa only [run] using made)
  | .sequence children, _, _, made => runAll_gentle children (by simpa only [run] using made)
  | .branch condition yes no, state, _, made => by
    rw [run] at made
    split at made
    · exact run_gentle yes made
    · exact runOption_gentle no made

/-- Trees one after the other are carried out by gentle deeds. -/
theorem runAll_gentle : (children : List EffectTree) → {state next : GameState} →
    runAll catalog link children state = .ok next →
      Deeds (fun state change => change.Gentle state) state next
  | [], state, next, made => by
    obtain rfl : state = next := by simpa [runAll] using made
    exact .refl state
  | child :: rest, _, _, made => by
    simp only [runAll, bind_eq_ok] at made
    obtain ⟨middle, first, others⟩ := made
    exact (run_gentle child first).trans (runAll_gentle rest others)

theorem runOption_gentle : (child : Option EffectTree) → {state next : GameState} →
    runOption catalog link child state = .ok next →
      Deeds (fun state change => change.Gentle state) state next
  | none, state, next, made => by
    obtain rfl : state = next := by simpa [runOption] using made
    exact .refl state
  | some child, _, _, made => run_gentle child (by simpa only [runOption] using made)

end

end EffectTree

end CardDuel
