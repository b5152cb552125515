/-
This file shows that no action is listed twice: each list is made of parts for different cards, effects
or choices, and an action tells from which part it comes.
-/

import CardDuel.Proofs.Legal.Activations
import CardDuel.Proofs.Legal.Turns

namespace CardDuel

namespace Action

def card? : Action → Option InstanceId
  | activateEffect card .. | declareAttack card _ | normalSummon card _ | specialSummon card
  | setCard card _ | changePosition card => some card
  | _ => none

def effect? : Action → Option Nat
  | activateEffect _ effect .. => some effect
  | _ => none

/-- These are the targets or the tributes that are named. -/
def named? : Action → Option (List InstanceId)
  | activateEffect _ _ cards _ | normalSummon _ cards | setCard _ cards => some cards
  | _ => none

/-- This tells whether an action is an answer to others, which is possible in any phase. -/
def isAnswer : Action → Bool
  | activateEffect .. | passPriority => true
  | _ => false

end Action

namespace GameState

variable {state : GameState} {config : DuelConfig} {catalog : Catalog} {rules : Rules}
  {player : Seat} {card : InstanceId} {action : Action}

/-! Activations -/

/-- The activations of an effect are listed once each. -/
theorem nodup_effectActivations (agrees : state.Agrees config) (catalog : Catalog) (player : Seat)
    (card : InstanceId) (index : Nat) :
    (state.effectActivations catalog player card index).Nodup := by
  rw [effectActivations.eq_def]
  split
  · exact List.nodup_nil
  · next plan _ =>
    refine nodup_flatMap_of_origin id Action.named? ?_ ?_ ?_
    · rw [List.map_id]
      exact nodup_targetChoices agrees plan.effect player card
    · intro targets _
      refine ((nodup_costChoices agrees plan.effect.cost player card).filter _).map ?_
      intro left right same
      exact (Action.activateEffect.inj same).2.2.2
    · intro targets _ action listed
      obtain ⟨cost, _, rfl⟩ := List.mem_map.mp listed
      rfl

theorem nodup_cardActivations (agrees : state.Agrees config) (catalog : Catalog) (player : Seat)
    (found : CardInstance) : (state.cardActivations catalog player found).Nodup := by
  rw [cardActivations.eq_def]
  split
  · exact List.nodup_nil
  · next template _ =>
    refine nodup_flatMap_of_origin id Action.effect? ?_ ?_ ?_
    · rw [List.map_id]
      exact List.nodup_range
    · exact fun index _ => nodup_effectActivations agrees catalog player found.id index
    · intro index _ action listed
      obtain ⟨_, _, rfl⟩ := effectActivations_form listed
      rfl

/-- The legal activations are listed once each. -/
theorem nodup_legalActivations (agrees : state.Agrees config) (catalog : Catalog) (player : Seat) :
    (state.legalActivations catalog player).Nodup := by
  refine nodup_flatMap_of_origin CardInstance.id Action.card? ?_ ?_ ?_
  · exact agrees.nodup_ids.sublist (List.filter_sublist.map _)
  · exact fun found _ => nodup_cardActivations agrees catalog player found
  · intro found _ action listed
    rw [cardActivations.eq_def] at listed
    split at listed
    · simp at listed
    · obtain ⟨index, _, member⟩ := List.mem_flatMap.mp listed
      obtain ⟨_, _, rfl⟩ := effectActivations_form member
      rfl

/-! Summons and sets -/

/-- The summons of a monster are listed once each. -/
theorem nodup_monsterActions (agrees : state.Agrees config) (player : Seat) (card : InstanceId)
    (level : UInt32) : (state.monsterActions config player card level).Nodup := by
  refine nodup_flatMap_of_origin id Action.named? ?_ ?_ ?_
  · rw [List.map_id]
    exact (nodup_combinations (agrees.once player .monsters) _).filter _
  · intro tributes _
    simp
  · intro tributes _ action listed
    simp only [List.mem_cons, List.not_mem_nil, or_false] at listed
    rcases listed with rfl | rfl
    · rfl
    · rfl

theorem nodup_handActions (agrees : state.Agrees rules.config) (player : Seat)
    (card : InstanceId) : (state.handActions rules player card).Nodup := by
  rw [handActions.eq_def]
  split
  · exact List.nodup_nil
  · split
    · refine nodup_append_of_test (fun action => action.named?.isSome)
        (nodup_monsterActions agrees player card _) (nodup_ite (List.nodup_singleton _)) ?_ ?_
      · intro action monster
        obtain ⟨_, _, _, rfl | rfl⟩ := mem_monsterActions.mp monster
        · rfl
        · rfl
      · intro action special
        obtain ⟨_, member⟩ := List.mem_ite_nil_right.mp special
        rw [List.mem_singleton.mp member]
        rfl
    · exact nodup_ite (List.nodup_singleton _)

/-- What is listed for a card in the hand is a summon or a set of this card. -/
theorem handActions_cases (listed : action ∈ state.handActions rules player card) :
    action = .specialSummon card ∨
      ∃ tributes, action = .normalSummon card tributes ∨ action = .setCard card tributes := by
  obtain ⟨found, _, ⟨_, summons | ⟨_, rfl⟩⟩ | ⟨_, _, rfl⟩⟩ := mem_handActions.mp listed
  · obtain ⟨tributes, _, _, same⟩ := mem_monsterActions.mp summons
    exact .inr ⟨tributes, same⟩
  · exact .inl rfl
  · exact .inr ⟨[], .inr rfl⟩

/-- The actions of a hand are listed once each. -/
theorem nodup_allHandActions (agrees : state.Agrees rules.config) (player : Seat) :
    (state.allHandActions rules player).Nodup := by
  refine nodup_flatMap_of_origin id Action.card? ?_ ?_ ?_
  · rw [List.map_id]
    exact agrees.once player .hand
  · exact fun card _ => nodup_handActions agrees player card
  · intro card _ action listed
    obtain rfl | ⟨tributes, rfl | rfl⟩ := handActions_cases listed
    · rfl
    · rfl
    · rfl

/-! The field and the phases -/

theorem nodup_positionActions (agrees : state.Agrees config) (player : Seat) :
    (state.positionActions player).Nodup := by
  refine ((agrees.once player .monsters).filter _).map ?_
  intro left right same
  exact Action.changePosition.inj same

theorem nodup_attackTargets (agrees : state.Agrees config) (player : Seat) :
    (state.attackTargets player).Nodup := by
  rw [attackTargets.eq_def]
  split
  · exact List.nodup_singleton none
  · exact (agrees.once player.opponent .monsters).map fun left right same => Option.some.inj same

/-- The attacks are listed once each. -/
theorem nodup_attackActions (agrees : state.Agrees config) (player : Seat) :
    (state.attackActions player).Nodup := by
  refine nodup_flatMap_of_origin id Action.card? ?_ ?_ ?_
  · rw [List.map_id]
    exact agrees.once player .monsters
  · intro attacker _
    refine ((nodup_attackTargets agrees player).filter _).map ?_
    intro left right same
    exact (Action.declareAttack.inj same).2
  · intro attacker _ action listed
    obtain ⟨target, _, rfl⟩ := List.mem_map.mp listed
    rfl

theorem nodup_phaseActions (state : GameState) (config : DuelConfig) :
    (state.phaseActions config).Nodup := by
  rw [phaseActions.eq_def]
  split
  · split
    · decide
    · decide
  · decide
  · decide
  · decide

/-! All actions -/

/-- What a main phase or a battle allows neither answers nor leaves the phase. -/
theorem turnActions_acts (rules : Rules) (listed : action ∈ state.allHandActions rules player ∨
      action ∈ state.positionActions player ∨ action ∈ state.attackActions player) :
    action.isPhaseAction = false ∧ action.isAnswer = false := by
  rcases listed with hand | turned | attack
  · obtain ⟨card, _, member⟩ := List.mem_flatMap.mp hand
    obtain rfl | ⟨tributes, rfl | rfl⟩ := handActions_cases member
    · exact ⟨rfl, rfl⟩
    · exact ⟨rfl, rfl⟩
    · exact ⟨rfl, rfl⟩
  · obtain ⟨_, _, _, rfl⟩ := mem_positionActions.mp turned
    exact ⟨rfl, rfl⟩
  · obtain ⟨_, _, _, _, _, rfl⟩ := mem_attackActions.mp attack
    exact ⟨rfl, rfl⟩

/-- The actions that leave a phase are no answers. -/
theorem phaseActions_leave (listed : action ∈ state.phaseActions config) :
    action.isPhaseAction = true ∧ action.isAnswer = false := by
  rcases mem_phaseActions.mp listed with ⟨rfl, _⟩ | ⟨rfl, _⟩ | ⟨rfl, _⟩
  · exact ⟨rfl, rfl⟩
  · exact ⟨rfl, rfl⟩
  · exact ⟨rfl, rfl⟩

/-- No action of a turn is listed twice. -/
theorem nodup_turnActions (agrees : state.Agrees rules.config) (player : Seat) :
    (state.turnActions rules player).Nodup := by
  have main : (state.allHandActions rules player ++ state.positionActions player).Nodup := by
    refine nodup_append_of_test (fun action => action.kind ≠ .changePosition)
      (nodup_allHandActions agrees player) (nodup_positionActions agrees player) ?_ ?_
    · intro action hand
      obtain ⟨card, _, member⟩ := List.mem_flatMap.mp hand
      obtain rfl | ⟨tributes, rfl | rfl⟩ := handActions_cases member
      · rfl
      · rfl
      · rfl
    · intro action turned
      obtain ⟨_, _, _, rfl⟩ := mem_positionActions.mp turned
      rfl
  have acts : ((if state.phase.isMain then
      state.allHandActions rules player ++ state.positionActions player else []) ++
      (if state.phase = .battle then state.attackActions player else [])).Nodup := by
    refine nodup_append_of_test (fun _ => state.phase.isMain) (nodup_ite main)
      (nodup_ite (nodup_attackActions agrees player)) ?_ ?_
    · exact fun _ member => (List.mem_ite_nil_right.mp member).1
    · intro _ member
      rw [(List.mem_ite_nil_right.mp member).1]
      rfl
  refine nodup_append_of_test (fun action => !action.isPhaseAction) acts
    (nodup_phaseActions state rules.config) ?_ ?_
  · intro action listed
    simp only [List.mem_append, List.mem_ite_nil_right] at listed
    rcases listed with ⟨_, hand | turned⟩ | ⟨_, attack⟩
    · simp [(turnActions_acts rules (.inl hand)).1]
    · simp [(turnActions_acts rules (.inr (.inl turned))).1]
    · simp [(turnActions_acts rules (.inr (.inr attack))).1]
  · intro action leaves
    simp [(phaseActions_leave leaves).1]

/-- No action is listed twice. -/
theorem nodup_legalActions (agrees : state.Agrees rules.config) (player : Seat) :
    (state.legalActions rules player).Nodup := by
  have activates {action : Action} (listed : action ∈ state.legalActivations rules.catalog player) :
      action.kind = .activateEffect ∧ action.isAnswer = true := by
    obtain ⟨_, _, member⟩ := (mem_legalActivations agrees).mp listed
    obtain ⟨_, _, rfl⟩ := effectActivations_form member
    exact ⟨rfl, rfl⟩
  have answers : ((if state.canPass then [Action.passPriority] else []) ++
      state.legalActivations rules.catalog player).Nodup := by
    refine nodup_append_of_test (fun action => action.kind ≠ .activateEffect)
      (nodup_ite (List.nodup_singleton _)) (nodup_legalActivations agrees rules.catalog player) ?_ ?_
    · intro action pass
      rw [List.mem_singleton.mp (List.mem_ite_nil_right.mp pass).2]
      rfl
    · intro action activation
      simp [(activates activation).1]
  rw [legalActions]
  split
  · exact List.nodup_nil
  · refine nodup_append_of_test Action.isAnswer answers (nodup_ite (nodup_turnActions agrees player))
      ?_ ?_
    · intro action listed
      rcases List.mem_append.mp listed with pass | activation
      · rw [List.mem_singleton.mp (List.mem_ite_nil_right.mp pass).2]
        rfl
      · exact (activates activation).2
    · intro action listed
      obtain ⟨_, acts⟩ := List.mem_ite_nil_right.mp listed
      rcases mem_turnActions.mp acts with ⟨_, hand | turned⟩ | ⟨_, attack⟩ | leaves
      · exact (turnActions_acts rules (.inl hand)).2
      · exact (turnActions_acts rules (.inr (.inl turned))).2
      · exact (turnActions_acts rules (.inr (.inr attack))).2
      · exact (phaseActions_leave leaves).2

end GameState

end CardDuel
