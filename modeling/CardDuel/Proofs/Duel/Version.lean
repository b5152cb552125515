/-
This file shows that the version of a duel counts its steps: nothing that happens touches it, and a step adds
one at its end.
-/

import CardDuel.Proofs.Run
import CardDuel.Proofs.Flow.Shape

namespace CardDuel

namespace GameState

variable {rules : Rules} {catalog : Catalog} {before after state next : GameState} {player : Seat}

/-- A deed leaves the version alone. -/
theorem Deed.version {may : GameState → Change → Prop} (deed : Deed may before after) :
    after.version = before.version := by
  rcases deed.cases with table | ⟨_, _, _, rfl⟩ | ⟨_, _, rfl⟩
  · exact table.version
  · rfl
  · rfl

/-- Edits leave the version alone. -/
theorem Edits.version (edits : Edits before after) : after.version = before.version := by
  induction edits with
  | refl => rfl
  | tail _ edit ih =>
    rcases edit.deed_or_note with deed | ⟨event, rfl⟩
    · exact deed.version.trans ih
    · exact ih

/-! Sweeps and battles -/

theorem endDuel_version (state : GameState) (result : GameResult) :
    (state.endDuel result).version = state.version := by
  rw [endDuel]
  split
  · rfl
  · rfl

theorem checkLoss_version (state : GameState) : state.checkLoss.version = state.version := by
  rw [checkLoss]
  split
  · exact endDuel_version state _
  · rfl

theorem sweep_version (state : GameState) (catalog : Catalog) :
    (state.sweep catalog).version = state.version :=
  (checkLoss_version _).trans (state.destroyAllMarked_edits catalog).version

theorem resolveLink_version (state : GameState) (catalog : Catalog) (link : ChainLink) :
    (state.resolveLink catalog link).1.version = state.version :=
  (checkLoss_version _).trans (state.resolved_edits catalog link).version

theorem resolveAttack_version (state : GameState) (catalog : Catalog) :
    (state.resolveAttack catalog).version = state.version := by
  rw [resolveAttack]
  split
  · rfl
  · next attack _ =>
    dsimp only
    split
    · rcases ({ state with pendingAttack := none } : GameState).fight_cases catalog attack with
        same | ⟨fought, edits, same⟩
      · rw [same]
        exact (revealTarget_edits _ catalog attack.target).version
      · rw [same]
        exact (sweep_version fought catalog).trans edits.version
    · rfl

/-! Turns -/

theorem enterPhase_version (state : GameState) (phase : Phase) :
    (state.enterPhase phase).version = state.version := rfl

theorem drawn_version (state : GameState) (rules : Rules) :
    (state.drawn rules).version = state.version := by
  rw [drawn]
  split
  · rw [drawForTurn]
    split
    · exact (Change.applyPossible_edits _ _).version
    · rfl
  · rfl

theorem startTurn_version (state : GameState) (rules : Rules) :
    (state.startTurn rules).version = state.version := by
  have swept := (sweep_version _ rules.catalog).trans (drawn_version state rules)
  rw [startTurn_eq]
  split
  · exact swept
  · rw [enterPhase_version, enterPhase_version]
    exact swept

/-- The end of a turn leaves the version alone. -/
theorem endTurn_version (ended : state.endTurn rules = .ok next) : next.version = state.version := by
  obtain ⟨_, rfl⟩ := (endTurn_eq_ok state rules).mp ended
  have swept : ((state.wound rules).sweep rules.catalog).version = state.version :=
    (sweep_version _ rules.catalog).trans
      (discardToLimit_edits (state.enterPhase .ending) state.turnPlayer rules.config.handLimit).version
  split
  · exact swept
  · exact (startTurn_version _ rules).trans swept

/-! Answers -/

theorem chainTrigger_version (catalog : Catalog) (state : GameState) (trigger : TriggeredEffect) :
    (chainTrigger catalog state trigger).version = state.version := by
  rcases chainTrigger_cases catalog state trigger with same | ⟨_, paid, _, pays, same⟩
  · rw [same]
  · rw [same]
    exact (payTriggerCost_edits pays).version

theorem triggered_version (state : GameState) (catalog : Catalog) :
    (state.triggered catalog).version = state.version := by
  refine triggered_keeps (fun later => later.version = state.version) ?_ rfl
  intro before same trigger _ _
  exact (chainTrigger_version catalog before trigger).trans same

theorem openWindow_version (state : GameState) (catalog : Catalog) :
    (state.openWindow catalog).version = state.version := by
  obtain ⟨window, _, same⟩ := state.openWindow_eq catalog
  rw [same, announceWindow]
  split
  · exact triggered_version state catalog
  · exact triggered_version state catalog

theorem closeWindow_version (state : GameState) : state.closeWindow.version = state.version := by
  rw [closeWindow]
  split
  · rfl
  · rfl

theorem resolveLinks_version (catalog : Catalog) (links : Nat) (state : GameState) (resolved : Nat) :
    (resolveLinks catalog links state resolved).1.version = state.version := by
  refine resolveLinks_keeps (fun later => later.version = state.version) ?_ links resolved rfl
  intro before link chain same _ _
  exact (resolveLink_version _ catalog link).trans same

theorem resolveChain_version (state : GameState) (catalog : Catalog) :
    (state.resolveChain catalog).version = state.version := by
  rw [resolveChain_eq, closeWindow_version]
  exact resolveLinks_version catalog _ _ 0

theorem passPriority_version (passed : state.passPriority rules player = .ok next) :
    next.version = state.version := by
  rw [passPriority.eq_def] at passed
  split at passed
  · split at passed
    · obtain ⟨_, remaining, _, rfl | rfl⟩ := passWindow_eq_ok passed
      · exact closeWindow_version _
      · obtain ⟨left, _, moved⟩ := advanceWindow_eq rules.catalog maxPasses
          ({ state with window := some remaining }.record (.priorityPassed player))
        rw [moved, announceClosing]
        split
        · rfl
        · rfl
    · simp at passed
  · obtain ⟨_, chain, _, rfl⟩ := passChain_eq_ok.mp passed
    split
    · exact resolveChain_version _ rules.catalog
    · rfl

/-- Settling leaves the version alone. -/
theorem settle_version (state : GameState) (catalog : Catalog) :
    (state.settle catalog).version = state.version := by
  refine settle_keeps (fun later => later.version = state.version)
    (fun later => later.version = state.version) (fun _ same _ => same) (fun _ same => same) ?_ rfl
  intro before after same _ taken
  obtain ⟨_, ⟨_, rfl⟩ | ⟨_, _, rfl⟩⟩ := settleStep?_eq_some taken
  · exact (openWindow_version before catalog).trans same
  · exact (resolveAttack_version before catalog).trans same

/-! Actions -/

theorem normalSummon_version {config : DuelConfig} {card : InstanceId} {tributes : List InstanceId}
    {isSet : Bool} (summoned : state.normalSummon config player card tributes isSet = .ok next) :
    next.version = state.version := by
  obtain ⟨_, _, _, _, placed, made, rfl⟩ := normalSummon_eq_ok.mp summoned
  exact (applyChanges_edits made).version

theorem setCard_version {config : DuelConfig} {card : InstanceId} {tributes : List InstanceId}
    (placed : state.setCard config player card tributes = .ok next) :
    next.version = state.version := by
  obtain ⟨_, _, ⟨_, summoned⟩ | ⟨_, _, _, _, _, made⟩⟩ := setCard_eq_ok.mp placed
  · exact normalSummon_version summoned
  · exact (applyChange_edits made).version

theorem changePosition_version {card : InstanceId}
    (changed : state.changePosition player card = .ok next) : next.version = state.version := by
  obtain ⟨_, _, _, _, turned, made, rfl⟩ := changePosition_eq_ok.mp changed
  rw [turnedBy]
  split
  · exact (applyChange_edits made).version
  · exact (applyChange_edits made).version

theorem activate_version {card : InstanceId} {index : Nat} {targets paid : List InstanceId}
    (activated : state.activate catalog player card index targets paid = .ok next) :
    next.version = state.version := by
  obtain ⟨_, _, _, placed, places, payed, pays, _, _, _, pushed, rfl⟩ :=
    activate_eq_ok.mp activated
  obtain ⟨_, rfl⟩ := pushLink_eq_ok.mp pushed
  calc
    (((payed.noteActivation card index).linked _).sweep catalog).version = payed.version :=
      sweep_version _ catalog
    _ = placed.version := (applyChanges_edits pays).version
    _ = state.version := (applyChanges_edits places).version

/-- No action changes the version by itself. -/
theorem dispatch_version {action : Action} (acted : state.dispatch rules player action = .ok next) :
    next.version = state.version := by
  cases action with
  | forfeit =>
    obtain rfl := Except.ok.inj acted
    exact endDuel_version state _
  | passPriority => exact passPriority_version acted
  | activateEffect card index targets paid => exact activate_version (ite_error_eq_ok.mp acted).2
  | declareAttack attacker target =>
    obtain ⟨_, _, _, _, _, rfl⟩ := declareAttack_eq_ok.mp acted
    rfl
  | normalSummon card tributes => exact normalSummon_version acted
  | setCard card tributes => exact setCard_version acted
  | specialSummon card =>
    obtain ⟨_, _, _, made⟩ := specialSummon_eq_ok.mp acted
    exact (applyChange_edits made).version
  | changePosition card => exact changePosition_version acted
  | enterBattlePhase =>
    obtain ⟨_, _, entered⟩ := bind_eq_ok.mp acted
    obtain ⟨_, _, rfl⟩ := enterBattlePhase_eq_ok.mp entered
    rfl
  | enterMainPhase2 =>
    obtain ⟨_, _, entered⟩ := bind_eq_ok.mp acted
    obtain ⟨_, rfl⟩ := enterMainPhase2_eq_ok.mp entered
    rfl
  | endTurn =>
    obtain ⟨_, _, ended⟩ := bind_eq_ok.mp acted
    exact endTurn_version ended

/-- A step adds one to the version. -/
theorem step_version {action : Action} (stepped : state.step rules player action = .ok next) :
    next.version = state.version + 1 := by
  obtain ⟨_, acted, dispatched, rfl⟩ := step_eq_ok.mp stepped
  have settled : ((acted.sweep rules.catalog).settle rules.catalog).version = state.version :=
    ((settle_version _ _).trans (sweep_version acted _)).trans (dispatch_version dispatched)
  exact congrArg (· + 1) settled

end GameState

/-- A request that is served adds one to the version and reports the new one. -/
theorem Duel.serve_version {duel after : Duel} {report : StepReport} {request : Request}
    (served : duel.serve request = .ok (report, after)) :
    after.state.version = duel.state.version + 1 ∧ report.version = after.state.version := by
  obtain ⟨_, _, _, stepped, _⟩ := serve_eq_ok served
  refine ⟨GameState.step_version stepped, ?_⟩
  cases request with
  | act player action =>
    obtain ⟨next, _, same⟩ := map_eq_ok.mp served
    obtain ⟨rfl, rfl⟩ := Prod.mk.inj same
    rfl
  | timeout player =>
    obtain ⟨next, _, same⟩ := map_eq_ok.mp served
    obtain ⟨rfl, rfl⟩ := Prod.mk.inj same
    rfl

end CardDuel
