/-
This file follows the turns of a duel: only the end of a turn begins another one, so that the counter
of turns never runs ahead of the requests.
-/

import CardDuel.Proofs.Flow.Shape

namespace CardDuel

namespace GameState

/-- This tells that two states belong to one turn. -/
structure SameTurn (before after : GameState) : Prop where
  turn : after.turn = before.turn
  turnPlayer : after.turnPlayer = before.turnPlayer

namespace SameTurn

variable {before middle after : GameState}

theorem refl (state : GameState) : SameTurn state state := ⟨rfl, rfl⟩

theorem trans (first : SameTurn before middle) (second : SameTurn middle after) :
    SameTurn before after :=
  ⟨second.turn.trans first.turn, second.turnPlayer.trans first.turnPlayer⟩

theorem of_course (course : Course before after) : SameTurn before after :=
  ⟨course.turn, course.turnPlayer⟩

theorem closeWindow (state : GameState) : SameTurn state state.closeWindow := by
  rw [GameState.closeWindow]
  split
  · exact ⟨rfl, rfl⟩
  · exact refl state

theorem announceClosing (state : GameState) : SameTurn state state.announceClosing := by
  rw [GameState.announceClosing]
  split
  · exact ⟨rfl, rfl⟩
  · exact refl state

theorem announceWindow (state : GameState) : SameTurn state state.announceWindow := by
  rw [GameState.announceWindow]
  split
  · exact ⟨rfl, rfl⟩
  · exact refl state

end SameTurn

variable {state next : GameState} {catalog : Catalog} {rules : Rules} {player : Seat}

/-! What happens by itself -/

/-- A trigger that is chained leaves the turn alone. -/
theorem chainTrigger_turn (catalog : Catalog) (state : GameState) (trigger : TriggeredEffect) :
    SameTurn state (chainTrigger catalog state trigger) := by
  rcases chainTrigger_cases catalog state trigger with same | ⟨_, paid, _, pays, same⟩
  · rw [same]
    exact .refl state
  · rw [same]
    exact (SameTurn.of_course (payTriggerCost_edits pays).frame.toCourse).trans ⟨rfl, rfl⟩

theorem triggered_turn (state : GameState) (catalog : Catalog) :
    SameTurn state (state.triggered catalog) := by
  refine triggered_keeps (SameTurn state) ?_ ⟨rfl, rfl⟩
  intro before same trigger _ _
  exact same.trans (chainTrigger_turn catalog before trigger)

theorem openWindow_turn (state : GameState) (catalog : Catalog) :
    SameTurn state (state.openWindow catalog) := by
  obtain ⟨window, _, same⟩ := state.openWindow_eq catalog
  rw [same]
  have opened : SameTurn (state.triggered catalog)
      { state.triggered catalog with window := window } := ⟨rfl, rfl⟩
  exact ((state.triggered_turn catalog).trans opened).trans (.announceWindow _)

/-- Settling leaves the turn alone. -/
theorem settle_turn (catalog : Catalog) (state : GameState) : SameTurn state (state.settle catalog) := by
  refine settle_keeps (SameTurn state) (SameTurn state) ?_ (fun _ same => same) ?_ (.refl state)
  · intro last same _
    exact same.trans ⟨rfl, rfl⟩
  · intro before after same _ taken
    obtain ⟨_, ⟨_, rfl⟩ | ⟨_, _, rfl⟩⟩ := settleStep?_eq_some taken
    · exact same.trans (before.openWindow_turn catalog)
    · exact same.trans (.of_course (before.resolveAttack_course catalog).1)

theorem handedBack_turn (state : GameState) (catalog : Catalog) :
    SameTurn state (state.handedBack catalog) := by
  have swept := SameTurn.of_course (state.sweep_course catalog)
  have settled := settle_turn catalog (state.sweep catalog)
  have counted : SameTurn ((state.sweep catalog).settle catalog) (state.handedBack catalog) :=
    ⟨rfl, rfl⟩
  exact (swept.trans settled).trans counted

/-! Passes -/

/-- The resolution of links leaves the turn alone. -/
theorem resolveLinks_turn (catalog : Catalog) (links : Nat) (state : GameState) (resolved : Nat) :
    SameTurn state (resolveLinks catalog links state resolved).1 := by
  refine resolveLinks_keeps (SameTurn state) ?_ links resolved (.refl state)
  intro before link chain same _ _
  have popped : SameTurn before { before with chain := chain } := ⟨rfl, rfl⟩
  exact (same.trans popped).trans (.of_course (resolveLink_course { before with chain := chain } catalog link))

theorem resolveChain_turn (state : GameState) (catalog : Catalog) :
    SameTurn state (state.resolveChain catalog) := by
  have begun : SameTurn state { state with chain := state.chain.beginResolving } := ⟨rfl, rfl⟩
  have drained : SameTurn state (state.drained catalog).1 :=
    begun.trans (resolveLinks_turn catalog _ _ 0)
  have told : SameTurn (state.drained catalog).1 ({ (state.drained catalog).1 with
      chain := .idle (state.drained catalog).1.turnPlayer }.record
        (.chainResolved (state.drained catalog).2)) := ⟨rfl, rfl⟩
  rw [resolveChain_eq]
  exact (drained.trans told).trans (.closeWindow _)

theorem passChain_turn (passed : state.passChain rules player = .ok next) :
    SameTurn state next := by
  obtain ⟨outcome, chain, _, rfl⟩ := passChain_eq_ok.mp passed
  have told : SameTurn state ({ state with chain := chain }.record (.priorityPassed player)) :=
    ⟨rfl, rfl⟩
  split
  · exact told.trans (resolveChain_turn _ rules.catalog)
  · exact told

theorem passWindow_turn {window : ResponseWindow}
    (passed : state.passWindow catalog player window = .ok next) : SameTurn state next := by
  obtain ⟨_, remaining, _, same⟩ := passWindow_eq_ok passed
  have told : SameTurn state
      ({ state with window := some remaining }.record (.priorityPassed player)) := ⟨rfl, rfl⟩
  rcases same with rfl | rfl
  · exact told.trans (.closeWindow _)
  · obtain ⟨left, _, moved⟩ := advanceWindow_eq catalog maxPasses
      ({ state with window := some remaining }.record (.priorityPassed player))
    rw [moved]
    have advanced : SameTurn state { ({ state with window := some remaining } : GameState).record
      (.priorityPassed player) with window := left } := ⟨rfl, rfl⟩
    exact advanced.trans (.announceClosing _)

/-- A pass leaves the turn alone. -/
theorem passPriority_turn (passed : state.passPriority rules player = .ok next) :
    SameTurn state next := by
  rw [passPriority.eq_def] at passed
  split at passed
  · split at passed
    · exact passWindow_turn passed
    · simp at passed
  · exact passChain_turn passed

/-! Whole steps -/

/-- An activation leaves the turn alone. -/
theorem activate_turn {card : InstanceId} {index : Nat} {targets paid : List InstanceId}
    (activated : state.activate catalog player card index targets paid = .ok next) :
    SameTurn state next := by
  obtain ⟨_, _, _, placed, places, payed, pays, _, _, _, pushed, rfl⟩ :=
    activate_eq_ok.mp activated
  obtain ⟨_, rfl⟩ := pushLink_eq_ok.mp pushed
  have ready := ((Frame.record state (.effectActivated card index player)).trans
    (applyChanges_edits places).frame).trans (applyChanges_edits pays).frame
  have linked (link : ChainLink) :
      SameTurn payed ((payed.noteActivation card index).linked link) := ⟨rfl, rfl⟩
  exact ((SameTurn.of_course ready.toCourse).trans (linked _)).trans
    (.of_course (sweep_course _ catalog))

/-- A turn that begins is counted once. -/
theorem startTurn_turn (state : GameState) (rules : Rules) :
    (state.startTurn rules).turn = state.turn + 1 ∧
      (state.startTurn rules).turnPlayer = state.nextPlayer := by
  have swept := (drawn_frame state rules).toCourse.trans
    (sweep_course (state.drawn rules) rules.catalog)
  have begun : ((state.passTurn state.nextPlayer).enterPhase .draw).turn = state.turn + 1 ∧
      ((state.passTurn state.nextPlayer).enterPhase .draw).turnPlayer = state.nextPlayer :=
    ⟨rfl, rfl⟩
  rw [← swept.turn, ← swept.turnPlayer] at begun
  rw [startTurn_eq]
  generalize (state.drawn rules).sweep rules.catalog = drawn at begun ⊢
  split
  · exact begun
  · exact begun

/-- At the end of a turn the duel ends in it or goes on with the next one. -/
theorem endTurn_turn (ended : state.endTurn rules = .ok next) :
    SameTurn state next ∨ next.turn = state.turn + 1 := by
  obtain ⟨_, rfl⟩ := (endTurn_eq_ok state rules).mp ended
  have swept := (wound_frame state rules).toCourse.trans
    (sweep_course (state.wound rules) rules.catalog)
  have same : SameTurn state ((state.wound rules).sweep rules.catalog) :=
    ⟨swept.turn, swept.turnPlayer⟩
  split
  · exact .inl same
  · right
    rw [(startTurn_turn _ rules).1, same.turn]

/-- Only the end of a turn leaves it, and then the next turn begins. -/
theorem dispatch_turn {action : Action} (acted : state.dispatch rules player action = .ok next) :
    SameTurn state next ∨ action = .endTurn ∧ next.turn = state.turn + 1 := by
  cases action with
  | forfeit =>
    obtain rfl := Except.ok.inj acted
    exact .inl (.of_course (state.endDuel_course _))
  | passPriority => exact .inl (passPriority_turn acted)
  | activateEffect card index targets paid => exact .inl (activate_turn (ite_error_eq_ok.mp acted).2)
  | declareAttack attacker target =>
    obtain ⟨_, _, _, _, _, rfl⟩ := declareAttack_eq_ok.mp acted
    exact .inl ⟨rfl, rfl⟩
  | normalSummon card tributes => exact .inl (.of_course (normalSummon_frame acted).toCourse)
  | setCard card tributes => exact .inl (.of_course (setCard_frame acted).toCourse)
  | specialSummon card => exact .inl (.of_course (specialSummon_frame acted).toCourse)
  | changePosition card => exact .inl (.of_course (changePosition_frame acted).toCourse)
  | enterBattlePhase =>
    obtain ⟨_, _, entered⟩ := bind_eq_ok.mp acted
    obtain ⟨_, _, rfl⟩ := enterBattlePhase_eq_ok.mp entered
    exact .inl ⟨rfl, rfl⟩
  | enterMainPhase2 =>
    obtain ⟨_, _, entered⟩ := bind_eq_ok.mp acted
    obtain ⟨_, rfl⟩ := enterMainPhase2_eq_ok.mp entered
    exact .inl ⟨rfl, rfl⟩
  | endTurn =>
    obtain ⟨_, _, ended⟩ := bind_eq_ok.mp acted
    exact (endTurn_turn ended).imp_right fun begun => ⟨rfl, begun⟩

/-- Only the end of a turn leads to another turn. -/
theorem step_turn {action : Action} (stepped : state.step rules player action = .ok next) :
    SameTurn state next ∨ action = .endTurn ∧ next.turn = state.turn + 1 := by
  obtain ⟨_, acted, dispatched, rfl⟩ := step_eq_ok.mp stepped
  have back := acted.handedBack_turn rules.catalog
  rcases dispatch_turn dispatched with same | ⟨ends, begun⟩
  · exact .inl (same.trans back)
  · exact .inr ⟨ends, back.turn.trans begun⟩

end GameState

namespace DuelSetup

variable {setup : DuelSetup} {requests : List Request} {duel : Duel}

/-- A duel that is set up is in its first turn. -/
theorem build_turn (built : setup.build = .ok duel) : duel.state.turn = 1 := by
  obtain ⟨_, _, _, dealt, hands, rfl⟩ := build_eq_ok.mp built
  have before := setup.withDecks_frame.trans (dealHands_edits hands).frame
  have settled := GameState.settle_turn setup.rules.catalog (dealt.startTurn setup.rules)
  show ((dealt.startTurn setup.rules).settle setup.rules.catalog).turn = 1
  rw [settled.turn, (GameState.startTurn_turn dealt setup.rules).1, before.turn]
  rfl

/-- The counter of turns comes round to zero only after more than four billion requests. -/
theorem Run.turn_bounds (run : setup.Run requests duel) (short : requests.length + 1 < UInt32.size) :
    0 < duel.state.turn.toNat ∧ duel.state.turn.toNat ≤ requests.length + 1 := by
  induction run with
  | start built => simp [build_turn built]
  | next earlier served ih =>
    rename_i requests request duel after report
    rw [List.length_append, List.length_singleton] at short ⊢
    obtain ⟨positive, bounded⟩ := ih (by omega)
    obtain ⟨_, player, action, stepped, _⟩ := Duel.serve_eq_ok served
    rcases GameState.step_turn stepped with same | ⟨_, begun⟩
    · rw [same.turn]
      omega
    · rw [begun, UInt32.toNat_add, show (1 : UInt32).toNat = 1 from rfl,
        Nat.mod_eq_of_lt (show _ < UInt32.size by omega)]
      omega

end DuelSetup

end CardDuel
