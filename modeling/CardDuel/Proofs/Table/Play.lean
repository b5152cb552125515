/-
This file follows the cards through the actions of players: every accepted action is made of steps of
the cards.
-/

import CardDuel.Proofs.Dispatch
import CardDuel.Proofs.Table.Shift

namespace CardDuel

namespace GameState

variable {state next : GameState} {catalog : Catalog} {rules : Rules} {player : Seat}
  {card : InstanceId}

/-! Edits -/

/-- New stats and negations move no card. -/
theorem Still.withResults (state : GameState) {stats : List StatLine} {negated : List Bool}
    (allStats : stats.length = state.cards.length)
    (allNegated : negated.length = state.cards.length) :
    Still state (state.withResults stats negated) := by
  refine ⟨?_, fun _ => rfl⟩
  apply List.ext_getElem
  · simp [GameState.withResults, allStats, allNegated]
  · intro place inside _
    simp [GameState.withResults, CardInstance.standing, CardInstance.identity]

theorem length_statsUnder (state : GameState) (modifiers : List Modifier) :
    (state.statsUnder modifiers).length = state.cards.length := by
  have kept (stats : List StatLine) (ordered : List Modifier) :
      (ordered.foldl alterStats stats).length = stats.length := by
    induction ordered generalizing stats with
    | nil => rfl
    | cons modifier rest ih =>
      rw [List.foldl_cons, ih]
      exact List.length_modify ..
  rw [statsUnder, kept]
  simp

theorem length_flagsOf (state : GameState) (negated : List InstanceId) :
    (state.flagsOf negated).length = state.cards.length := by
  simp [flagsOf]

/-- A refresh moves no card. -/
theorem Still.refresh (state : GameState) (catalog : Catalog) :
    Still state (state.refresh catalog) := by
  have stored : Still state
      (state.withResults (state.recompute catalog).stats (state.recompute catalog).negated) :=
    .withResults state (state.length_statsUnder _) (state.length_flagsOf _)
  exact ⟨stored.standings, stored.zones⟩

/-- A destruction shifts at most one card. -/
theorem destroyMarked_shifts (state : GameState) (entry : InstanceId × Destruction) :
    Shifts state (state.destroyMarked entry) := by
  obtain ⟨card, cause⟩ := entry
  rw [destroyMarked]
  split
  · next moved =>
    exact ((Shifts.of_move moved).then_still (.record _ _)).then_still (.record _ _)
  · exact .of_still (.modifyCard state card _ fun _ => rfl)

/-- Edits only shift cards. -/
theorem Edits.shifts (edits : Edits state next) : Shifts state next := by
  induction edits with
  | refl => exact .refl state
  | tail _ edit ih =>
    refine ih.trans ?_
    cases edit with
    | change change made => exact Change.apply_shifts made
    | refresh catalog => exact .of_still (.refresh _ catalog)
    | destroy entry => exact destroyMarked_shifts _ entry
    | note event => exact .of_still (.record _ event)

/-! Sweeps and battles -/

theorem Still.endDuel (state : GameState) (result : GameResult) :
    Still state (state.endDuel result) := by
  rw [GameState.endDuel]
  split
  · exact .refl state
  · exact ⟨rfl, fun _ => rfl⟩

/-- The check for a loss moves no card. -/
theorem Still.checkLoss (state : GameState) : Still state state.checkLoss := by
  rw [GameState.checkLoss]
  split
  · exact .endDuel state _
  · exact .refl state

/-- A sweep only shifts cards. -/
theorem sweep_shifts (state : GameState) (catalog : Catalog) :
    Shifts state (state.sweep catalog) :=
  (state.destroyAllMarked_edits catalog).shifts.then_still (.checkLoss _)

/-- A link only shifts cards. -/
theorem resolveLink_shifts (state : GameState) (catalog : Catalog) (link : ChainLink) :
    Shifts state (state.resolveLink catalog link).1 :=
  (state.resolved_edits catalog link).shifts.then_still (.checkLoss _)

/-- A battle only shifts cards. -/
theorem fight_shifts (state : GameState) (catalog : Catalog) (attack : PendingAttack) :
    Shifts state (state.fight catalog attack) := by
  rcases state.fight_cases catalog attack with same | ⟨fought, edits, same⟩
  · rw [same]
    exact (state.revealTarget_edits catalog attack.target).shifts
  · rw [same]
    exact edits.shifts.trans (sweep_shifts fought catalog)

/-- An attack only shifts cards. -/
theorem resolveAttack_shifts (state : GameState) (catalog : Catalog) :
    Shifts state (state.resolveAttack catalog) := by
  rw [resolveAttack]
  split
  · exact .refl state
  · have cleared : Still state { state with pendingAttack := none } := ⟨rfl, fun _ => rfl⟩
    dsimp only
    split
    · exact (Shifts.of_still cleared).trans (fight_shifts _ catalog _)
    · exact (Shifts.of_still cleared).then_still (.record _ _)

/-! Turns -/

/-- A turn that is passed moves no card. -/
theorem Still.passTurn (state : GameState) (seat : Seat) : Still state (state.passTurn seat) := by
  refine ⟨?_, ?_⟩
  · simp only [GameState.passTurn, cards_record, List.map_map]
    rfl
  · intro other
    change ((state.players.map fun entry : PlayerState =>
      { entry with normalSummonUsed := false }).get other).zones = (state.players.get other).zones
    rw [PerSeat.get_map]

theorem Still.enterPhase (state : GameState) (phase : Phase) :
    Still state (state.enterPhase phase) := ⟨rfl, fun _ => rfl⟩

/-- The draw of a turn only shifts cards. -/
theorem drawForTurn_shifts (state : GameState) (seat : Seat) :
    Shifts state (state.drawForTurn seat) := by
  rw [drawForTurn]
  split
  · exact (Change.applyPossible_edits _ state).shifts
  · exact .of_still (.modifyPlayer state seat fun _ => rfl)

theorem drawn_shifts (state : GameState) (rules : Rules) : Shifts state (state.drawn rules) := by
  have begun := (Shifts.of_still (.passTurn state state.nextPlayer)).then_still
    (.enterPhase _ .draw)
  rw [drawn]
  split
  · exact begun.trans (drawForTurn_shifts _ _)
  · exact begun

/-- The start of a turn only shifts cards. -/
theorem startTurn_shifts (state : GameState) (rules : Rules) :
    Shifts state (state.startTurn rules) := by
  have swept := (drawn_shifts state rules).trans (sweep_shifts _ rules.catalog)
  rw [startTurn_eq]
  split
  · exact swept
  · exact (swept.then_still (.enterPhase _ .standby)).then_still (.enterPhase _ .main1)

theorem Still.expire (state : GameState) (duration : Duration) :
    Still state (state.expire duration) := ⟨rfl, fun _ => rfl⟩

/-- The end of a turn only shifts cards. -/
theorem wound_shifts (state : GameState) (rules : Rules) : Shifts state (state.wound rules) :=
  ((Shifts.of_still (.enterPhase state .ending)).trans
    (discardToLimit_edits _ state.turnPlayer rules.config.handLimit).shifts).then_still
      (.expire _ .endOfTurn)

theorem endTurn_shifts (ended : state.endTurn rules = .ok next) : Shifts state next := by
  obtain ⟨_, rfl⟩ := (endTurn_eq_ok state rules).mp ended
  have swept := (wound_shifts state rules).trans (sweep_shifts _ rules.catalog)
  split
  · exact swept
  · exact swept.trans (startTurn_shifts _ rules)

/-! Answers -/

theorem Still.linked (state : GameState) (link : ChainLink) : Still state (state.linked link) :=
  ⟨rfl, fun _ => rfl⟩

theorem Still.countedFor (paid : GameState) (trigger : TriggeredEffect) :
    Still paid (paid.countedFor trigger) := ⟨rfl, fun _ => rfl⟩

/-- A trigger that is put on the chain only shifts cards, by its cost. -/
theorem chainTrigger_shifts (state : GameState) (catalog : Catalog) (trigger : TriggeredEffect) :
    Shifts state (chainTrigger catalog state trigger) := by
  rcases chainTrigger_cases catalog state trigger with same | ⟨_, paid, _, pays, same⟩
  · rw [same]
    exact .refl state
  · rw [same]
    exact ((payTriggerCost_edits pays).shifts.then_still (.countedFor paid trigger)).then_still
      (.linked _ _)

/-- A loop of shifts only shifts cards. -/
theorem foldl_shifts {α : Type} {step : GameState → α → GameState}
    (each : ∀ state item, Shifts state (step state item)) (items : List α) (state : GameState) :
    Shifts state (items.foldl step state) := by
  refine List.foldlRecOn (motive := Shifts state) items step (.refl state) ?_
  intro before shifts item _
  exact shifts.trans (each before item)

/-- The cards are only shifted while triggers are gathered. -/
theorem gatherTriggers_shifts (state : GameState) (catalog : Catalog) :
    Shifts state (state.gatherTriggers catalog) := by
  have taken : Still state { state with pendingEvents := [] } := ⟨rfl, fun _ => rfl⟩
  have chained := foldl_shifts (fun state trigger => chainTrigger_shifts state catalog trigger)
    (({ state with pendingEvents := [] }.collectTriggers catalog state.pendingEvents).filter
      fun trigger => !trigger.optional) { state with pendingEvents := [] }
  exact ((Shifts.of_still taken).trans chained).then_still ⟨rfl, fun _ => rfl⟩

/-- No card is moved while a window looks for its holder. -/
theorem advanceWindow_still (catalog : Catalog) (passes : Nat) (state : GameState) :
    Still state (advanceWindow catalog passes state) := by
  obtain ⟨window, _, same⟩ := advanceWindow_eq catalog passes state
  rw [same]
  exact ⟨rfl, fun _ => rfl⟩

theorem Still.announceWindow (state : GameState) : Still state state.announceWindow := by
  rw [GameState.announceWindow]
  split
  · exact .record state _
  · exact .refl state

/-- An opened window only shifts cards. -/
theorem openWindow_shifts (state : GameState) (catalog : Catalog) :
    Shifts state (state.openWindow catalog) := by
  have gathered := gatherTriggers_shifts state catalog
  rw [openWindow]
  split
  · exact (gathered.then_still (advanceWindow_still catalog _ _)).then_still (.announceWindow _)
  · exact gathered.then_still (.announceWindow _)

theorem Still.closeWindow (state : GameState) : Still state state.closeWindow := by
  rw [GameState.closeWindow]
  split
  · exact ⟨rfl, fun _ => rfl⟩
  · exact .refl state

theorem Still.announceClosing (state : GameState) : Still state state.announceClosing := by
  rw [GameState.announceClosing]
  split
  · exact .record state _
  · exact .refl state

/-- Links one after the other only shift cards. -/
theorem resolveLinks_shifts (catalog : Catalog) (links : Nat) (state : GameState) (resolved : Nat) :
    Shifts state (resolveLinks catalog links state resolved).1 := by
  refine resolveLinks_keeps (Shifts state) ?_ links resolved (.refl state)
  intro before link chain shifts _ _
  have popped : Still before { before with chain := chain } := ⟨rfl, fun _ => rfl⟩
  exact (shifts.then_still popped).trans (resolveLink_shifts _ catalog link)

/-- A resolved chain only shifts cards. -/
theorem resolveChain_shifts (state : GameState) (catalog : Catalog) :
    Shifts state (state.resolveChain catalog) := by
  have begun : Still state { state with chain := state.chain.beginResolving } :=
    ⟨rfl, fun _ => rfl⟩
  have drained : Shifts state (state.drained catalog).1 :=
    (Shifts.of_still begun).trans (resolveLinks_shifts catalog _ _ 0)
  have idle : Still (state.drained catalog).1 ({ (state.drained catalog).1 with
      chain := .idle (state.drained catalog).1.turnPlayer }.record
        (.chainResolved (state.drained catalog).2)) := ⟨rfl, fun _ => rfl⟩
  rw [resolveChain_eq]
  exact (drained.then_still idle).then_still (.closeWindow _)

theorem passChain_shifts (passed : state.passChain rules player = .ok next) :
    Shifts state next := by
  obtain ⟨_, chain, _, rfl⟩ := passChain_eq_ok.mp passed
  have told : Still state ({ state with chain := chain }.record (.priorityPassed player)) :=
    ⟨rfl, fun _ => rfl⟩
  split
  · exact (Shifts.of_still told).trans (resolveChain_shifts _ _)
  · exact .of_still told

theorem passWindow_shifts {window : ResponseWindow}
    (passed : state.passWindow catalog player window = .ok next) : Shifts state next := by
  obtain ⟨_, remaining, _, same⟩ := passWindow_eq_ok passed
  have told : Still state
      ({ state with window := some remaining }.record (.priorityPassed player)) :=
    ⟨rfl, fun _ => rfl⟩
  rcases same with rfl | rfl
  · exact (Shifts.of_still told).then_still (.closeWindow _)
  · exact ((Shifts.of_still told).then_still (advanceWindow_still catalog maxPasses _)).then_still
      (.announceClosing _)

/-- Settling only shifts cards. -/
theorem settle_shifts (state : GameState) (catalog : Catalog) :
    Shifts state (state.settle catalog) := by
  refine settle_keeps (Shifts state) (Shifts state) ?_ (fun _ shifts => shifts) ?_ (.refl state)
  · intro last shifts _
    exact shifts.then_still ⟨rfl, fun _ => rfl⟩
  · intro before after shifts _ taken
    obtain ⟨_, ⟨_, rfl⟩ | ⟨_, _, rfl⟩⟩ := settleStep?_eq_some taken
    · exact shifts.trans (openWindow_shifts before catalog)
    · exact shifts.trans (resolveAttack_shifts before catalog)

/-! Actions -/

/-- A normal summon only shifts cards. -/
theorem normalSummon_shifts {config : DuelConfig} {tributes : List InstanceId} {isSet : Bool}
    (summoned : state.normalSummon config player card tributes isSet = .ok next) :
    Shifts state next := by
  obtain ⟨_, _, _, _, placed, made, rfl⟩ := normalSummon_eq_ok.mp summoned
  exact (applyChanges_edits made).shifts.then_still (.modifyPlayer placed player fun _ => rfl)

theorem setCard_shifts {config : DuelConfig} {tributes : List InstanceId}
    (placed : state.setCard config player card tributes = .ok next) : Shifts state next := by
  obtain ⟨_, _, ⟨_, summoned⟩ | ⟨_, _, _, _, _, made⟩⟩ := setCard_eq_ok.mp placed
  · exact normalSummon_shifts summoned
  · exact (applyChange_edits made).shifts

theorem specialSummon_shifts (summoned : state.specialSummon catalog player card = .ok next) :
    Shifts state next := by
  obtain ⟨_, _, _, made⟩ := specialSummon_eq_ok.mp summoned
  exact (applyChange_edits made).shifts

theorem changePosition_shifts (changed : state.changePosition player card = .ok next) :
    Shifts state next := by
  obtain ⟨_, _, _, _, turned, made, rfl⟩ := changePosition_eq_ok.mp changed
  have noted := Still.modifyCard turned card
    (fun found => { found with positionChanged := true }) fun _ => rfl
  have moved := (applyChange_edits made).shifts.then_still noted
  rw [turnedBy]
  split
  · exact moved.then_still (.record _ _)
  · exact moved

theorem declareAttack_shifts {target : Option InstanceId}
    (declared : state.declareAttack player card target = .ok next) : Shifts state next := by
  obtain ⟨_, _, _, _, _, rfl⟩ := declareAttack_eq_ok.mp declared
  have noted := Still.modifyCard state card
    (fun found => { found with hasAttacked := true }) fun _ => rfl
  exact (Shifts.of_still noted).then_still ⟨rfl, fun _ => rfl⟩

/-- An activation only shifts cards. -/
theorem activate_shifts {index : Nat} {targets paid : List InstanceId}
    (activated : state.activate catalog player card index targets paid = .ok next) :
    Shifts state next := by
  obtain ⟨_, _, _, placed, places, payed, pays, _, _, _, pushed, rfl⟩ :=
    activate_eq_ok.mp activated
  obtain ⟨_, rfl⟩ := pushLink_eq_ok.mp pushed
  have told := Shifts.of_still (.record state (.effectActivated card index player))
  have counted : Still payed (payed.noteActivation card index) := ⟨rfl, fun _ => rfl⟩
  exact (((told.trans (applyChanges_edits places).shifts).trans
    (applyChanges_edits pays).shifts).then_still counted).trans
      ((Shifts.of_still (.linked _ _)).trans (sweep_shifts _ catalog))

/-- A pass only shifts cards. -/
theorem passPriority_shifts (passed : state.passPriority rules player = .ok next) :
    Shifts state next := by
  rw [passPriority.eq_def] at passed
  split at passed
  · split at passed
    · exact passWindow_shifts passed
    · simp at passed
  · exact passChain_shifts passed

/-- Every action moves the cards in steps. -/
theorem dispatch_shifts {action : Action}
    (acted : state.dispatch rules player action = .ok next) : Shifts state next := by
  cases action with
  | forfeit =>
    obtain rfl := Except.ok.inj acted
    exact .of_still (.endDuel state _)
  | passPriority => exact passPriority_shifts acted
  | activateEffect card index targets paid => exact activate_shifts (ite_error_eq_ok.mp acted).2
  | declareAttack attacker target => exact declareAttack_shifts acted
  | normalSummon card tributes => exact normalSummon_shifts acted
  | setCard card tributes => exact setCard_shifts acted
  | specialSummon card => exact specialSummon_shifts acted
  | changePosition card => exact changePosition_shifts acted
  | enterBattlePhase =>
    obtain ⟨_, _, entered⟩ := bind_eq_ok.mp acted
    obtain ⟨_, _, rfl⟩ := enterBattlePhase_eq_ok.mp entered
    exact .of_still (.enterPhase state .battle)
  | enterMainPhase2 =>
    obtain ⟨_, _, entered⟩ := bind_eq_ok.mp acted
    obtain ⟨_, rfl⟩ := enterMainPhase2_eq_ok.mp entered
    exact .of_still (.enterPhase state .main2)
  | endTurn =>
    obtain ⟨_, _, ended⟩ := bind_eq_ok.mp acted
    exact endTurn_shifts ended

theorem handedBack_shifts (state : GameState) (catalog : Catalog) :
    Shifts state (state.handedBack catalog) :=
  ((sweep_shifts state catalog).trans (settle_shifts _ catalog)).then_still ⟨rfl, fun _ => rfl⟩

/-- A whole step moves the cards in steps. -/
theorem step_shifts {action : Action} (stepped : state.step rules player action = .ok next) :
    Shifts state next := by
  obtain ⟨_, acted, dispatched, rfl⟩ := step_eq_ok.mp stepped
  exact (dispatch_shifts dispatched).trans (handedBack_shifts acted rules.catalog)

end GameState

end CardDuel
