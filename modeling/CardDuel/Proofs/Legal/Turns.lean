/-
This file compares the other actions that are listed with those that are accepted: turning monsters,
attacks, leaving a phase and passing.
-/

import CardDuel.Proofs.Flow.Order
import CardDuel.Proofs.Legal.Changes
import CardDuel.Proofs.Legal.Summons

namespace CardDuel

namespace GameState

variable {state next : GameState} {config : DuelConfig} {rules : Rules} {player : Seat}
  {card : InstanceId} {action : Action}

/-! Monsters on the field -/

theorem positionChange_eq_ok {position : Position}
    (checked : state.positionChange player card = .ok position) :
    ∃ found, (state.card? card = some found ∧ found.owner = player) ∧ found.zone = .monsters ∧
      position.isUpright = true := by
  simp only [positionChange, bind_eq_ok, ownCard_eq_ok, guard_eq_ok, pure_eq_ok, ne_eq,
    not_not] at checked
  obtain ⟨found, owned, standing, _, _, _, rfl⟩ := checked
  refine ⟨found, owned, standing, ?_⟩
  split <;> rfl

/-- The changes of position are listed for the monsters that can be turned. -/
theorem mem_positionActions :
    action ∈ state.positionActions player ↔ ∃ card ∈ (state.zones player).cards .monsters,
      (∃ position, state.positionChange player card = .ok position) ∧
        action = .changePosition card := by
  simp only [positionActions, List.mem_map, List.mem_filter, isOk_iff, and_assoc, @eq_comm _ action]

/-- Every change of position that is listed is accepted. -/
theorem positionActions_ok (may : state.MayAct player) (main : state.phase.isMain = true)
    (listed : action ∈ state.positionActions player) :
    ∃ next, state.dispatch rules player action = .ok next := by
  obtain ⟨card, _, ⟨position, checked⟩, rfl⟩ := mem_positionActions.mp listed
  obtain ⟨found, ⟨known, _⟩, standing, _⟩ := positionChange_eq_ok checked
  have field : found.isOnField = true := by
    rw [CardInstance.isOnField, standing]
    rfl
  obtain ⟨turned, made⟩ := changePosition_ok known field position
  exact ⟨_, changePosition_eq_ok.mpr ⟨may, main, position, checked, turned, made, rfl⟩⟩

/-- A change of position that succeeds is listed. -/
theorem changePosition_mem (agrees : state.Agrees config)
    (changed : state.changePosition player card = .ok next) :
    .changePosition card ∈ state.positionActions player := by
  obtain ⟨_, _, position, checked, _⟩ := changePosition_eq_ok.mp changed
  obtain ⟨found, ⟨known, own⟩, standing, _⟩ := positionChange_eq_ok checked
  have member := (agrees.listed player .monsters card).mpr ⟨found, known, own, standing⟩
  exact mem_positionActions.mpr ⟨card, member, ⟨position, checked⟩, rfl⟩

/-! Attacks -/

theorem validateAttack_eq_ok {target : Option InstanceId}
    (checked : state.validateAttack player card target = .ok ()) :
    ∃ found, (state.card? card = some found ∧ found.owner = player) ∧ found.zone = .monsters ∧
      state.validateTarget player target = .ok () := by
  simp only [validateAttack, bind_eq_ok, ownCard_eq_ok, guard_eq_ok, ne_eq, not_not] at checked
  obtain ⟨found, owned, standing, _, _, aimed⟩ := checked
  exact ⟨found, owned, standing, aimed⟩

/-- A target that can be attacked is listed. -/
theorem validateTarget_mem (agrees : state.Agrees config) {target : Option InstanceId}
    (aimed : state.validateTarget player target = .ok ()) :
    target ∈ state.attackTargets player := by
  rw [attackTargets.eq_def]
  cases target with
  | none =>
    simp only [validateTarget, ite_ok_error_eq_ok, List.isEmpty_iff] at aimed
    rw [aimed.1]
    exact List.mem_singleton_self none
  | some target =>
    simp only [validateTarget, bind_eq_ok, knownCard_eq_ok] at aimed
    obtain ⟨found, known, rest⟩ := aimed
    have facing : found.owner ≠ player ∧ found.zone = .monsters := by
      split at rest
      · simp [throw_eq_ok] at rest
      · next good => simpa using good
    obtain ⟨other, standing⟩ := facing
    have owner : found.owner = player.opponent := by
      cases side : found.owner <;> cases player <;> simp_all [Seat.opponent]
    have member : target ∈ state.defenders player :=
      (agrees.listed player.opponent .monsters target).mpr ⟨found, known, owner, standing⟩
    cases defenders : state.defenders player with
    | nil => simp [defenders] at member
    | cons first rest => exact List.mem_map.mpr ⟨target, defenders ▸ member, rfl⟩

/-- The attacks are listed for the monsters that can attack. -/
theorem mem_attackActions :
    action ∈ state.attackActions player ↔ ∃ attacker ∈ (state.zones player).cards .monsters,
      ∃ target ∈ state.attackTargets player,
        state.validateAttack player attacker target = .ok () ∧
          action = .declareAttack attacker target := by
  simp only [attackActions, List.mem_flatMap, List.mem_map, List.mem_filter, isOk_iff,
    Unique.exists_iff, and_assoc, @eq_comm _ action]

/-- Every attack that is listed is accepted. -/
theorem attackActions_ok (may : state.MayAct player) (fights : state.phase = .battle)
    (listed : action ∈ state.attackActions player) :
    ∃ next, state.dispatch rules player action = .ok next := by
  obtain ⟨attacker, _, target, _, checked, rfl⟩ := mem_attackActions.mp listed
  obtain ⟨found, ⟨known, _⟩, _⟩ := validateAttack_eq_ok checked
  exact ⟨_, declareAttack_eq_ok.mpr ⟨may, fights, checked, found, known, rfl⟩⟩

/-- A declared attack that succeeds is listed. -/
theorem declareAttack_mem (agrees : state.Agrees config) {target : Option InstanceId}
    (declared : state.declareAttack player card target = .ok next) :
    .declareAttack card target ∈ state.attackActions player := by
  obtain ⟨_, _, checked, _⟩ := declareAttack_eq_ok.mp declared
  obtain ⟨found, ⟨known, own⟩, standing, aimed⟩ := validateAttack_eq_ok checked
  have member := (agrees.listed player .monsters card).mpr ⟨found, known, own, standing⟩
  exact mem_attackActions.mpr ⟨card, member, target, validateTarget_mem agrees aimed, checked, rfl⟩

/-! Phases -/

/-- The ways to leave a phase are listed phase by phase. -/
theorem mem_phaseActions :
    action ∈ state.phaseActions config ↔
      (action = .enterBattlePhase ∧ state.phase = .main1 ∧
        (state.turn > 1 ∨ config.firstTurnBattle = true)) ∨
      (action = .enterMainPhase2 ∧ state.phase = .battle) ∨
      (action = .endTurn ∧ state.phase.isPlayable = true) := by
  rw [phaseActions.eq_def]
  cases phase : state.phase <;> simp [Phase.isPlayable]
  by_cases later : 1 < state.turn
  · simp [later]
  · cases config.firstTurnBattle <;> simp [later]

/-- Every way to leave a phase that is listed is accepted. -/
theorem phaseActions_ok (may : state.MayAct player)
    (listed : action ∈ state.phaseActions rules.config) :
    ∃ next, state.dispatch rules player action = .ok next := by
  have opened : state.openTurn player = .ok () := openTurn_eq_ok.mpr may
  rcases mem_phaseActions.mp listed with ⟨rfl, main, late⟩ | ⟨rfl, fights⟩ | ⟨rfl, playable⟩
  · refine ⟨_, bind_eq_ok.mpr ⟨(), opened, enterBattlePhase_eq_ok.mpr ⟨main, ?_, rfl⟩⟩⟩
    intro first
    rcases late with later | allowed
    · simp [first] at later
    · exact allowed
  · exact ⟨_, bind_eq_ok.mpr ⟨(), opened, enterMainPhase2_eq_ok.mpr ⟨fights, rfl⟩⟩⟩
  · exact ⟨_, bind_eq_ok.mpr ⟨(), opened, (endTurn_eq_ok state rules).mpr ⟨playable, rfl⟩⟩⟩

/-! All actions of a turn -/

theorem mem_turnActions :
    action ∈ state.turnActions rules player ↔
      (state.phase.isMain = true ∧ (action ∈ state.allHandActions rules player ∨
        action ∈ state.positionActions player)) ∨
      (state.phase = .battle ∧ action ∈ state.attackActions player) ∨
      action ∈ state.phaseActions rules.config := by
  simp only [turnActions, List.mem_append, List.mem_ite_nil_right, allHandActions, or_assoc]

/-- Every action of a turn that is listed is accepted. -/
theorem turnActions_ok (agrees : state.Agrees rules.config) (may : state.MayAct player)
    (listed : action ∈ state.turnActions rules player) :
    ∃ next, state.dispatch rules player action = .ok next := by
  rcases mem_turnActions.mp listed with ⟨main, hand | turned⟩ | ⟨fights, attack⟩ | leaves
  · obtain ⟨card, _, member⟩ := List.mem_flatMap.mp hand
    exact handActions_ok agrees may main member
  · exact positionActions_ok may main turned
  · exact attackActions_ok may fights attack
  · exact phaseActions_ok may leaves

/-! Passes -/

/-- A pass on a chain is accepted from the player who has priority. -/
theorem chain_pass_ok_iff {chain : Chain} {rule : PassRule} :
    (∃ result, chain.pass player rule = .ok result) ↔
      chain.status = .awaitingResponse ∧ player = chain.priority := by
  simp only [Chain.pass, ite_error_eq_ok, not_not, exists_and_left]
  apply and_congr_right
  intro _
  refine and_iff_left ?_
  cases rule with
  | consecutive =>
    dsimp only
    split
    · exact ⟨_, rfl⟩
    · exact ⟨_, rfl⟩
  | singleFlip => exact ⟨_, rfl⟩

/-- A pass in a window is accepted from its holder. -/
theorem window_pass_ok_iff {window : ResponseWindow} :
    (∃ result, window.pass player = .ok result) ↔ player = window.holder := by
  simp only [ResponseWindow.pass, ite_error_eq_ok, not_not, exists_and_left]
  refine and_iff_left ?_
  split
  · exact ⟨_, rfl⟩
  · exact ⟨_, rfl⟩

theorem passChain_ok_iff :
    (∃ next, state.passChain rules player = .ok next) ↔
      state.chain.status = .awaitingResponse ∧ player = state.chain.priority := by
  rw [← @chain_pass_ok_iff player state.chain rules.config.passRule]
  constructor
  · rintro ⟨next, passed⟩
    obtain ⟨outcome, chain, accepted, _⟩ := passChain_eq_ok.mp passed
    exact ⟨(outcome, chain), accepted⟩
  · rintro ⟨⟨outcome, chain⟩, accepted⟩
    exact ⟨_, passChain_eq_ok.mpr ⟨outcome, chain, accepted, rfl⟩⟩

theorem passWindow_ok_iff {catalog : Catalog} {window : ResponseWindow} :
    (∃ next, state.passWindow catalog player window = .ok next) ↔ player = window.holder := by
  constructor
  · rintro ⟨next, passed⟩
    exact (passWindow_eq_ok passed).1
  · intro own
    obtain ⟨⟨outcome, remaining⟩, accepted⟩ := window_pass_ok_iff.mpr own
    simp only [passWindow, bind_eq_ok]
    cases outcome with
    | closed => exact ⟨_, (.closed, remaining), accepted, rfl⟩
    | priorityTo seat => exact ⟨_, (.priorityTo seat, remaining), accepted, rfl⟩

/-- Exactly the player who is asked for an answer can pass. -/
theorem passPriority_ok_iff (orderly : state.Orderly) :
    (∃ next, state.passPriority rules player = .ok next) ↔
      state.canPass = true ∧ state.priorityHolder = player := by
  rw [passPriority.eq_def, canPass, priorityHolder, Chain.isEmpty]
  rcases orderly.chained with ⟨empty, _⟩ | ⟨linked, awaiting⟩
  · simp only [empty, List.isEmpty_nil, if_true]
    cases state.window with
    | none => simp
    | some window =>
      rw [passWindow_ok_iff]
      simp [eq_comm]
  · have nonempty : state.chain.links.isEmpty = false := by simpa using linked
    simp only [nonempty, Bool.false_eq_true, if_false]
    rw [passChain_ok_iff]
    simp [awaiting, eq_comm]

/-- The turn player holds the priority while nothing waits for an answer. -/
theorem MayAct.holds (orderly : state.Orderly) (may : state.MayAct player) :
    state.priorityHolder = player := by
  obtain ⟨idle, closed, _⟩ := isOpen_iff.mp may.quiet
  rw [priorityHolder, Chain.isEmpty, orderly.links_eq_nil idle, closed, may.turn]
  rfl

end GameState

end CardDuel
