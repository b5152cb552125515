/-
This file shows that the list of a player's actions is exact: what is listed is accepted, and what is
accepted is listed up to the order in which cards are named.
-/

import CardDuel.Proofs.Flow.Turn
import CardDuel.Proofs.Legal.Distinct

namespace CardDuel

namespace GameState

variable {state next : GameState} {rules : Rules} {player : Seat} {action : Action}

/--
This tells that two actions differ at most in the order of the tributes, of the cards that pay the
cost, and of the targets of each description.
-/
inductive Reordered (state : GameState) (catalog : Catalog) : Action → Action → Prop where
  | same (action : Action) : Reordered state catalog action action
  | activation {card : InstanceId} {index : Nat} {targets others paid named : List InstanceId}
      (aims : SameTargets (state.targetSpecs catalog card index) targets others)
      (pays : paid.Perm named) :
      Reordered state catalog (.activateEffect card index targets paid)
        (.activateEffect card index others named)
  | summon {card : InstanceId} {tributes others : List InstanceId}
      (offers : tributes.Perm others) :
      Reordered state catalog (.normalSummon card tributes) (.normalSummon card others)
  | set {card : InstanceId} {tributes others : List InstanceId} (offers : tributes.Perm others) :
      Reordered state catalog (.setCard card tributes) (.setCard card others)

/-- Only the holder of the priority has a list, with passes, activations and actions of the turn. -/
theorem mem_legalActions :
    action ∈ state.legalActions rules player ↔
      state.outcome = none ∧ state.priorityHolder = player ∧
        (state.canPass = true ∧ action = .passPriority ∨
          action ∈ state.legalActivations rules.catalog player ∨
          state.MayAct player ∧ action ∈ state.turnActions rules player) := by
  have may : (state.isOpen && player = state.turnPlayer) = true ↔ state.MayAct player := by
    rw [Bool.and_eq_true, decide_eq_true_eq]
    constructor
    · rintro ⟨quiet, turn⟩
      exact ⟨turn, quiet⟩
    · rintro ⟨turn, quiet⟩
      exact ⟨quiet, turn⟩
  rw [legalActions]
  by_cases refused : state.outcome.isSome ∨ state.priorityHolder ≠ player
  · rw [if_pos refused]
    constructor
    · intro listed
      exact absurd listed List.not_mem_nil
    · rintro ⟨running, holds, _⟩
      simp [running, holds] at refused
  · rw [if_neg refused]
    simp only [not_or, Bool.not_eq_true, Option.isSome_eq_false_iff, Option.isNone_iff_eq_none,
      ne_eq, not_not] at refused
    simp only [List.mem_append, List.mem_ite_nil_right, List.mem_singleton, may, refused,
      true_and, or_assoc]

/-- Every action that is listed is accepted. -/
theorem legalActions_ok (agrees : state.Agrees rules.config) (orderly : state.Orderly)
    (listed : action ∈ state.legalActions rules player) :
    ∃ next, state.dispatch rules player action = .ok next := by
  obtain ⟨_, holds, ⟨waits, rfl⟩ | activates | ⟨may, acts⟩⟩ := mem_legalActions.mp listed
  · exact (passPriority_ok_iff orderly).mpr ⟨waits, holds⟩
  · obtain ⟨card, index, targets, paid, rfl, next, activated⟩ :=
      legalActivations_ok agrees orderly activates
    exact ⟨next, ite_error_eq_ok.mpr ⟨not_not.mpr holds, activated⟩⟩
  · exact turnActions_ok agrees may acts

/-- A battle phase that is accepted is listed unless the counter of turns is zero. -/
theorem enterBattlePhase_mem {config : DuelConfig}
    (entered : state.enterBattlePhase config = .ok next) (counted : state.turn ≠ 0) :
    .enterBattlePhase ∈ state.phaseActions config := by
  obtain ⟨main, early, _⟩ := enterBattlePhase_eq_ok.mp entered
  refine mem_phaseActions.mpr (.inl ⟨rfl, main, ?_⟩)
  by_cases first : state.turn = 1
  · exact .inr (early first)
  · left
    have positive : state.turn.toNat ≠ 0 := fun zero => counted (UInt32.toNat_inj.mp zero)
    have later : state.turn.toNat ≠ 1 := fun one => first (UInt32.toNat_inj.mp one)
    rw [gt_iff_lt, UInt32.lt_iff_toNat_lt]
    show 1 < state.turn.toNat
    omega

/-! What the player who may act finds in the list -/

section MayAct

variable {listed : Action}

/-- An action of the turn is legal for the player who may act. -/
theorem MayAct.lists (may : state.MayAct player) (orderly : state.Orderly) (running : state.outcome = none)
    (acts : listed ∈ state.turnActions rules player) : listed ∈ state.legalActions rules player :=
  mem_legalActions.mpr ⟨running, may.holds orderly, .inr (.inr ⟨may, acts⟩)⟩

/-- An action of a hand is legal in a main phase. -/
theorem MayAct.lists_main (may : state.MayAct player) (orderly : state.Orderly)
    (running : state.outcome = none) (main : state.phase.isMain = true)
    (acts : listed ∈ state.allHandActions rules player ∨ listed ∈ state.positionActions player) :
    listed ∈ state.legalActions rules player :=
  may.lists orderly running (mem_turnActions.mpr (.inl ⟨main, acts⟩))

/-- A change of the phase is legal for the player who may act. -/
theorem MayAct.lists_phase (may : state.MayAct player) (orderly : state.Orderly)
    (running : state.outcome = none) (leaves : listed ∈ state.phaseActions rules.config) :
    listed ∈ state.legalActions rules player :=
  may.lists orderly running (mem_turnActions.mpr (.inr (.inr leaves)))

end MayAct

/-! Actions that are accepted -/

section Accepted

variable {card : InstanceId} {index : Nat} {targets paid : List InstanceId}

/-- An activation that is accepted is listed up to the order of targets and of what pays for it. -/
theorem activateEffect_listed (agrees : state.Agrees rules.config) (running : state.outcome = none)
    (acted : state.dispatch rules player (.activateEffect card index targets paid) = .ok next) :
    ∃ listed ∈ state.legalActions rules player,
      state.Reordered rules.catalog (.activateEffect card index targets paid) listed := by
  obtain ⟨holds, activated⟩ := ite_error_eq_ok.mp acted
  obtain ⟨others, named, aims, pays, member⟩ := activate_mem agrees activated
  have listed : .activateEffect card index others named ∈ state.legalActions rules player :=
    mem_legalActions.mpr ⟨running, not_not.mp holds, .inr (.inl member)⟩
  exact ⟨_, listed, .activation aims pays⟩

/-- A card that is summoned, set or turned in a main phase is listed up to the order of tributes. -/
theorem main_listed (card : InstanceId) (tributes : List InstanceId) (agrees : state.Agrees rules.config)
    (orderly : state.Orderly) (running : state.outcome = none) (acted : state.dispatch rules player action = .ok next)
    (places : action = .normalSummon card tributes ∨ action = .setCard card tributes ∨
      action = .specialSummon card ∨ action = .changePosition card) :
    ∃ listed ∈ state.legalActions rules player, state.Reordered rules.catalog action listed := by
  rcases places with rfl | rfl | rfl | rfl
  · obtain ⟨may, main, _⟩ := normalSummon_eq_ok.mp acted
    obtain ⟨others, offers, member, _⟩ := normalSummon_mem agrees acted
    exact ⟨_, may.lists_main orderly running main (.inl member), .summon offers⟩
  · obtain ⟨may, main⟩ := setCard_open acted
    obtain ⟨others, offers, member⟩ := setCard_mem agrees acted
    exact ⟨_, may.lists_main orderly running main (.inl member), .set offers⟩
  · obtain ⟨may, main, _⟩ := specialSummon_eq_ok.mp acted
    have member := specialSummon_mem agrees acted
    exact ⟨_, may.lists_main orderly running main (.inl member), .same _⟩
  · obtain ⟨may, main, _⟩ := changePosition_eq_ok.mp acted
    have member := changePosition_mem agrees acted
    exact ⟨_, may.lists_main orderly running main (.inr member), .same _⟩

theorem declareAttack_listed {attacker : InstanceId} {target : Option InstanceId}
    (agrees : state.Agrees rules.config) (orderly : state.Orderly) (running : state.outcome = none)
    (acted : state.dispatch rules player (.declareAttack attacker target) = .ok next) :
    .declareAttack attacker target ∈ state.legalActions rules player := by
  obtain ⟨may, fights, _⟩ := declareAttack_eq_ok.mp acted
  have member := declareAttack_mem agrees acted
  exact may.lists orderly running (mem_turnActions.mpr (.inr (.inl ⟨fights, member⟩)))

/-- A change of phase that is accepted is listed, except for a battle phase in turn zero. -/
theorem phase_listed (orderly : state.Orderly) (running : state.outcome = none)
    (acted : state.dispatch rules player action = .ok next)
    (leaves : action = .enterBattlePhase ∨ action = .enterMainPhase2 ∨ action = .endTurn) :
    action ∈ state.legalActions rules player ∨ action = .enterBattlePhase ∧ state.turn = 0 := by
  rcases leaves with rfl | rfl | rfl
  · obtain ⟨_, opened, entered⟩ := bind_eq_ok.mp acted
    have may := openTurn_eq_ok.mp opened
    by_cases counted : state.turn = 0
    · exact .inr ⟨rfl, counted⟩
    · exact .inl (may.lists_phase orderly running (enterBattlePhase_mem entered counted))
  · obtain ⟨_, opened, entered⟩ := bind_eq_ok.mp acted
    have may := openTurn_eq_ok.mp opened
    obtain ⟨fights, _⟩ := enterMainPhase2_eq_ok.mp entered
    exact .inl (may.lists_phase orderly running (mem_phaseActions.mpr (.inr (.inl ⟨rfl, fights⟩))))
  · obtain ⟨_, opened, ended⟩ := bind_eq_ok.mp acted
    have may := openTurn_eq_ok.mp opened
    obtain ⟨playable, _⟩ := (endTurn_eq_ok state rules).mp ended
    exact .inl (may.lists_phase orderly running (mem_phaseActions.mpr (.inr (.inr ⟨rfl, playable⟩))))

end Accepted

/-- Every action that is accepted, apart from giving up, is listed up to the order of cards. -/
theorem dispatch_listed (agrees : state.Agrees rules.config) (orderly : state.Orderly)
    (running : state.outcome = none) (acted : state.dispatch rules player action = .ok next)
    (stays : action ≠ .forfeit) :
    (∃ listed ∈ state.legalActions rules player, state.Reordered rules.catalog action listed) ∨
      action = .enterBattlePhase ∧ state.turn = 0 := by
  cases action with
  | forfeit => exact absurd rfl stays
  | passPriority =>
    obtain ⟨waits, holds⟩ := (passPriority_ok_iff orderly).mp ⟨next, acted⟩
    have listed : .passPriority ∈ state.legalActions rules player :=
      mem_legalActions.mpr ⟨running, holds, .inl ⟨waits, rfl⟩⟩
    exact .inl ⟨_, listed, .same _⟩
  | activateEffect card index targets paid => exact .inl (activateEffect_listed agrees running acted)
  | declareAttack attacker target =>
    exact .inl ⟨_, declareAttack_listed agrees orderly running acted, .same _⟩
  | normalSummon card tributes | setCard card tributes =>
    exact .inl (main_listed card tributes agrees orderly running acted (by simp))
  | specialSummon card | changePosition card =>
    exact .inl (main_listed card [] agrees orderly running acted (by simp))
  | enterBattlePhase | enterMainPhase2 | endTurn =>
    rcases phase_listed orderly running acted (by simp) with listed | early
    · exact .inl ⟨_, listed, .same _⟩
    · exact .inr early

end GameState

/-- A running duel performs what its state carries out. -/
theorem Duel.perform_ok {duel : Duel} {player : Seat} {action : Action} {acted : GameState}
    (running : duel.state.outcome = none)
    (dispatched : duel.state.dispatch duel.rules player action = .ok acted) :
    ∃ report after, duel.perform player action = .ok (report, after) := by
  refine ⟨_, _, map_eq_ok.mpr ⟨acted.handedBack duel.rules.catalog, ?_, rfl⟩⟩
  exact GameState.step_eq_ok.mpr ⟨running, acted, dispatched, rfl⟩

namespace DuelSetup

variable {setup : DuelSetup} {requests : List Request} {duel : Duel}

/--
While a duel goes on, the list of a player's actions is exact. What is listed is accepted. What is
accepted, apart from giving up, is listed up to the order of cards; only a counter of turns that has
come round to zero, after more than four billion requests, hides a battle phase. Nothing is listed
twice, and nothing at all for a player without the priority.
-/
theorem Run.legalActions_exact (fits : setup.Fits) (run : setup.Run requests duel)
    (running : duel.state.outcome = none) (player : Seat) :
    (∀ action ∈ duel.legalActions player,
      ∃ report after, duel.perform player action = .ok (report, after)) ∧
    (∀ action report after, duel.perform player action = .ok (report, after) → action ≠ .forfeit →
      (∃ listed ∈ duel.legalActions player,
        duel.state.Reordered duel.rules.catalog action listed) ∨
      action = .enterBattlePhase ∧ duel.state.turn = 0 ∧ UInt32.size ≤ requests.length + 1) ∧
    (duel.legalActions player).Nodup ∧
    (player ≠ duel.state.priorityHolder → duel.legalActions player = []) := by
  have agrees : duel.state.Agrees duel.rules.config := by
    rw [run.rules]
    exact run.shifts.agrees (withDecks_agrees fits)
  have orderly := (run.atRest.running running).1
  refine ⟨?_, ?_, GameState.nodup_legalActions agrees player, ?_⟩
  · intro action listed
    obtain ⟨acted, dispatched⟩ := GameState.legalActions_ok agrees orderly listed
    exact Duel.perform_ok running dispatched
  · intro action report after performed stays
    obtain ⟨stepped, _⟩ := Duel.perform_eq_ok performed
    obtain ⟨_, acted, dispatched, _⟩ := GameState.step_eq_ok.mp stepped
    refine (GameState.dispatch_listed agrees orderly running dispatched stays).imp_right ?_
    rintro ⟨same, hidden⟩
    refine ⟨same, hidden, ?_⟩
    by_contra short
    have counted := (run.turn_bounds (by omega)).1
    rw [hidden] at counted
    exact absurd counted (by decide)
  · intro other
    apply List.eq_nil_iff_forall_not_mem.mpr
    intro action listed
    exact other (GameState.mem_legalActions.mp listed).2.1.symm

/-- At the start of a duel of sentries the list of the first player is exact. -/
theorem sentries_legalActions_exact :
    ∃ duel, sentries.Fits ∧ sentries.Run [] duel ∧ duel.state.outcome = none ∧
      duel.legalActions .first = [.normalSummon ⟨1⟩ [], .setCard ⟨1⟩ [], .endTurn] ∧
      (∃ report after, duel.perform .first (.setCard ⟨1⟩ []) = .ok (report, after)) ∧
      ∀ report after, duel.perform .first .enterBattlePhase ≠ .ok (report, after) := by
  have fits : sentries.Fits := by
    show 2 + 2 < UInt32.size
    decide
  have begun : sentries.build.toOption.any (fun start => decide (start.state.outcome = none ∧
      start.legalActions .first = [.normalSummon ⟨1⟩ [], .setCard ⟨1⟩ [], .endTurn])) = true := by
    decide +kernel
  obtain ⟨duel, built, facts⟩ := any_toOption_iff.mp begun
  obtain ⟨running, listed⟩ := of_decide_eq_true facts
  have run : sentries.Run [] duel := .start built
  obtain ⟨accepts, covers, _⟩ := run.legalActions_exact fits running .first
  refine ⟨duel, fits, run, running, listed, accepts _ (by simp [listed]), ?_⟩
  intro report after performed
  rcases covers _ report after performed (by simp) with ⟨other, member, same⟩ | ⟨_, _, late⟩
  · cases same
    simp [listed] at member
  · exact absurd late (by decide)

end DuelSetup

end CardDuel
