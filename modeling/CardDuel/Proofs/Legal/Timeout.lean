/-
This file shows that a duel that goes on waits for exactly one player, and that the action which is
taken for that player out of time is always accepted.
-/

import CardDuel.Proofs.Flow.Verdict
import CardDuel.Proofs.Legal.Coverage

namespace CardDuel

namespace GameState

variable {state : GameState} {rules : Rules} {player : Seat}

/-- This is the action that a running duel waits for, if its player does nothing. -/
def awaited (state : GameState) : Action :=
  if state.chain.links ≠ [] ∨ state.window.isSome then .passPriority else .endTurn

/-- What a duel waits for is a pass as long as one is possible, and else the end of the turn. -/
theorem awaited_eq : state.awaited = if state.canPass then .passPriority else .endTurn := by
  refine if_congr ?_ rfl rfl
  simp [canPass, Chain.isEmpty]

/-- A duel at rest acts for the holder of the priority and for nobody else. -/
theorem AtRest.timeoutAction_eq (rest : state.AtRest) (running : state.outcome = none)
    (player : Seat) : state.timeoutAction player =
      if player = state.priorityHolder then .ok state.awaited
      else .error (.nothingToTimeOut player) := by
  rw [timeoutAction, awaited_eq]
  cases waits : state.canPass with
  | true =>
    -- A player without the priority cannot end the turn either, because the duel is not open.
    have shut : (state.isOpen && player = state.turnPlayer && state.phase.isPlayable) = true →
        state.priorityHolder = player := by
      simp only [Bool.and_eq_true, decide_eq_true_eq]
      rintro ⟨⟨quiet, turn⟩, _⟩
      exact MayAct.holds (rest.running running).1 ⟨turn, quiet⟩
    by_cases holds : player = state.priorityHolder
    · simp [holds]
    · have other : state.priorityHolder ≠ player := fun same => holds same.symm
      rw [if_neg (by simp [other]), if_neg fun acts => other (shut acts), if_neg holds]
  | false =>
    have may := rest.mayAct running waits
    have playing := (rest.running running).1.playing
    simp [may.quiet, may.turn, playing]

/-- What a duel at rest waits for is accepted. -/
theorem AtRest.awaited_ok (rest : state.AtRest) (running : state.outcome = none) :
    ∃ next, state.dispatch rules state.priorityHolder state.awaited = .ok next := by
  have orderly := (rest.running running).1
  rw [awaited_eq]
  cases waits : state.canPass with
  | true => exact (passPriority_ok_iff orderly).mpr ⟨waits, rfl⟩
  | false =>
    have opened : state.openTurn state.priorityHolder = .ok () :=
      openTurn_eq_ok.mpr (rest.mayAct running waits)
    exact ⟨_, bind_eq_ok.mpr ⟨(), opened, (endTurn_eq_ok state rules).mpr ⟨orderly.playing, rfl⟩⟩⟩

end GameState

/-- A running duel acts for a player out of time as if that player had asked for the action. -/
theorem Duel.forceTimeout_eq {duel : Duel} (running : duel.state.outcome = none) (player : Seat) :
    duel.forceTimeout player = duel.state.timeoutAction player >>= duel.perform player := by
  have runs : duel.state.ensureRunning = .ok () := GameState.ensureRunning_eq_ok.mpr running
  rw [Duel.forceTimeout, GameState.timeout, runs]
  cases duel.state.timeoutAction player with
  | error problem => rfl
  | ok action => rfl

namespace DuelSetup

variable {setup : DuelSetup} {requests : List Request} {duel : Duel}

/--
While a duel goes on, exactly the holder of the priority can be timed out, and the other player is
refused by name. The timeout is the pass or the end of the turn that the duel waits for, done for that
player, and this is never refused.
-/
theorem Run.timeout_exact (run : setup.Run requests duel) (running : duel.state.outcome = none) :
    (∀ player, (∃ report after, duel.forceTimeout player = .ok (report, after)) ↔
      player = duel.state.priorityHolder) ∧
    (∀ player, player ≠ duel.state.priorityHolder →
      duel.forceTimeout player = .error (.nothingToTimeOut player)) ∧
    duel.forceTimeout duel.state.priorityHolder = duel.perform duel.state.priorityHolder
      (if duel.state.chain.links ≠ [] ∨ duel.state.window.isSome then .passPriority
        else .endTurn) ∧
    ∃! player, ∃ report after, duel.forceTimeout player = .ok (report, after) := by
  have forced (player : Seat) : duel.forceTimeout player =
      (if player = duel.state.priorityHolder then .ok duel.state.awaited
        else .error (.nothingToTimeOut player)) >>= duel.perform player := by
    rw [Duel.forceTimeout_eq running, run.atRest.timeoutAction_eq running]
  have same : duel.forceTimeout duel.state.priorityHolder =
      duel.perform duel.state.priorityHolder duel.state.awaited := by
    rw [forced, if_pos rfl]
    rfl
  have refuses (player : Seat) (other : player ≠ duel.state.priorityHolder) :
      duel.forceTimeout player = .error (.nothingToTimeOut player) := by
    rw [forced, if_neg other]
    rfl
  have accepts : ∃ report after,
      duel.forceTimeout duel.state.priorityHolder = .ok (report, after) := by
    obtain ⟨acted, dispatched⟩ := run.atRest.awaited_ok running
    rw [same]
    exact Duel.perform_ok running dispatched
  have exact (player : Seat) : (∃ report after, duel.forceTimeout player = .ok (report, after)) ↔
      player = duel.state.priorityHolder := by
    constructor
    · rintro ⟨report, after, forced⟩
      by_contra other
      simp [refuses player other] at forced
    · rintro rfl
      exact accepts
  exact ⟨exact, refuses, same, _, accepts, fun player => (exact player).mp⟩

/--
At the start of a duel of heralds time can only run out for the first player, whose turn ends. After
the first herald it can only run out for the second player, who passes.
-/
theorem heralds_timeout : ∃ start duel,
    heralds.Run [] start ∧ start.state.outcome = none ∧
      start.forceTimeout .first = start.perform .first .endTurn ∧
      start.forceTimeout .second = .error (.nothingToTimeOut .second) ∧
    heralds.Run [.act .first (.normalSummon ⟨0⟩ [])] duel ∧ duel.state.outcome = none ∧
      duel.forceTimeout .second = duel.perform .second .passPriority ∧
      (∃ report after, duel.forceTimeout .second = .ok (report, after)) ∧
      duel.forceTimeout .first = .error (.nothingToTimeOut .first) := by
  have played : heralds.build.toOption.any (fun start =>
      decide (start.state.outcome = none ∧ start.state.priorityHolder = .first ∧
        start.state.chain.links = [] ∧ start.state.window = none) &&
      (start.serve (.act .first (.normalSummon ⟨0⟩ []))).toOption.any fun served =>
        decide (served.2.state.outcome = none ∧ served.2.state.priorityHolder = .second ∧
          served.2.state.chain.links ≠ [])) = true := by
    decide +kernel
  obtain ⟨start, built, facts⟩ := any_toOption_iff.mp played
  obtain ⟨begun, followed⟩ := Bool.and_eq_true_iff.mp facts
  obtain ⟨⟨report, duel⟩, served, reached⟩ := any_toOption_iff.mp followed
  obtain ⟨running, first, unlinked, closed⟩ := of_decide_eq_true begun
  obtain ⟨runs, second, linked⟩ : duel.state.outcome = none ∧
      duel.state.priorityHolder = .second ∧ duel.state.chain.links ≠ [] := of_decide_eq_true reached
  have run : heralds.Run [] start := .start built
  have later : heralds.Run [.act .first (.normalSummon ⟨0⟩ [])] duel := .next (.start built) served
  obtain ⟨_, refuses, ends, _⟩ := run.timeout_exact running
  obtain ⟨accepts, refusesLater, passes, _⟩ := later.timeout_exact runs
  rw [first, unlinked, closed] at ends
  rw [second, if_pos (.inl linked)] at passes
  exact ⟨start, duel, run, running, ends, refuses .second (by simp [first]), later, runs, passes,
    (accepts .second).mpr second.symm, refusesLater .first (by simp [second])⟩

end DuelSetup

end CardDuel
