/-
This file tells what edits leave alone: the turn, the chain, the window and the result of a duel.
-/

import CardDuel.Proofs.Table.Edit

namespace CardDuel

namespace ChainLink

/-- This is a link apart from its negation. -/
def bare (link : ChainLink) : ChainLink := { link with negated := false }

end ChainLink

/-- Negating a link changes nothing else in a chain. -/
theorem Chain.negate?_eq_some {chain negated : Chain} {number : Nat}
    (given : chain.negate? number = some negated) :
    negated.status = chain.status ∧
      negated.links.map ChainLink.bare = chain.links.map ChainLink.bare := by
  obtain ⟨link, found, rfl⟩ := Option.map_eq_some_iff.mp given
  refine ⟨rfl, ?_⟩
  rw [Chain.link?] at found
  split at found
  · simp at found
  · obtain ⟨inside, rfl⟩ := List.getElem?_eq_some_iff.mp found
    have within : number - 1 < (chain.links.map ChainLink.bare).length := by simpa using inside
    have bared : ChainLink.bare { chain.links[number - 1] with negated := true } =
        (chain.links.map ChainLink.bare)[number - 1] := by
      rw [List.getElem_map]
      rfl
    rw [List.map_set, bared, List.set_getElem_self]

namespace GameState

/-- This tells that a duel is where it was, except that it or its attack may be over. -/
structure Course (before after : GameState) : Prop where
  turn : after.turn = before.turn
  phase : after.phase = before.phase
  turnPlayer : after.turnPlayer = before.turnPlayer
  window : after.window = before.window
  status : after.chain.status = before.chain.status
  links : after.chain.links.map ChainLink.bare = before.chain.links.map ChainLink.bare
  attack : after.pendingAttack = before.pendingAttack ∨ after.pendingAttack = none

/-- This tells that a duel is where it was and goes on, except that its attack may be over. -/
structure Frame (before after : GameState) : Prop extends Course before after where
  outcome : after.outcome = before.outcome

namespace Course

variable {before middle after : GameState}

theorem refl (state : GameState) : Course state state :=
  ⟨rfl, rfl, rfl, rfl, rfl, rfl, .inl rfl⟩

theorem trans (first : Course before middle) (second : Course middle after) :
    Course before after where
  turn := second.turn.trans first.turn
  phase := second.phase.trans first.phase
  turnPlayer := second.turnPlayer.trans first.turnPlayer
  window := second.window.trans first.window
  status := second.status.trans first.status
  links := second.links.trans first.links
  attack := by
    rcases second.attack with same | finished
    · rw [same]
      exact first.attack
    · exact .inr finished

/-- Where no attack waits, none comes up in the course of things. -/
theorem attack_eq_none (course : Course before after) (free : before.pendingAttack = none) :
    after.pendingAttack = none := by
  rcases course.attack with same | finished
  · rw [same, free]
  · exact finished

/-- A chain is as empty as before. -/
theorem links_eq_nil_iff (course : Course before after) :
    after.chain.links = [] ↔ before.chain.links = [] := by
  have same := course.links
  constructor
  · intro empty
    rw [empty] at same
    exact List.map_eq_nil_iff.mp same.symm
  · intro empty
    rw [empty] at same
    exact List.map_eq_nil_iff.mp same

end Course

namespace Frame

variable {before middle after : GameState}

theorem refl (state : GameState) : Frame state state := ⟨.refl state, rfl⟩

theorem trans (first : Frame before middle) (second : Frame middle after) : Frame before after :=
  ⟨first.toCourse.trans second.toCourse, second.outcome.trans first.outcome⟩

theorem record (state : GameState) (event : GameEvent) : Frame state (state.record event) :=
  ⟨⟨rfl, rfl, rfl, rfl, rfl, rfl, .inl rfl⟩, rfl⟩

theorem modifyCard (state : GameState) (card : InstanceId) (change : CardInstance → CardInstance) :
    Frame state (state.modifyCard card change) :=
  ⟨⟨rfl, rfl, rfl, rfl, rfl, rfl, .inl rfl⟩, rfl⟩

theorem modifyPlayer (state : GameState) (seat : Seat) (update : PlayerState → PlayerState) :
    Frame state (state.modifyPlayer seat update) :=
  ⟨⟨rfl, rfl, rfl, rfl, rfl, rfl, .inl rfl⟩, rfl⟩

end Frame

/-- What stays on the table leaves a duel where it was. -/
theorem OnTable.frame {may : Modifier → Prop} {before after : GameState}
    (table : OnTable may before after) : Frame before after :=
  ⟨⟨table.turn, table.phase, table.turnPlayer, table.window, by rw [table.chain],
    by rw [table.chain], .inl table.attack⟩, table.outcome⟩

/-- No deed touches the turn, the window or the result, nor adds or takes a link. -/
theorem Deed.frame {may : GameState → Change → Prop} {before after : GameState}
    (deed : Deed may before after) : Frame before after := by
  rcases deed.cases with table | ⟨number, chain, negated, rfl⟩ | ⟨attack, _, rfl⟩
  · exact table.frame
  · obtain ⟨status, links⟩ := Chain.negate?_eq_some negated
    exact ⟨⟨rfl, rfl, rfl, rfl, status, links, .inl rfl⟩, rfl⟩
  · exact ⟨⟨rfl, rfl, rfl, rfl, rfl, rfl, .inr rfl⟩, rfl⟩

/-- A duel is where it was after any edits. -/
theorem Edits.frame {before after : GameState} (edits : Edits before after) :
    Frame before after := by
  induction edits with
  | refl => exact .refl before
  | tail _ edit ih =>
    rcases edit.deed_or_note with deed | ⟨event, rfl⟩
    · exact ih.trans deed.frame
    · exact ih.trans (.record _ event)

/-! Sweeps and battles -/

section Sweeps

variable (state : GameState) (catalog : Catalog)

theorem endDuel_course (result : GameResult) : Course state (state.endDuel result) := by
  rw [endDuel]
  split
  · exact .refl state
  · exact ⟨rfl, rfl, rfl, rfl, rfl, rfl, .inl rfl⟩

theorem checkLoss_course : Course state state.checkLoss := by
  rw [checkLoss]
  split
  · exact state.endDuel_course _
  · exact .refl state

/-- A duel that is over stays as it ended, and another one ends when a player has lost. -/
theorem checkLoss_outcome :
    state.checkLoss.outcome = state.outcome.or (resultFor? state.losers) := by
  rw [checkLoss]
  cases lost : resultFor? state.losers with
  | none => simp
  | some result =>
    dsimp only
    rw [endDuel]
    cases ended : state.outcome with
    | none => simp [record]
    | some earlier => simp [ended]

/-- A sweep ends a running duel exactly if somebody lost after the burial. -/
theorem sweep_outcome : (state.sweep catalog).outcome =
    state.outcome.or (resultFor? (state.destroyAllMarked catalog).losers) := by
  rw [sweep, checkLoss_outcome, (state.destroyAllMarked_edits catalog).frame.outcome]

theorem sweep_course : Course state (state.sweep catalog) :=
  (state.destroyAllMarked_edits catalog).frame.toCourse.trans (checkLoss_course _)

theorem resolveLink_course (link : ChainLink) : Course state (state.resolveLink catalog link).1 :=
  (state.resolved_edits catalog link).frame.toCourse.trans (checkLoss_course _)

theorem fight_course (attack : PendingAttack) : Course state (state.fight catalog attack) := by
  rcases state.fight_cases catalog attack with same | ⟨fought, edits, same⟩
  · rw [same]
    exact (state.revealTarget_edits catalog attack.target).frame.toCourse
  · rw [same]
    exact edits.frame.toCourse.trans (sweep_course fought catalog)

/-- An attack that is resolved is over. -/
theorem resolveAttack_course :
    Course state (state.resolveAttack catalog) ∧
      (state.resolveAttack catalog).pendingAttack = none := by
  rw [resolveAttack]
  cases waiting : state.pendingAttack with
  | none => exact ⟨.refl state, waiting⟩
  | some attack =>
    have cleared : Course state { state with pendingAttack := none } :=
      ⟨rfl, rfl, rfl, rfl, rfl, rfl, .inr rfl⟩
    dsimp only
    split
    · have fought := fight_course { state with pendingAttack := none } catalog attack
      exact ⟨cleared.trans fought, fought.attack_eq_none rfl⟩
    · exact ⟨cleared.trans (Frame.record _ _).toCourse, rfl⟩

end Sweeps

/-! Turns -/

/-- The draw of a turn leaves the duel where it was. -/
theorem drawForTurn_frame (state : GameState) (seat : Seat) :
    Frame state (state.drawForTurn seat) := by
  rw [drawForTurn]
  split
  · exact (Change.applyPossible_edits _ state).frame
  · exact .modifyPlayer state seat _

theorem drawn_frame (state : GameState) (rules : Rules) :
    Frame ((state.passTurn state.nextPlayer).enterPhase .draw) (state.drawn rules) := by
  rw [drawn]
  split
  · exact drawForTurn_frame _ _
  · exact .refl _

theorem wound_frame (state : GameState) (rules : Rules) :
    Frame (state.enterPhase .ending) (state.wound rules) :=
  (discardToLimit_edits _ state.turnPlayer rules.config.handLimit).frame.trans
    ⟨⟨rfl, rfl, rfl, rfl, rfl, rfl, .inl rfl⟩, rfl⟩

end GameState

end CardDuel
