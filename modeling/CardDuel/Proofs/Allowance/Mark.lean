/-
This file ties bans to what states show. A mark shows a ban if it is there whenever the ban holds and what is
forbidden is never done while it is there; then the log of every run heeds the ban.
-/

import CardDuel.Proofs.Allowance.Ban
import CardDuel.Proofs.Allowance.Play

namespace CardDuel

open GameState

/--
This tells that a mark of states shows a ban: lulls leave both alone, unless they lift the ban, what is
forbidden is not done while the mark is there, and what imposes the ban sets the mark.
-/
structure Ban.Shown (ban : Ban) (catalog : Catalog) (table : GameState) (mark : GameState → Prop) :
    Prop where
  lull : ∀ {before after}, Shifts table before → Lull catalog before after →
    ∃ events, after.events = before.events ++ events ∧
      (∀ event ∈ events, ban.imposes event = false) ∧ (∀ event ∈ events, ¬ban.Forbids event) ∧
      (mark before → (∀ event ∈ events, ban.lifts event = false) → mark after)
  free : ∀ {before event after}, Shifts table before → Feat catalog before after event →
    ban.Forbids event → ¬mark before
  imposed : ∀ {before event after}, Shifts table before → Feat catalog before after event →
    ban.imposes event = true → mark after
  kept : ∀ {before event after}, Feat catalog before after event → ban.lifts event = false →
    mark before → mark after
  turns : ∀ seat turn, (ban.imposes (.turnStarted seat turn) = true ∨
    ban.lifts (.turnStarted seat turn) = true) ∧ ¬ban.Forbids (.turnStarted seat turn)

/-- This tells that the log heeds a ban, which is marked as long as it holds. -/
structure GameState.Heeds (state : GameState) (ban : Ban) (mark : GameState → Prop) : Prop where
  heeded : ban.Heeded ban.initial state.events
  marked : ban.after ban.initial state.events = true → mark state

namespace Ban.Shown

variable {ban : Ban} {catalog : Catalog} {table before after : GameState} {mark : GameState → Prop}
  (shown : ban.Shown catalog table mark)
include shown

/-- A stage keeps a log that heeds its ban. -/
theorem stage (shifts : Shifts table before) (heeds : before.Heeds ban mark)
    (stage : Stage catalog before after) : after.Heeds ban mark := by
  cases stage with
  | lull lull =>
    obtain ⟨events, same, imposes, allowed, kept⟩ := shown.lull shifts lull
    obtain ⟨heeded, still⟩ := ban.heeded_of_idle (ban.after ban.initial before.events) imposes
      allowed
    constructor
    · rw [same]
      exact ban.heeded_append.mpr ⟨heeds.heeded, heeded⟩
    · intro holds
      rw [same, ban.after_append] at holds
      obtain ⟨held, none⟩ := still holds
      exact kept (heeds.marked held) none
  | @feat event told feat =>
    constructor
    · rw [told.events]
      refine ban.heeded_append.mpr ⟨heeds.heeded, ?_, trivial⟩
      intro forbids
      exact Bool.eq_false_iff.mpr fun held => shown.free shifts feat forbids (heeds.marked held)
    · intro holds
      rw [told.events, ban.after_append, ban.after_cons, ban.after_nil, next, Bool.or_eq_true,
        Bool.and_eq_true, Bool.not_eq_true'] at holds
      rcases holds with imposes | ⟨held, lifts⟩
      · exact shown.imposed shifts feat imposes
      · exact shown.kept feat lifts (heeds.marked held)

/-- Stages keep a log that heeds its ban. -/
theorem stages (shifts : Shifts table before) (heeds : before.Heeds ban mark)
    (stages : Stages catalog before after) : after.Heeds ban mark := by
  suffices Shifts table after ∧ after.Heeds ban mark from this.2
  induction stages with
  | refl => exact ⟨shifts, heeds⟩
  | tail _ stage ih =>
    refine ⟨ih.1.trans ?_, shown.stage ih.1 ih.2 stage⟩
    cases stage with
    | lull lull => exact lull.shifts
    | feat told _ => exact told.shifts

/-- The first turn decides whether a ban holds, whatever was done before. -/
theorem firstTurn (silent : table.events = []) (lull : Lull catalog table before) (seat : Seat) :
    (before.passTurn seat).Heeds ban mark := by
  have told : (before.passTurn seat).events = before.events ++ [.turnStarted seat (before.turn + 1)] :=
    events_record _ _
  obtain ⟨decides, allowed⟩ := shown.turns seat (before.turn + 1)
  obtain ⟨events, same, imposes, allows, _⟩ := shown.lull (.refl table) lull
  rw [silent, List.nil_append] at same
  constructor
  · rw [told, same]
    have heeded := (ban.heeded_of_idle ban.initial imposes allows).1
    exact ban.heeded_append.mpr ⟨heeded, fun forbids => absurd forbids allowed, trivial⟩
  · intro holds
    rw [told, ban.after_append, ban.after_cons, ban.after_nil, next, Bool.or_eq_true, Bool.and_eq_true,
      Bool.not_eq_true'] at holds
    rcases holds with imposed | ⟨_, lifts⟩
    · exact shown.imposed lull.shifts (.turn seat rfl) imposed
    · exact shown.imposed lull.shifts (.turn seat rfl) (decides.resolve_right (by simp [lifts]))

end Ban.Shown

namespace DuelSetup

variable {setup : DuelSetup} {requests : List Request} {duel : Duel}

/-- The log of a run heeds every ban that is shown by a mark. -/
theorem Run.heeds {ban : Ban} {mark : GameState → Prop}
    (shown : ban.Shown setup.rules.catalog setup.withDecks mark) (run : setup.Run requests duel) :
    ban.Heeded ban.initial duel.state.events := by
  obtain ⟨dealt, seat, dealing, stages⟩ := run.stages
  have silent : setup.withDecks.events = [] := by
    rw [events, setup.withDecks_unused.2.1]
    rfl
  have begun : Shifts setup.withDecks (dealt.passTurn seat) :=
    dealing.shifts.then_still (.passTurn dealt seat)
  exact (shown.stages begun (shown.firstTurn silent dealing seat) stages).heeded

end DuelSetup

end CardDuel
