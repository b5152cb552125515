/-
This file compares stamps: entries have the same stamp when no turn begins between them, and the start of a turn
is told with the number of that turn.
-/

import CardDuel.Proofs.Log.Account

namespace CardDuel

namespace GameState

variable {catalog : Catalog} {before after : GameState}

/-- An entry of the log is stamped with the number of turns that have begun until then. -/
theorem Stamped.turn_at {state : GameState} (stamped : state.Stamped) {early late : List LoggedEvent}
    {entry : LoggedEvent} (log : state.log = early ++ entry :: late) :
    entry.turn = .ofNat (turnsBegun (early ++ [entry])) := by
  have there : state.log[early.length]? = some entry := by simp [log]
  rw [(stamped.numbered early.length entry there).2, log, List.append_cons, List.take_left']
  simp

/-- Entries have the same stamp if no turn begins between them. -/
theorem Stamped.turn_eq_iff {state : GameState} (stamped : state.Stamped)
    {early between late : List LoggedEvent} {first second : LoggedEvent}
    (log : state.log = early ++ first :: (between ++ second :: late))
    (few : turnsBegun (between ++ [second]) < UInt32.size) :
    first.turn = second.turn ↔ ∀ entry ∈ between ++ [second], entry.event.isTurnStart = false := by
  have later : state.log = (early ++ first :: between) ++ second :: late := by simp [log]
  have sum : turnsBegun (early ++ first :: between ++ [second]) =
      turnsBegun (early ++ [first]) + turnsBegun (between ++ [second]) := by
    rw [turnsBegun, turnsBegun, turnsBegun, ← List.countP_append]
    simp
  rw [stamped.turn_at log, stamped.turn_at later, sum, ← UInt32.toNat_inj, UInt32.toNat_ofNat',
    UInt32.toNat_ofNat']
  have none : turnsBegun (between ++ [second]) = 0 ↔
      ∀ entry ∈ between ++ [second], entry.event.isTurnStart = false := by
    simp only [turnsBegun, List.countP_eq_zero, Bool.not_eq_true]
  rw [← none]
  simp only [UInt32.size] at few
  omega

/-- Two entries belong to one turn if no turn starts between them. -/
theorem Stamped.turn_eq {state : GameState} (stamped : state.Stamped)
    {early between late : List LoggedEvent} {first second : LoggedEvent}
    (log : state.log = early ++ first :: (between ++ second :: late))
    (calm : ∀ entry ∈ between ++ [second], entry.event.isTurnStart = false) :
    first.turn = second.turn := by
  have none : turnsBegun (between ++ [second]) = 0 := List.countP_eq_zero.mpr fun entry member =>
    Bool.eq_false_iff.mp (calm entry member)
  exact (stamped.turn_eq_iff log (by rw [none]; decide)).mpr calm

/-- This tells that a turn is told to begin by an entry with the number of that turn. -/
def NamesTurns (state : GameState) : Prop :=
  ∀ entry ∈ state.log, ∀ seat turn, entry.event = .turnStarted seat turn → entry.turn = turn

theorem NamesTurns.recordAll {state : GameState} {events : List GameEvent} (names : state.NamesTurns)
    (within : ∀ event ∈ events, event.isTurnStart = false) : (state.recordAll events).NamesTurns := by
  induction events generalizing state with
  | nil => exact names
  | cons event rest ih =>
    obtain ⟨first, others⟩ := List.forall_mem_cons.mp within
    refine ih ?_ others
    intro entry member seat turn starts
    rcases List.mem_append.mp member with old | new
    · exact names entry old seat turn starts
    · obtain rfl := List.mem_singleton.mp new
      obtain rfl : event = _ := starts
      cases first

/-- A stroke keeps the names of the turns. -/
theorem Stroke.namesTurns {ways : Placement → Prop} {events : List GameEvent}
    (stroke : Stroke catalog ways before events after) (names : before.NamesTurns) :
    after.NamesTurns := by
  rcases stroke.tells with tells | ⟨seat, rfl, rfl⟩
  · rw [NamesTurns, tells.log]
    exact names.recordAll tells.within
  · intro entry member other turn starts
    rcases List.mem_append.mp member with old | new
    · exact names entry old other turn starts
    · obtain rfl := List.mem_singleton.mp new
      obtain ⟨_, rfl⟩ := GameEvent.turnStarted.inj starts
      rfl

end GameState

open GameState

theorem DuelSetup.Run.names_turns {setup : DuelSetup} {requests : List Request} {duel : Duel}
    (run : setup.Run requests duel) : duel.state.NamesTurns := by
  obtain ⟨events, strokes⟩ := run.moves.struck
  apply strokes.keeps (fun stroke => stroke.namesTurns)
  intro entry member
  rw [setup.withDecks_unused.2.1] at member
  cases member

end CardDuel
