/-
This file shows that the bytes of events and of the log are read exactly as they are written.
-/

import CardDuel.Proofs.Snapshot.Card
import CardDuel.Snapshot.Event

namespace CardDuel

/-- This tells that the counts and places of an event and the length of its text have 64 bits. -/
def GameEvent.Storable : GameEvent → Prop
  | effectActivated _ effect _ => effect < UInt64.size
  | chainLinkAdded number _ _ | chainLinkResolved number _ _ => number < UInt64.size
  | effectAborted number _ reason => number < UInt64.size ∧ reason.utf8ByteSize < UInt64.size
  | chainResolved length => length < UInt64.size
  | _ => True

namespace Snapshot

open Codec
open Case (AllExact)

theorem summonKind_exact : summonKind.Exact fun _ => True :=
  oneOf_exact (by decide) (fun value => by cases value <;> decide) (by decide)

theorem effectOutcome_exact : effectOutcome.Exact fun _ => True :=
  oneOf_exact (by decide) (fun value => by cases value <;> decide) (by decide)

theorem gameResult_exact : gameResult.Exact fun _ => True := by
  refine choice_exact GameResult.ctorIdx
    (.cons (case_exact seat_exact ?_ ?_ ?_) (.cons (constant_exact ?_ trivial) .nil)) ?_ (by decide)
  all_goals
    intro value
    first
    | rfl
    | cases value <;> rfl
    | cases value <;> simp [GameResult.ctorIdx]

theorem attackPair_exact : attackPair.Exact fun _ => True :=
  (pair_exact instanceId_exact (option_exact instanceId_exact)).congr fun _ => by simp

/-- This tells that alternatives are those for the events with the places from one on. -/
def ForEvents (place : Nat) (cases : List (Case GameEvent)) : Prop :=
  AllExact GameEvent.ctorIdx GameEvent.Storable place cases

theorem turnEvents_exact : ForEvents 0 turnEvents := by
  refine .cons (case_exact (pair_exact seat_exact word32_exact) ?_ ?_ ?_) <|
    .cons (case_exact phase_exact ?_ ?_ ?_) <|
    .cons (case_exact (pair_exact seat_exact instanceId_exact) ?_ ?_ ?_) <|
    .cons (case_exact (pair_exact instanceId_exact (pair_exact seat_exact summonKind_exact)) ?_ ?_ ?_) <|
    .cons (case_exact (pair_exact instanceId_exact seat_exact) ?_ ?_ ?_) <|
    .cons (case_exact (pair_exact instanceId_exact position_exact) ?_ ?_ ?_) <|
    .nil
  all_goals
    intro value
    first
    | rfl
    | cases value <;> rfl
    | simp [GameEvent.Storable]

theorem battleEvents_exact : ForEvents 6 battleEvents := by
  refine .cons (case_exact attackPair_exact ?_ ?_ ?_) <|
    .cons (case_exact instanceId_exact ?_ ?_ ?_) <|
    .cons (case_exact instanceId_exact ?_ ?_ ?_) <|
    .cons (case_exact attackPair_exact ?_ ?_ ?_) <|
    .nil
  all_goals
    intro value
    first
    | rfl
    | cases value <;> rfl

theorem tableEvents_exact : ForEvents 10 tableEvents := by
  refine .cons (case_exact (pair_exact seat_exact (pair_exact word32_exact bool_exact)) ?_ ?_ ?_) <|
    .cons (case_exact (pair_exact seat_exact word32_exact) ?_ ?_ ?_) <|
    .cons (case_exact (pair_exact seat_exact word32_exact) ?_ ?_ ?_) <|
    .cons (case_exact (pair_exact instanceId_exact (pair_exact zone_exact zone_exact)) ?_ ?_ ?_) <|
    .cons (case_exact (pair_exact instanceId_exact bool_exact) ?_ ?_ ?_) <|
    .cons (case_exact seat_exact ?_ ?_ ?_) <|
    .nil
  all_goals
    intro value
    first
    | rfl
    | cases value <;> rfl
    | simp [GameEvent.Storable]

theorem chainEvents_exact : ForEvents 16 chainEvents := by
  refine .cons (case_exact (pair_exact instanceId_exact (pair_exact size_exact seat_exact)) ?_ ?_ ?_) <|
    .cons (case_exact (pair_exact size_exact (pair_exact instanceId_exact byte_exact)) ?_ ?_ ?_) <|
    .cons (case_exact (pair_exact size_exact (pair_exact instanceId_exact effectOutcome_exact)) ?_ ?_ ?_) <|
    .cons (case_exact (pair_exact size_exact (pair_exact instanceId_exact text_exact)) ?_ ?_ ?_) <|
    .cons (case_exact size_exact ?_ ?_ ?_) <|
    .nil
  all_goals
    intro value
    first
    | rfl
    | cases value <;> rfl
    | simp [GameEvent.Storable]

theorem answerEvents_exact : ForEvents 21 answerEvents := by
  refine .cons (case_exact seat_exact ?_ ?_ ?_) <|
    .cons (case_exact seat_exact ?_ ?_ ?_) <|
    .cons (constant_exact ?_ trivial) <|
    .cons (case_exact (pair_exact seat_exact instanceId_exact) ?_ ?_ ?_) <|
    .cons (case_exact gameResult_exact ?_ ?_ ?_) <|
    .nil
  all_goals
    intro value
    first
    | rfl
    | cases value <;> rfl
    | cases value <;> simp [GameEvent.ctorIdx, GameEvent.Storable]

theorem gameEvent_exact : gameEvent.Exact GameEvent.Storable := by
  have all : ForEvents 0
      (turnEvents ++ battleEvents ++ tableEvents ++ chainEvents ++ answerEvents) :=
    (((turnEvents_exact.append battleEvents_exact).append tableEvents_exact).append
      chainEvents_exact).append answerEvents_exact
  apply choice_exact GameEvent.ctorIdx all _ (by decide)
  intro event
  show event.ctorIdx < 26
  cases event <;> simp [GameEvent.ctorIdx]

example : gameEvent.decode [24, 0, 0, 0, 1, 7, 0, 0, 0, 9] =
    some (.handLimitDiscard .second ⟨7⟩, [9]) := by
  decide

theorem loggedEvent_exact : loggedEvent.Exact fun entry => entry.event.Storable :=
  (record_exact (pair_exact word64_exact (pair_exact word32_exact gameEvent_exact))
    (fun _ => rfl) fun _ => rfl).congr fun _ => by simp

end Snapshot

end CardDuel
