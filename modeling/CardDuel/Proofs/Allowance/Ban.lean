/-
This file defines bans. An event imposes a ban, another one lifts it, and as long as it holds some events may
not happen. A list of events that heeds a ban keeps what it forbids apart from what imposes it.
-/

import CardDuel.Event
import Mathlib.Data.List.Induction

namespace CardDuel

/-- This forbids some events after others, until it is lifted. -/
structure Ban where
  /-- This tells whether the ban holds before the first event. -/
  initial : Bool
  imposes : GameEvent → Bool
  lifts : GameEvent → Bool
  Forbids : GameEvent → Prop

namespace Ban

variable (ban : Ban)

/-- This tells whether a ban holds after an event. -/
def next (held : Bool) (event : GameEvent) : Bool :=
  ban.imposes event || (held && !ban.lifts event)

def after (held : Bool) (events : List GameEvent) : Bool := events.foldl ban.next held

/-- This tells that none of several events happens while it is forbidden. -/
def Heeded : (held : Bool) → List GameEvent → Prop
  | _, [] => True
  | held, event :: rest => (ban.Forbids event → held = false) ∧ Heeded (ban.next held event) rest

@[simp] theorem after_nil (held : Bool) : ban.after held [] = held := rfl

@[simp] theorem after_cons (held : Bool) (event : GameEvent) (rest : List GameEvent) :
    ban.after held (event :: rest) = ban.after (ban.next held event) rest := rfl

/-- A ban after two parts of a log is the ban after both. -/
theorem after_append (held : Bool) (early late : List GameEvent) :
    ban.after held (early ++ late) = ban.after (ban.after held early) late := List.foldl_append

/-- A ban is heeded in two parts of a log if it is heeded in both, one after the other. -/
theorem heeded_append {held : Bool} {early late : List GameEvent} :
    ban.Heeded held (early ++ late) ↔ ban.Heeded held early ∧ ban.Heeded (ban.after held early) late := by
  induction early generalizing held with
  | nil => simp [Heeded]
  | cons event rest ih => simp [Heeded, ih, and_assoc]

variable {ban} {held : Bool} {events early between late : List GameEvent} {event first second : GameEvent}

/-- An event that imposes a ban leaves it in force. -/
theorem next_of_imposes (imposes : ban.imposes event = true) : ban.next held event = true := by
  rw [next, imposes, Bool.true_or]

/--
A ban that holds no more did not hold and was not imposed, or it was lifted, and then neither imposed nor lifted
again.
-/
theorem after_eq_false (free : ban.after held events = false) :
    (held = false ∧ ∀ event ∈ events, ban.imposes event = false) ∨
      ∃ before lift rest, events = before ++ lift :: rest ∧ ban.lifts lift = true ∧
        ∀ event ∈ rest, ban.imposes event = false ∧ ban.lifts event = false := by
  -- From the end of the list, the first event that lifts the ban is the last one that does.
  induction events using List.reverseRecOn with
  | nil => exact .inl ⟨free, by simp⟩
  | append_singleton early event ih =>
    rw [after_append, after_cons, after_nil, next, Bool.or_eq_false_iff, Bool.and_eq_false_iff] at free
    obtain ⟨imposes, freed⟩ := free
    cases lifts : ban.lifts event with
    | true => exact .inr ⟨early, event, [], rfl, lifts, by simp⟩
    | false =>
      rcases ih (freed.resolve_right (by simp [lifts])) with
        ⟨never, none⟩ | ⟨before, lift, rest, rfl, lifted, none⟩
      · exact .inl ⟨never, List.forall_mem_append.mpr ⟨none, List.forall_mem_singleton.mpr imposes⟩⟩
      · exact .inr ⟨before, lift, rest ++ [event], by simp, lifted,
          List.forall_mem_append.mpr ⟨none, List.forall_mem_singleton.mpr ⟨imposes, lifts⟩⟩⟩

/-- Between an event that imposes a ban and one that it forbids the ban is lifted. -/
theorem Heeded.lifted_between (heeded : ban.Heeded held (early ++ first :: (between ++ second :: late)))
    (imposes : ban.imposes first = true) (forbids : ban.Forbids second) :
    ∃ event ∈ between, ban.lifts event = true := by
  have free := (ban.heeded_append.mp (ban.heeded_append.mp heeded).2.2).2.1 forbids
  rw [next_of_imposes imposes] at free
  rcases after_eq_false free with ⟨never, _⟩ | ⟨before, lift, rest, rfl, lifts, _⟩
  · cases never
  · exact ⟨lift, by simp, lifts⟩

/-- A ban that holds from the start is lifted before what it forbids, and nothing is done to it since. -/
theorem Heeded.lifted_before (heeded : ban.Heeded true (early ++ event :: late))
    (forbids : ban.Forbids event) : ∃ before lift rest, early = before ++ lift :: rest ∧
      ban.lifts lift = true ∧ ∀ event ∈ rest, ban.imposes event = false ∧ ban.lifts event = false := by
  rcases after_eq_false ((ban.heeded_append.mp heeded).2.1 forbids) with ⟨never, _⟩ | lifted
  · cases never
  · exact lifted

/-- Events that are not forbidden and impose nothing are heeded, and they leave a ban or lift it. -/
theorem heeded_of_idle (held : Bool) (imposes : ∀ event ∈ events, ban.imposes event = false)
    (allowed : ∀ event ∈ events, ¬ban.Forbids event) : ban.Heeded held events ∧
      (ban.after held events = true → held = true ∧ ∀ event ∈ events, ban.lifts event = false) := by
  induction events generalizing held with
  | nil => exact ⟨trivial, fun holds => ⟨holds, by simp⟩⟩
  | cons event rest ih =>
    obtain ⟨imposesNot, others⟩ := List.forall_mem_cons.mp imposes
    obtain ⟨allows, allowedToo⟩ := List.forall_mem_cons.mp allowed
    obtain ⟨heeded, still⟩ := ih (ban.next held event) others allowedToo
    refine ⟨⟨fun forbids => absurd forbids allows, heeded⟩, ?_⟩
    intro holds
    obtain ⟨holding, none⟩ := still holds
    rw [next, imposesNot, Bool.false_or, Bool.and_eq_true] at holding
    exact ⟨holding.1, List.forall_mem_cons.mpr ⟨by simpa using holding.2, none⟩⟩

end Ban

end CardDuel
