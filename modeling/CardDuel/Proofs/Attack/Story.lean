/-
This file shows that the log tells of attacks one by one: each of them is concluded, in one of three ways,
before the next one is declared and before the phase or the turn changes.
-/

import CardDuel.Proofs.Move.Waiting

namespace CardDuel

/-- This is what can be told of an attack. -/
inductive AttackNews where
  | declared
  | negated
  | cancelled
  | fought
deriving DecidableEq

namespace GameEvent

def attackNews? : GameEvent → Option (AttackNews × InstanceId)
  | attackDeclared attacker _ => some (.declared, attacker)
  | attackNegated attacker => some (.negated, attacker)
  | attackCancelled attacker => some (.cancelled, attacker)
  | battleResolved attacker _ => some (.fought, attacker)
  | _ => none

/-- This tells whether an event is a piece of news about some attack. -/
def tells (news : AttackNews) (event : GameEvent) : Bool :=
  event.attackNews?.map Prod.fst = some news

/-- This tells that an event concludes the attack of a card. -/
def Concludes (event : GameEvent) (attacker : InstanceId) : Prop :=
  ∃ news, news ≠ .declared ∧ event.attackNews? = some (news, attacker)

/-- This tells whether a phase or a turn begins with an event. -/
def isOfTurn : GameEvent → Bool
  | turnStarted .. | phaseChanged _ => true
  | _ => false

/-- This tells that events are about no attack and that no phase or turn begins with them. -/
def Calm (events : List GameEvent) : Prop :=
  ∀ event ∈ events, event.attackNews? = none ∧ event.isOfTurn = false

variable {event : GameEvent} {early late : List GameEvent}

theorem attackNews?_eq_none (peaceful : event.isOfAttack = false) : event.attackNews? = none := by
  cases event <;> simp [isOfAttack, attackNews?] at peaceful ⊢

theorem isOfTurn_of_isTabled (table : event.isTabled = true) : event.isOfTurn = false := by
  cases event <;> simp [isTabled, isOfTurn] at table ⊢

theorem isOfTurn_of_isRemark (remark : event.isRemark = true) : event.isOfTurn = false := by
  cases event <;> simp [isRemark, isOfTurn] at remark ⊢

theorem not_concludes_attackDeclared (attacker other : InstanceId) (target : Option InstanceId) :
    ¬ (attackDeclared attacker target).Concludes other := by
  rintro ⟨news, concludes, told⟩
  obtain ⟨rfl, _⟩ := Prod.mk.inj (Option.some.inj told)
  exact concludes rfl

theorem calm_nil : Calm [] := by simp [Calm]

/-- Two parts of a log are calm if both are. -/
theorem calm_append : Calm (early ++ late) ↔ Calm early ∧ Calm late := List.forall_mem_append

theorem calm_singleton : Calm [event] ↔ event.attackNews? = none ∧ event.isOfTurn = false := by
  simp [Calm]

end GameEvent

open GameEvent

/--
This tells that attacks are told one by one: each one is concluded before the next one and before the
next phase or turn. The attack of the last part, if it is not concluded, is that of the given card.
-/
inductive AttackStory : List GameEvent → Option InstanceId → Prop where
  | start : AttackStory [] none
  | goesOn {events : List GameEvent} {waiting : Option InstanceId} {event : GameEvent}
      (earlier : AttackStory events waiting) (plain : event.attackNews? = none)
      (still : event.isOfTurn = true → waiting = none) : AttackStory (events ++ [event]) waiting
  | declared {events : List GameEvent} (earlier : AttackStory events none) (attacker : InstanceId)
      (target : Option InstanceId) :
      AttackStory (events ++ [.attackDeclared attacker target]) (some attacker)
  | concluded {events : List GameEvent} {attacker : InstanceId} {event : GameEvent}
      (earlier : AttackStory events (some attacker)) (ends : event.Concludes attacker) :
      AttackStory (events ++ [event]) none

namespace AttackStory

variable {events more early late : List GameEvent} {waiting : Option InstanceId}
  {attacker : InstanceId} {target : Option InstanceId}

/-- Calm events leave the attack that waits as it is. -/
theorem calm (story : AttackStory events waiting) (calm : Calm more) :
    AttackStory (events ++ more) waiting := by
  induction more generalizing events with
  | nil => rwa [List.append_nil]
  | cons event rest ih =>
    obtain ⟨plain, still⟩ := calm event (List.mem_cons_self ..)
    rw [List.append_cons]
    refine ih (story.goesOn plain ?_) fun other member => calm other (List.mem_cons_of_mem event member)
    intro begins
    simp [still] at begins

/-- As many attacks are declared as are concluded or wait. -/
theorem balance (story : AttackStory events waiting) :
    events.countP (tells .declared) = events.countP (tells .negated) +
      events.countP (tells .cancelled) + events.countP (tells .fought) +
        if waiting.isSome then 1 else 0 := by
  induction story with
  | start => rfl
  | goesOn earlier plain still ih => simpa [List.countP_append, tells, plain] using ih
  | declared earlier attacker target ih =>
    simp [List.countP_append, tells, attackNews?] at ih ⊢
    omega
  | concluded earlier ends ih =>
    obtain ⟨news, other, told⟩ := ends
    simp only [List.countP_append, List.countP_singleton, tells, told] at ih ⊢
    cases news with
    | declared => exact absurd rfl other
    | negated => simp at ih ⊢; omega
    | cancelled => simp at ih ⊢; omega
    | fought => simp at ih ⊢; omega

/-- An attack that waits was declared, and only calm events came since. -/
theorem waits (story : AttackStory events (some attacker)) : ∃ early target late,
    events = early ++ .attackDeclared attacker target :: late ∧ Calm late := by
  generalize same : some attacker = waiting at story
  induction story with
  | start => cases same
  | @goesOn events waiting event earlier plain still ih =>
    obtain ⟨early, target, late, rfl, calm⟩ := ih same
    refine ⟨early, target, late ++ [event], by simp, calm_append.mpr ⟨calm, ?_⟩⟩
    rw [← same] at still
    exact calm_singleton.mpr ⟨plain, by simpa using still⟩
  | declared earlier other target ih =>
    obtain rfl := Option.some.inj same
    exact ⟨_, target, [], rfl, calm_nil⟩
  | concluded earlier ends ih => cases same

/-- The last event of a story is the one at which it is split, or it comes later. -/
theorem split_last {last split : GameEvent} (same : events ++ [last] = early ++ split :: late) :
    (late = [] ∧ events = early ∧ last = split) ∨
      ∃ rest, late = rest ++ [last] ∧ events = early ++ split :: rest := by
  rcases late.eq_nil_or_concat with rfl | ⟨rest, final, rfl⟩
  · obtain ⟨first, second⟩ := List.append_inj' same rfl
    exact .inl ⟨rfl, first, List.singleton_inj.mp second⟩
  · rw [List.concat_eq_append, ← List.cons_append, ← List.append_assoc] at same
    obtain ⟨first, second⟩ := List.append_inj' same rfl
    obtain rfl := List.singleton_inj.mp second
    exact .inr ⟨rest, List.concat_eq_append, first⟩

/-- This tells that the attack of a card is concluded, and that only calm events come before. -/
def Settled (attacker : InstanceId) (late : List GameEvent) : Prop :=
  ∃ between ending rest, late = between ++ ending :: rest ∧ ending.Concludes attacker ∧ Calm between

/-- An attack that is settled stays settled. -/
theorem Settled.append (settled : Settled attacker late) (more : List GameEvent) :
    Settled attacker (late ++ more) := by
  obtain ⟨between, ending, rest, rfl, ends, calm⟩ := settled
  exact ⟨between, ending, rest ++ more, by simp, ends, calm⟩

/-- An attack that was declared waits, or it was concluded; only calm events come in between. -/
theorem after_declared (story : AttackStory events waiting)
    (told : events = early ++ .attackDeclared attacker target :: late) :
    waiting = some attacker ∧ Calm late ∨ Settled attacker late := by
  -- From the last event back: it is the declaration itself, or the declaration is in the part before.
  induction story generalizing late with
  | start => simp at told
  | @goesOn events waiting event earlier plain still ih =>
    rcases split_last told with ⟨rfl, rfl, rfl⟩ | ⟨rest, rfl, first⟩
    · simp [attackNews?] at plain
    · rcases ih first with ⟨rfl, calm⟩ | settled
      · exact .inl ⟨rfl, calm_append.mpr ⟨calm, calm_singleton.mpr ⟨plain, by simpa using still⟩⟩⟩
      · exact .inr (settled.append _)
  | declared earlier other aim ih =>
    rcases split_last told with ⟨rfl, rfl, same⟩ | ⟨rest, rfl, first⟩
    · obtain ⟨rfl, _⟩ := GameEvent.attackDeclared.inj same
      exact .inl ⟨rfl, calm_nil⟩
    · rcases ih first with ⟨none, _⟩ | settled
      · cases none
      · exact .inr (settled.append _)
  | @concluded events other event earlier ends ih =>
    rcases split_last told with ⟨rfl, rfl, rfl⟩ | ⟨rest, rfl, first⟩
    · exact (not_concludes_attackDeclared _ _ _ ends).elim
    · rcases ih first with ⟨same, calm⟩ | settled
      · obtain rfl := Option.some.inj same
        exact .inr ⟨rest, event, [], rfl, ends, calm⟩
      · exact .inr (settled.append _)

/-- An attack that is concluded was declared; only calm events come in between. -/
theorem before_concluded (story : AttackStory events waiting) {ending : GameEvent}
    (told : events = early ++ ending :: late) (ends : ending.Concludes attacker) :
    ∃ before target between, early = before ++ .attackDeclared attacker target :: between ∧
      Calm between := by
  induction story generalizing late with
  | start => simp at told
  | goesOn earlier plain still ih =>
    rcases split_last told with ⟨rfl, rfl, rfl⟩ | ⟨rest, rfl, first⟩
    · obtain ⟨news, _, same⟩ := ends
      simp [plain] at same
    · exact ih first
  | declared earlier other aim ih =>
    rcases split_last told with ⟨rfl, rfl, rfl⟩ | ⟨rest, rfl, first⟩
    · exact (not_concludes_attackDeclared _ _ _ ends).elim
    · exact ih first
  | concluded earlier endsToo ih =>
    rcases split_last told with ⟨rfl, rfl, rfl⟩ | ⟨rest, rfl, first⟩
    -- Both conclusions are this event, so they name one attacker, and that attack was waiting.
    · obtain ⟨news, _, same⟩ := ends
      obtain ⟨newsToo, _, sameToo⟩ := endsToo
      obtain ⟨_, rfl⟩ := Prod.mk.inj (Option.some.inj (same.symm.trans sameToo))
      exact earlier.waits
    · exact ih first

end AttackStory

end CardDuel
