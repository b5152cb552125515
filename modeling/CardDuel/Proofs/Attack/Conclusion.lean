/-
This file shows that in every run each attack that is declared is concluded exactly once, whatever answers
it: the attack that waits is the one that the log leaves open.
-/

import CardDuel.Proofs.Attack.Story

namespace CardDuel

open GameEvent

namespace GameState

def events (state : GameState) : List GameEvent := state.log.map LoggedEvent.event

/-- This tells that the log tells of attacks one by one, up to the one that waits. -/
def TellsAttacks (state : GameState) : Prop :=
  AttackStory state.events (state.pendingAttack.map PendingAttack.attacker)

variable {may : GameState → Change → Prop} {rules : Rules} {ways : Placement → Prop}
  {before middle late after state : GameState}
  {event : GameEvent}

/-- What is told is the last event. -/
theorem events_record (state : GameState) (event : GameEvent) :
    (state.record event).events = state.events ++ [event] := by
  simp [events, record]

/-- What tells nothing and leaves the attack alone keeps the story. -/
theorem TellsAttacks.same (story : before.TellsAttacks) (log : after.log = before.log)
    (attack : after.pendingAttack = before.pendingAttack) : after.TellsAttacks := by
  rw [TellsAttacks, events, log, attack]
  exact story

/-- One more event that is about no attack goes on with the story, and opens no phase while one waits. -/
theorem TellsAttacks.told (story : before.TellsAttacks) (log : middle.log = before.log)
    (attack : middle.pendingAttack = before.pendingAttack) (plain : event.attackNews? = none)
    (still : event.isOfTurn = true → before.pendingAttack = none) :
    (middle.record event).TellsAttacks := by
  have kept : middle.TellsAttacks := story.same log attack
  rw [TellsAttacks, events_record]
  apply AttackStory.goesOn kept plain
  intro begins
  show middle.pendingAttack.map PendingAttack.attacker = none
  rw [attack, still begins]
  rfl

/-- One more event that is about no attack, phase or turn goes on with the story. -/
theorem TellsAttacks.noted (story : before.TellsAttacks) (log : middle.log = before.log)
    (attack : middle.pendingAttack = before.pendingAttack) (plain : event.attackNews? = none)
    (still : event.isOfTurn = false) : (middle.record event).TellsAttacks :=
  story.told log attack plain fun begins => by simp [still] at begins

/-! Deeds -/

/-- Whatever stays on the table is told of by calm events. -/
theorem OnTable.calm {grants : Modifier → Prop} (table : OnTable grants before after) :
    ∃ more, after.events = before.events ++ more ∧ Calm more := by
  obtain ⟨told, same, _, about⟩ := table.told
  refine ⟨told.map LoggedEvent.event, by rw [events, same, List.map_append]; rfl, ?_⟩
  intro event member
  obtain ⟨entry, listed, rfl⟩ := List.mem_map.mp member
  obtain ⟨tabled, peaceful⟩ := about entry listed
  exact ⟨attackNews?_eq_none peaceful, isOfTurn_of_isTabled tabled⟩

/-- While no attack waits, deeds are told of by calm events. -/
theorem Deeds.calm (deeds : Deeds may before after) (peaceful : before.pendingAttack = none) :
    ∃ more, after.events = before.events ++ more ∧ Calm more := by
  induction deeds with
  | refl => exact ⟨[], by simp, calm_nil⟩
  | @tail middle after earlier deed ih =>
    obtain ⟨early, same, calm⟩ := ih
    rcases deed.cases with table | ⟨_, _, _, rfl⟩ | ⟨attack, waits, _⟩
    · obtain ⟨late, sameToo, calmToo⟩ := table.calm
      exact ⟨early ++ late, by rw [sameToo, same, List.append_assoc],
        calm_append.mpr ⟨calm, calmToo⟩⟩
    · exact ⟨early, same, calm⟩
    · have free := (Deeds.frame earlier).attack_eq_none peaceful
      simp [waits] at free

/-- Deeds go on with the story; one that negates the attack concludes it. -/
theorem Deeds.tellsAttacks (deeds : Deeds may before after) (story : before.TellsAttacks) :
    after.TellsAttacks := by
  induction deeds with
  | refl => exact story
  | @tail middle after _ deed ih =>
    rcases deed.cases with table | ⟨_, _, _, rfl⟩ | ⟨attack, waits, rfl⟩
    · obtain ⟨more, same, calm⟩ := table.calm
      rw [TellsAttacks, same, table.attack]
      exact ih.calm calm
    · exact ih.same rfl rfl
    · rw [TellsAttacks, waits] at ih
      rw [TellsAttacks, withoutAttack, events_record]
      exact ih.concluded ⟨.negated, by decide, rfl⟩

/-- The effect of a link keeps the tale of the attacks. -/
theorem carryOut_tellsAttacks (story : state.TellsAttacks) (catalog : Catalog) (link : ChainLink) :
    (state.carryOut catalog link).1.TellsAttacks := by
  rcases carryOut_cases state catalog link with deeds | ⟨_, _, _, _, same⟩
  · exact deeds.tellsAttacks story
  · rw [same]
    exact story.noted rfl rfl rfl rfl

/-- A battle or a cancellation concludes the attack that waited. -/
theorem conclude_tellsAttacks {attack : PendingAttack} (story : before.TellsAttacks)
    (waits : before.pendingAttack = some attack)
    (deeds : Deeds may { before with pendingAttack := none } late)
    (ends : event = .attackCancelled attack.attacker ∨
      event = .battleResolved attack.attacker attack.target) : (late.record event).TellsAttacks := by
  obtain ⟨more, told, calm⟩ := deeds.calm rfl
  have free : (late.record event).pendingAttack = none := deeds.frame.attack_eq_none rfl
  have concludes : event.Concludes attack.attacker := by
    rcases ends with rfl | rfl
    · exact ⟨.cancelled, by decide, rfl⟩
    · exact ⟨.fought, by decide, rfl⟩
  rw [TellsAttacks, waits] at story
  rw [TellsAttacks, free, events_record, told]
  exact (story.calm calm).concluded concludes

/-! Acts -/

/-- Every act goes on with the story. -/
theorem Act.tellsAttacks (act : Act rules ways before after) (anchored : before.Anchored)
    (story : before.TellsAttacks) : after.TellsAttacks := by
  cases act with
  | deed deed => exact (Deeds.of_deed deed).tellsAttacks story
  | aside aside => exact story.same aside.log aside.attack
  | note remark =>
    exact story.noted rfl rfl (attackNews?_eq_none (isOfAttack_of_isRemark remark))
      (isOfTurn_of_isRemark remark)
  | enter free phase => exact story.told rfl rfl rfl fun _ => free.peaceful
  | newTurn free seat => exact story.told rfl rfl rfl fun _ => free.peaceful
  | @attack card attacker target aim peaceful there aimed =>
    rw [TellsAttacks, peaceful] at story
    obtain rfl : attacker.id = card := anchored.id_eq there
    rw [TellsAttacks, events_record]
    exact story.declared attacker.id aim
  | conclude waits deeds ends => exact conclude_tellsAttacks story waits deeds ends
  | finish running result => exact story.noted rfl rfl rfl rfl
  | @use early placed late link way may first placing second =>
    have activated : (early.record
        (.effectActivated link.source link.effect link.controller)).TellsAttacks :=
      (first.tellsAttacks story).noted rfl rfl rfl rfl
    have places := placing.deeds.tellsAttacks activated
    exact (second.tellsAttacks places).noted rfl rfl rfl rfl
  | answer same => exact story.same rfl rfl
  | @resolve link chain running popped =>
    have taken : ({ before with chain := chain } : GameState).TellsAttacks := story.same rfl rfl
    have carried : ({ before with chain := chain }.carried rules.catalog link).TellsAttacks :=
      (carryOut_tellsAttacks taken rules.catalog link).noted rfl rfl rfl rfl
    exact (spent_deeds _ rules.catalog link).tellsAttacks carried
  | clear drained priority => exact story.same rfl rfl

/-- This tells that the log of a running duel tells of attacks one by one, by the numbers of cards. -/
structure Recounted (state : GameState) : Prop where
  anchored : state.Anchored
  story : state.outcome = none → state.TellsAttacks

/-- Every move of a running duel goes on with the story. -/
theorem Move.recounted (move : Move rules ways before after) (recounted : before.Recounted) :
    after.Recounted := by
  refine ⟨move.shifts.anchored recounted.anchored, ?_⟩
  intro goesOn
  cases move with
  | act act =>
    exact act.tellsAttacks recounted.anchored (recounted.story (act.running goesOn))
  | offer events window => exact (recounted.story goesOn).same rfl rfl
  | drop ended =>
    change before.outcome = none at goesOn
    simp [goesOn] at ended

def countNews (state : GameState) (news : AttackNews) : Nat :=
  state.log.countP fun entry => entry.event.tells news

end GameState

namespace DuelSetup

open GameState

variable {setup : DuelSetup} {requests : List Request} {duel : Duel}

/-- The log of every reached state tells of its attacks one by one. -/
theorem Run.recounted (run : setup.Run requests duel) : duel.state.Recounted := by
  refine run.moves.keeps (fun move => move.recounted) ⟨setup.withDecks_anchored, ?_⟩
  intro _
  rw [TellsAttacks, GameState.events, setup.withDecks_unused.2.1,
    setup.withDecks_frame.attack_eq_none rfl]
  exact .start

/--
In every state of a running duel as many attacks were declared as were negated, cancelled or fought, and
one more if an attack waits. Each attack that was declared waits now or was concluded afterwards, and in
between no other attack, no phase and no turn is told of; and each conclusion belongs to the attack that
was declared last.
-/
theorem Run.concludes_attacks (run : setup.Run requests duel) (running : duel.state.outcome = none) :
    duel.state.countNews .declared = duel.state.countNews .negated +
        duel.state.countNews .cancelled + duel.state.countNews .fought +
          (if duel.state.pendingAttack.isSome then 1 else 0) ∧
      (∀ early attacker target late,
        duel.state.events = early ++ .attackDeclared attacker target :: late →
        (∃ attack, duel.state.pendingAttack = some attack ∧ attack.attacker = attacker ∧ Calm late) ∨
          ∃ between ending rest, late = between ++ ending :: rest ∧ ending.Concludes attacker ∧
            Calm between) ∧
      ∀ early ending attacker late, duel.state.events = early ++ ending :: late →
        ending.Concludes attacker → ∃ before target between,
          early = before ++ .attackDeclared attacker target :: between ∧ Calm between := by
  have story := run.recounted.story running
  have balance := story.balance
  refine ⟨?_, ?_, fun early ending attacker late told ends => story.before_concluded told ends⟩
  · simp only [GameState.events, List.countP_map, Option.isSome_map] at balance
    exact balance
  · intro early attacker target late told
    rcases story.after_declared told with ⟨waits, calm⟩ | settled
    · obtain ⟨attack, same, named⟩ := Option.map_eq_some_iff.mp waits
      exact .inl ⟨attack, same, named, calm⟩
    · exact .inr settled

/-- A sentry of the second player attacks the first player. -/
def sentryAttack : List Request :=
  [.act .first .endTurn, .act .second (.normalSummon ⟨3⟩ []), .act .second .enterBattlePhase,
    .act .second (.declareAttack ⟨3⟩ none)]

/-- The attack of a sentry is over when it was fought. -/
theorem sentries_conclude_attacks :
    ∃ duel early late, sentries.Run sentryAttack duel ∧ duel.state.outcome = none ∧
      duel.state.countNews .fought = 1 ∧ duel.state.countNews .declared = 1 ∧
      duel.state.events = early ++ .attackDeclared ⟨3⟩ none :: late ∧
      ∃ between ending rest, late = between ++ ending :: rest ∧ ending.Concludes ⟨3⟩ ∧
        Calm between := by
  have played : (sentries.play? sentryAttack).any (fun duel =>
      decide (duel.state.outcome = none ∧ duel.state.pendingAttack = none ∧
        duel.state.countNews .negated = 0 ∧ duel.state.countNews .cancelled = 0 ∧
        duel.state.countNews .fought = 1 ∧ .attackDeclared ⟨3⟩ none ∈ duel.state.events)) =
      true := by
    decide +kernel
  obtain ⟨duel, followed, facts⟩ := (Option.any_eq_true _ _).mp played
  obtain ⟨running, free, negated, cancelled, fought, declared⟩ := of_decide_eq_true facts
  have run : sentries.Run sentryAttack duel := .of_play followed
  obtain ⟨balance, concluded, _⟩ := run.concludes_attacks running
  obtain ⟨early, late, told⟩ := List.append_of_mem declared
  refine ⟨duel, early, late, run, running, fought, ?_, told, ?_⟩
  · rw [balance, negated, cancelled, fought, free]
    rfl
  · rcases concluded early ⟨3⟩ none late told with ⟨attack, waits, _⟩ | settled
    · simp [free] at waits
    · exact settled

end DuelSetup

end CardDuel
