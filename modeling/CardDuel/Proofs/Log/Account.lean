/-
This file reads the log as a book of life points: what it tells adds up to the life points of each player
and never takes more than was there. Its entries are numbered and stamped with their turns, and it only
grows.
-/

import CardDuel.Proofs.Move.Stroke

namespace CardDuel

namespace GameEvent

def isOfLife : GameEvent → Bool
  | damage .. | lifeGained .. | lifePaid .. => true
  | _ => false

/-- This is what an event makes of the life points of a player; nothing holds them above zero. -/
def account (player : Seat) (life : Int) : GameEvent → Int
  | damage seat amount _ | lifePaid seat amount =>
    if seat = player then life - amount.toNat else life
  | lifeGained seat amount =>
    if seat = player then min (life + amount.toNat) (UInt32.size - 1) else life
  | _ => life

/-- This is what events make of the life points of a player, one after the other. -/
def balance (player : Seat) (life : Int) (events : List GameEvent) : Int :=
  events.foldl (account player) life

variable {player : Seat} {life : Int} {event : GameEvent} {events more : List GameEvent}

theorem isOfLife_of_isSilent (silent : event.isSilent = true) : event.isOfLife = false := by
  cases event with
  | damage | lifeGained | lifePaid => cases silent
  | _ => rfl

theorem account_of_free (free : event.isOfLife = false) : account player life event = life := by
  cases event with
  | damage | lifeGained | lifePaid => cases free
  | _ => rfl

/-- Two parts of a log are balanced one after the other. -/
theorem balance_append : balance player life (events ++ more) =
    balance player (balance player life events) more := List.foldl_append

theorem balance_of_free (free : ∀ event ∈ events, event.isOfLife = false) :
    balance player life events = life := by
  induction events with
  | nil => rfl
  | cons event rest ih =>
    obtain ⟨first, others⟩ := List.forall_mem_cons.mp free
    rw [balance, List.foldl_cons, account_of_free first]
    exact ih others

end GameEvent

open GameEvent

namespace GameState

/-- This tells that events account for the life points of both players, without ever overdrawing them. -/
def Accounts (before : GameState) (events : List GameEvent) (after : GameState) : Prop :=
  ∀ player, (∀ count, 0 ≤ balance player (before.player player).life.toNat (events.take count)) ∧
    balance player (before.player player).life.toNat events = (after.player player).life.toNat

variable {before middle after : GameState} {events more : List GameEvent}

namespace Accounts

theorem refl (state : GameState) : Accounts state [] state :=
  fun player => ⟨fun count => by simp [balance], rfl⟩

theorem trans (first : Accounts before events middle) (second : Accounts middle more after) :
    Accounts before (events ++ more) after := by
  intro player
  obtain ⟨early, total⟩ := first player
  obtain ⟨late, totalToo⟩ := second player
  refine ⟨?_, by rw [balance_append, total, totalToo]⟩
  intro count
  rw [List.take_append]
  rcases Nat.le_total count events.length with short | long
  · rw [Nat.sub_eq_zero_of_le short, List.take_zero, List.append_nil]
    exact early count
  · rw [List.take_of_length_le long, balance_append, total]
    exact late _

/-- Events that are not about life points account for no change. -/
theorem free (lives : ∀ player, (after.player player).life = (before.player player).life)
    (free : ∀ event ∈ events, event.isOfLife = false) : Accounts before events after := by
  refine fun player => ⟨fun count => ?_, ?_⟩
  · rw [balance_of_free fun event member => free event (List.mem_of_mem_take member)]
    exact Int.natCast_nonneg _
  · rw [balance_of_free free, lives]

/-- One event accounts for a change if it does so for each player. -/
theorem single {event : GameEvent} (told : ∀ player,
    account player (before.player player).life.toNat event = (after.player player).life.toNat) :
    Accounts before [event] after := by
  refine fun player => ⟨fun count => ?_, told player⟩
  cases count with
  | zero => exact Int.natCast_nonneg _
  | succ count =>
    have total : balance player (before.player player).life.toNat [event] =
        (after.player player).life.toNat := told player
    rw [List.take_succ_cons, List.take_nil, total]
    exact Int.natCast_nonneg _

end Accounts

theorem life_setLife (state : GameState) (seat other : Seat) (life : UInt32) :
    ((Change.setLife state seat life).player other).life =
      if other = seat then life else (state.player other).life := by
  rw [Change.setLife, player_modifyPlayer]
  split
  · rfl
  · rfl

theorem toNat_addLife (life amount : UInt32) : ((Change.addLife life amount).toNat : Int) =
    min ((life.toNat : Int) + amount.toNat) (UInt32.size - 1) := by
  have small := life.toNat_lt
  have smallToo := amount.toNat_lt
  rw [Change.addLife]
  split
  · next fits =>
    rw [UInt32.toNat_add, Nat.mod_eq_of_lt fits]
    simp only [UInt32.size] at fits ⊢
    omega
  · next large =>
    simp only [UInt32.size] at large ⊢
    simp only [UInt32.reduceToNat]
    omega

/-- A new number of life points of one player is accounted for by one event with the same result. -/
theorem accounts_setLife {seat : Seat} {life : UInt32} {event : GameEvent}
    (told : ∀ player, account player (before.player player).life.toNat event =
      if seat = player then (life.toNat : Int) else (before.player player).life.toNat) :
    Accounts before [event] ((Change.setLife before seat life).recordAll [event]) := by
  refine .single ?_
  intro player
  refine (told player).trans ?_
  rw [player_recordAll, life_setLife]
  by_cases own : seat = player
  · rw [if_pos own, if_pos own.symm]
  · rw [if_neg own, if_neg (Ne.symm own)]

/-- Every change of life points is told with its amount. -/
theorem Reckoning.accounts {seat : Seat} {life : UInt32}
    (reckoning : Reckoning seat (before.player seat).life life events) :
    Accounts before events ((Change.setLife before seat life).recordAll events) := by
  cases reckoning with
  | unhurt =>
    refine .free ?_ (by simp)
    intro player
    rw [player_recordAll, life_setLife]
    split
    · next own => rw [own]
    · rfl
  | @hurt dealt enough byBattle =>
    apply accounts_setLife
    intro player
    rw [account, UInt32.toNat_sub_of_le _ _ enough,
      Int.natCast_sub (UInt32.le_iff_toNat_le.mp enough)]
    grind
  | gained amount =>
    apply accounts_setLife
    intro player
    rw [account, toNat_addLife]
    grind
  | @paid amount enough =>
    apply accounts_setLife
    intro player
    rw [account, UInt32.toNat_sub_of_le _ _ enough,
      Int.natCast_sub (UInt32.le_iff_toNat_le.mp enough)]
    grind

/-- A handling accounts for all changes of life points. -/
theorem Handling.accounts (handling : Handling before events after) :
    Accounts before events after := by
  cases handling with
  | @arrive next card found zone origin place position note events known moved arrival =>
    refine .free ?_ (by cases arrival <;> simp [isOfLife])
    intro player
    rw [player_recordAll]
    exact ((SameLife.relocate moved) player).1
  | shuffle player =>
    exact .free (fun seat => ((SameLife.setZones _ player _) seat).1) (by simp [isOfLife])
  | turn known monsters upright => exact .free (fun _ => rfl) (by simp [isOfLife])
  | mark cause known field => exact .free (fun _ => rfl) (by simp)
  | unmark card => exact .free (fun _ => rfl) (by simp)
  | reckon reckoning => exact reckoning.accounts
  | grant modifier => exact .free (fun _ => rfl) (by simp)
  | negate negated => exact .free (fun _ => rfl) (by simp)
  | free attack => exact .free (fun _ => rfl) (by simp [isOfLife])
  | refresh catalog => exact .free (fun _ => rfl) (by simp)

variable {catalog : Catalog} {ways : Placement → Prop}

/-- Every stroke tells of the life points that it takes and gives. -/
theorem Stroke.accounts (stroke : Stroke catalog ways before events after) :
    Accounts before events after := by
  cases stroke with
  | handle handling => exact handling.accounts
  | announce known printed otherwise =>
    exact .free (fun _ => rfl) (by simp [ChainLink.announcement, isOfLife])
  | enter allowed known printed activates hand moved =>
    exact .free (fun player => ((SameLife.relocate moved) player).1)
      (by simp [ChainLink.announcement, isOfLife])
  | reveal known printed activates spells =>
    exact .free (fun _ => rfl) (by simp [ChainLink.announcement, isOfLife])
  | aside aside => exact .free aside.lives (by simp)
  | tell silent =>
    exact .free (fun _ => rfl) (List.forall_mem_singleton.mpr (isOfLife_of_isSilent silent))
  | newTurn seat =>
    refine .free ?_ (by simp [isOfLife])
    intro player
    cases player <;> rfl
  | rearrange same =>
    refine .free ?_ (by simp)
    intro player
    rw [GameState.player, GameState.player, same.players]

/-- Strokes account for all changes of life points. -/
theorem Strokes.accounts (strokes : Strokes catalog ways before events after) :
    Accounts before events after := by
  induction strokes with
  | refl => exact .refl before
  | tail _ stroke ih => exact ih.trans stroke.accounts

/-! Numbers and turns -/

/-- This is the number of turns of which a part of the log tells. -/
def turnsBegun (log : List LoggedEvent) : Nat := log.countP fun entry => entry.event.isTurnStart

/-- This tells that every entry of the log has its number and the number of the turn that it is told in. -/
structure Stamped (state : GameState) : Prop where
  now : state.turn = .ofNat (turnsBegun state.log)
  numbered : ∀ (place : Nat) (entry : LoggedEvent), state.log[place]? = some entry →
    entry.seq = place.toUInt64 ∧ entry.turn = .ofNat (turnsBegun (state.log.take (place + 1)))

namespace Stamped

variable {state next : GameState}

theorem congr (stamped : state.Stamped) (log : next.log = state.log)
    (turn : next.turn = state.turn) : next.Stamped := by
  refine ⟨?_, ?_⟩
  · rw [turn, log]
    exact stamped.now
  · rw [log]
    exact stamped.numbered

/-- One more event gets the next number and the present turn. -/
theorem then_event (event : GameEvent) (stamped : state.Stamped)
    (log : next.log = state.log ++ [⟨state.log.length.toUInt64, next.turn, event⟩])
    (turn : next.turn = if event.isTurnStart then state.turn + 1 else state.turn) :
    next.Stamped := by
  have now : next.turn = .ofNat (turnsBegun next.log) := by
    rw [log, turnsBegun, List.countP_append, turn, stamped.now]
    cases starts : event.isTurnStart <;> simp [turnsBegun, starts]
  refine ⟨now, ?_⟩
  intro place entry there
  rw [log] at there
  rcases Nat.lt_or_ge place state.log.length with early | late
  · rw [List.getElem?_append_left early] at there
    rw [log, List.take_append_of_le_length early]
    exact stamped.numbered place entry there
  · rw [List.getElem?_append_right late] at there
    obtain ⟨inside, rfl⟩ := List.getElem?_eq_some_iff.mp there
    have last : place = state.log.length := by
      simp only [List.length_singleton] at inside
      omega
    subst last
    simp only [Nat.sub_self, List.getElem_singleton, true_and]
    rw [now, List.take_of_length_le (by simp [log])]

theorem recordAll (stamped : state.Stamped) (within : ∀ event ∈ events, event.isTurnStart = false) :
    (state.recordAll events).Stamped := by
  induction events generalizing state with
  | nil => exact stamped
  | cons event rest ih =>
    obtain ⟨first, others⟩ := List.forall_mem_cons.mp within
    have next : (state.record event).Stamped := stamped.then_event event rfl (by simp [first, record])
    exact ih next others

end Stamped

/-- A stroke keeps the stamps of the log. -/
theorem Stroke.stamped (stroke : Stroke catalog ways before events after)
    (stamped : before.Stamped) : after.Stamped := by
  rcases stroke.tells with tells | ⟨seat, rfl, rfl⟩
  · exact (stamped.recordAll tells.within).congr tells.log
      (tells.turn.trans (before.turn_recordAll events).symm)
  · exact stamped.then_event (.turnStarted seat (before.turn + 1)) rfl rfl

/-- Stamps never decrease, as long as the turns that began can be told apart by their numbers. -/
theorem Stamped.mono {state : GameState} (stamped : state.Stamped) {early late : Nat}
    {first second : LoggedEvent} (order : early ≤ late) (there : state.log[early]? = some first)
    (thereToo : state.log[late]? = some second) :
    first.turn ≤ second.turn ∨ UInt32.size ≤ turnsBegun state.log := by
  have sooner : turnsBegun (state.log.take (early + 1)) ≤ turnsBegun (state.log.take (late + 1)) :=
    (List.take_sublist_take_left (Nat.succ_le_succ order)).countP_le
  have all : turnsBegun (state.log.take (late + 1)) ≤ turnsBegun state.log :=
    (List.take_sublist _ _).countP_le
  rcases Nat.lt_or_ge (turnsBegun state.log) UInt32.size with few | many
  · left
    rw [(stamped.numbered early first there).2, (stamped.numbered late second thereToo).2,
      UInt32.le_iff_toNat_le, UInt32.toNat_ofNat_of_lt' (by omega),
      UInt32.toNat_ofNat_of_lt' (by omega)]
    exact sooner
  · exact .inr many

end GameState

namespace DuelSetup

open GameState

variable {setup : DuelSetup} {requests : List Request} {duel : Duel}

theorem withDecks_life (setup : DuelSetup) (player : Seat) :
    (setup.withDecks.player player).life = setup.rules.config.startingLife := by
  rw [(setup.withDecks_sameLife player).1]
  cases player <;> rfl

/-- All that was told since the decks were full accounts for the life points. -/
theorem Run.accounts (run : setup.Run requests duel) :
    Accounts setup.withDecks (duel.state.log.map LoggedEvent.event) duel.state := by
  obtain ⟨events, strokes⟩ := run.moves.struck
  have told := strokes.events_log
  rw [setup.withDecks_unused.2.1, List.map_nil, List.nil_append] at told
  exact told ▸ strokes.accounts

/-- The log of every reached state is stamped. -/
theorem Run.stamped (run : setup.Run requests duel) : duel.state.Stamped := by
  obtain ⟨events, strokes⟩ := run.moves.struck
  refine strokes.keeps (fun stroke => stroke.stamped) ⟨?_, ?_⟩
  · rw [setup.withDecks_unused.2.1]
    exact setup.withDecks_frame.turn
  · simp [setup.withDecks_unused.2.1]

/-- Whatever is asked for, the log only grows. -/
theorem Run.log_grows {more : List Request} {after : Duel} (run : setup.Run requests duel)
    (followed : followUp? duel more = some after) : duel.state.log <+: after.state.log := by
  induction more generalizing requests duel with
  | nil =>
    obtain rfl := Option.some.inj followed
    exact List.prefix_rfl
  | cons request rest ih =>
    obtain ⟨middle, answered, others⟩ := Option.bind_eq_some_iff.mp followed
    obtain ⟨⟨report, next⟩, given, rfl⟩ := Option.map_eq_some_iff.mp answered
    have served := toOption_eq_some.mp given
    have moves : Moves setup.rules (fun _ => True) duel.state next.state :=
      run.serve_moves trivial (fun _ _ _ _ _ _ _ _ => trivial) served
    exact moves.log.trans (ih (run.next served) others)

/--
The log accounts for the life points of each player: from the starting life on, what it tells never takes
more than is there and adds up to what is left. Later logs continue earlier ones, every entry has its
number, and turns are told in their order as long as they can be told apart by their numbers.
-/
theorem Run.keeps_account (run : setup.Run requests duel) :
    (∀ player,
      (∀ count, 0 ≤ balance player setup.rules.config.startingLife.toNat
        ((duel.state.log.map LoggedEvent.event).take count)) ∧
      balance player setup.rules.config.startingLife.toNat (duel.state.log.map LoggedEvent.event) =
        (duel.state.player player).life.toNat) ∧
    (∀ more after, setup.Run (requests ++ more) after → duel.state.log <+: after.state.log) ∧
    (∀ (place : Nat) (entry : LoggedEvent), duel.state.log[place]? = some entry →
      entry.seq = place.toUInt64) ∧
    ∀ (early late : Nat) (first second : LoggedEvent), early ≤ late →
      duel.state.log[early]? = some first → duel.state.log[late]? = some second →
        first.turn ≤ second.turn ∨ UInt32.size ≤ turnsBegun duel.state.log := by
  refine ⟨?_, fun more after later => run.log_grows (run.continued later),
    fun place entry there => (run.stamped.numbered place entry there).1,
    fun early late first second order there => run.stamped.mono order there⟩
  intro player
  have accounts := run.accounts player
  rwa [setup.withDecks_life] at accounts

/-- This is a duel in which each player has one monster that costs two life points and gives back five. -/
def pilgrims : DuelSetup where
  rules := ⟨⟨[⟨⟨1⟩, "Pilgrim", .monster 1 100 100,
    [{ CardEffect.plain .trigger .one (.act (.gainLife 5) .controller) with
      cost := some ⟨.lifePoints, 2⟩
      trigger := some ⟨.summoned, .this, .either, false⟩ }], [], none⟩]⟩,
    { DuelConfig.standard with startingLife := 3, startingHand := 1 }⟩
  decks := .replicate [⟨1⟩]
  seed := 0
  shuffle := false
  firstPlayer := .first

/-- The log of a summoned pilgrim tells of two life points paid and then of five gained. -/
theorem pilgrims_keep_account :
    ∃ paid resolved, pilgrims.Run [.act .first (.normalSummon ⟨0⟩ [])] paid ∧
      pilgrims.Run ([.act .first (.normalSummon ⟨0⟩ [])] ++
        [.act .second .passPriority, .act .first .passPriority]) resolved ∧
      (paid.state.player .first).life = 1 ∧ (resolved.state.player .first).life = 6 ∧
      balance .first 3 (paid.state.log.map LoggedEvent.event) = 1 ∧
      balance .first 3 (resolved.state.log.map LoggedEvent.event) = 6 ∧
      paid.state.log <+: resolved.state.log := by
  have played : (pilgrims.play? [.act .first (.normalSummon ⟨0⟩ [])]).any (fun paid =>
      (followUp? paid [.act .second .passPriority, .act .first .passPriority]).any fun resolved =>
        decide ((paid.state.player .first).life = 1 ∧
          (resolved.state.player .first).life = 6)) = true := by
    decide +kernel
  obtain ⟨paid, begun, goesOn⟩ := (Option.any_eq_true _ _).mp played
  obtain ⟨resolved, followed, lives⟩ := (Option.any_eq_true _ _).mp goesOn
  obtain ⟨one, six⟩ := of_decide_eq_true lives
  have run : pilgrims.Run [.act .first (.normalSummon ⟨0⟩ [])] paid := .of_play begun
  have later := run.followUp followed
  obtain ⟨account, grows, _⟩ := run.keeps_account
  have early := (account .first).2
  have late := (later.keeps_account.1 .first).2
  rw [one] at early
  rw [six] at late
  exact ⟨paid, resolved, run, later, one, six, early, late, grows _ resolved later⟩

end DuelSetup

end CardDuel
