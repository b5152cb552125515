/-
This file shows that what is allowed once in a turn is done once in a turn: monsters are summoned normally or
set once and by the player of the turn, and a card attacks a second time, or is activated after it was set,
only when it has moved in between.
-/

import CardDuel.Proofs.Allowance.Mark
import CardDuel.Proofs.Log.Stamp

namespace CardDuel

namespace GameEvent

/-- This is the player whose turn an event begins. -/
def starter? : GameEvent → Option Seat
  | turnStarted player _ => some player
  | _ => none

/-- This tells that an event takes the flags of the turn from a card. -/
def clears (card : InstanceId) : GameEvent → Bool
  | turnStarted .. => true
  | cardMoved other .. => other = card
  | _ => false

/-- The turns begin with the events that name a starter. -/
theorem isTurnStart_eq (event : GameEvent) : event.isTurnStart = event.starter?.isSome := by
  cases event <;> rfl

theorem starter?_eq_some {event : GameEvent} {player : Seat} :
    event.starter? = some player ↔ ∃ turn, event = .turnStarted player turn := by
  cases event <;> simp [starter?, eq_comm]

end GameEvent

/-- This is the card that gets a flag of the turn by an event. -/
def TurnFlag.bearer? : TurnFlag → GameEvent → Option InstanceId
  | attacked, .attackDeclared card _ => some card
  | set, .cardSet card _ => some card
  | _, _ => none

namespace GameState

/-- This tells that an event cannot follow while a card has a flag of the turn. -/
def Blocks (table : GameState) (catalog : Catalog) (card : InstanceId) : TurnFlag → GameEvent → Prop
  | .attacked, event => ∃ target, event = .attackDeclared card target
  | .set, event => ∃ index player, event = .effectActivated card index player ∧
      table.Springs catalog card index

/-- This tells that a part of the log tells of a move of a card. -/
def TellsMove (log : List LoggedEvent) (card : InstanceId) : Prop :=
  ∃ entry ∈ log, ∃ origin destination, entry.event = .cardMoved card origin destination

/-- This is the ban to do with a card what it did before in the turn. -/
def flagBan (table : GameState) (catalog : Catalog) (flag : TurnFlag) (card : InstanceId) : Ban where
  initial := false
  imposes event := flag.bearer? event = some card
  lifts event := event.clears card
  Forbids := table.Blocks catalog card flag

/-- This is the ban to summon normally after another summon of the turn and in the turn of the opponent. -/
def summonBan (table : GameState) (player : Seat) : Ban where
  initial := true
  imposes event := (table.summoner? event).isSome || event.starter? = some player.opponent
  lifts event := event.starter? = some player
  Forbids event := table.summoner? event = some player

variable {catalog : Catalog} {config : DuelConfig} {table before after : GameState} {card : InstanceId}
  {flag : TurnFlag} {player : Seat} {event : GameEvent}

/-! Summons -/

/-- No card becomes a monster or ceases to be one. -/
theorem Shifts.summoner?_eq (shifts : Shifts before after) (event : GameEvent) :
    after.summoner? event = before.summoner? event := by
  cases event with
  | cardSet card player =>
    have same : (after.card? card).any CardInstance.isMonster =
        (before.card? card).any CardInstance.isMonster := by
      cases known : before.card? card with
      | none =>
        cases there : after.card? card with
        | none => rfl
        | some found =>
          obtain ⟨_, present, _⟩ := shifts.printed_before there
          simp [known] at present
      | some found =>
        obtain ⟨later, there, _⟩ := shifts.card_at known
        rw [there, Option.any_some, Option.any_some, shifts.isMonster known there]
    rw [summoner?, summoner?, same]
  | _ => rfl

/-- Nobody summons normally by a routine event. -/
theorem summoner?_of_isRoutine (routine : event.isRoutine = true) : table.summoner? event = none := by
  cases event with
  | summoned card player kind =>
    have other : kind ≠ .normal ∧ kind ≠ .tribute := by simpa [GameEvent.isRoutine] using routine
    simp [summoner?, other]
  | cardSet => cases routine
  | _ => rfl

theorem starter?_of_isRoutine (routine : event.isRoutine = true) : event.starter? = none := by
  cases event with
  | turnStarted => cases routine
  | _ => rfl

/-- In a feat the player of the turn uses the normal summon, or nobody does, or a turn begins. -/
theorem Feat.cases_summoner (feat : Feat catalog before after event) :
    (before.summoner? event = some before.turnPlayer ∧ event.starter? = none ∧ Spends before after) ∨
    (before.summoner? event = none ∧ event.starter? = none ∧ Saves before after) ∨
    ∃ seat, before.summoner? event = none ∧ event.starter? = some seat ∧ after = before.passTurn seat := by
  cases feat with
  | turn seat passed => exact .inr (.inr ⟨seat, rfl, rfl, passed⟩)
  | summon enters spends comes => exact .inl ⟨by simp [summoner?, comes], rfl, spends⟩
  | setMonster known monster enters spends shown =>
    exact .inl ⟨by simp [summoner?, known, monster], rfl, spends⟩
  | setSpell known spell enters saves shown =>
    exact .inr (.inl ⟨by simp [summoner?, known, spell], rfl, saves⟩)
  | attack saves | activate saves => exact .inr (.inl ⟨rfl, rfl, saves⟩)

/-- Whoever has the normal summon left is free to use it, in the own turn. -/
theorem summonBan_shown (catalog : Catalog) (table : GameState) (player : Seat) :
    (table.summonBan player).Shown catalog table fun state =>
      state.turnPlayer = player → (state.player player).normalSummonUsed = true where
  lull := by
    intro before after _ lull
    obtain ⟨events, same, routine, _⟩ := lull.told
    refine ⟨events, same, ?_, ?_, ?_⟩
    · intro event member
      simp [summonBan, summoner?_of_isRoutine (routine event member),
        starter?_of_isRoutine (routine event member)]
    · intro event member
      simp [summonBan, summoner?_of_isRoutine (routine event member)]
    · intro mark _
      rw [lull.turnPlayer, lull.used]
      exact mark
  free := by
    intro before event after shifts feat forbids mark
    have summons : before.summoner? event = some player := (shifts.summoner?_eq event).trans forbids
    rcases feat.cases_summoner with ⟨own, _, spends⟩ | ⟨none, _⟩ | ⟨_, none, _⟩
    · obtain rfl := Option.some.inj (own.symm.trans summons)
      simp [spends.unused] at mark
    · simp [none] at summons
    · simp [none] at summons
  imposed := by
    intro before event after shifts feat imposes own
    simp only [summonBan, ← shifts.summoner?_eq event] at imposes
    rcases feat.cases_summoner with ⟨_, _, spends⟩ | ⟨none, same, _⟩ | ⟨seat, none, starts, rfl⟩
    · rw [← own, spends.turnPlayer]
      exact spends.used
    · simp [none, same] at imposes
    · obtain rfl : seat = player := own
      simp [none, starts, seat.opponent_ne.symm] at imposes
  kept := by
    intro before event after feat lifts mark own
    rcases feat.cases_summoner with ⟨_, _, spends⟩ | ⟨_, _, saves⟩ | ⟨seat, _, starts, rfl⟩
    · rw [← own, spends.turnPlayer]
      exact spends.used
    · rw [saves.same]
      exact mark (saves.turnPlayer.symm.trans own)
    · obtain rfl : seat = player := own
      simp [summonBan, starts] at lifts
  turns := by
    intro seat turn
    refine ⟨?_, by simp [summonBan, summoner?]⟩
    cases seat <;> cases player <;> simp [summonBan, GameEvent.starter?, Seat.opponent]

/-! Flags of cards -/

/-- No card becomes another one, so it stays a trap or a quick-play spell. -/
theorem Shifts.springs_iff (shifts : Shifts before after) {index : Nat} :
    after.Springs catalog card index ↔ before.Springs catalog card index := by
  constructor
  · rintro ⟨found, template, effect, known, printed, rest⟩
    obtain ⟨old, there, same⟩ := shifts.printed_before known
    exact ⟨old, template, effect, there, same ▸ printed, rest⟩
  · rintro ⟨found, template, effect, known, printed, rest⟩
    obtain ⟨new, there, same⟩ := shifts.printed known
    exact ⟨new, template, effect, there, same.symm ▸ printed, rest⟩

/-- Only the activation of a card springs. -/
theorem Springs.isActivation {state : GameState} {index : Nat}
    (springs : state.Springs catalog card index) : state.IsActivation catalog card index := by
  obtain ⟨found, template, effect, known, printed, _, listed, activates⟩ := springs
  exact ⟨found, effect, known, by rw [Catalog.effect?, printed]; exact listed, activates⟩

/-- No card gets a flag of the turn by a routine event. -/
theorem bearer?_of_isRoutine (routine : event.isRoutine = true) : flag.bearer? event = none := by
  cases event with
  | cardSet | attackDeclared => cases routine
  | _ => cases flag <;> rfl

/-- A card that comes to the field had no flag, and all others keep theirs. -/
theorem Enters.bears (enters : Enters before card after) {other : InstanceId}
    (bears : before.Bears flag other) : after.Bears flag other := by
  obtain ⟨found, known, field, flagged⟩ := bears
  have different : other ≠ card := by
    rintro rfl
    simp [enters.away found known] at field
  exact ⟨found, (enters.others other different).trans known, field, flagged⟩

/-- As long as no turn begins, feats leave the flags of cards alone. -/
theorem Feat.bears (feat : Feat catalog before after event) (same : event.starter? = none)
    (bears : before.Bears flag card) : after.Bears flag card := by
  cases feat with
  | turn => cases same
  | summon enters | setMonster _ _ enters | setSpell _ _ enters => exact enters.bears bears
  | attack _ kept | activate _ kept => exact kept flag card bears

/-- A card on the field shows by its flag what it did in the turn, unless it has moved since. -/
theorem flagBan_shown (agrees : table.Agrees config) (flag : TurnFlag) (card : InstanceId) :
    (table.flagBan catalog flag card).Shown catalog table fun state => state.Bears flag card where
  lull := by
    intro before after shifts lull
    obtain ⟨events, same, routine, rests⟩ := lull.told
    obtain ⟨idle, lasts⟩ := rests config (shifts.agrees agrees)
    refine ⟨events, same, ?_, ?_, ?_⟩
    · intro event member
      simp [flagBan, bearer?_of_isRoutine (routine event member)]
    · intro event member forbids
      cases flag with
      | attacked =>
        obtain ⟨_, rfl⟩ := forbids
        cases routine _ member
      | set =>
        obtain ⟨index, seat, rfl, springs⟩ := forbids
        exact idle _ member card index rfl (shifts.springs_iff.mpr springs).isActivation
    · intro bears none
      obtain ⟨found, known, field, flagged⟩ := bears
      rcases lasts card found known field with ⟨other, there, stays⟩ | ⟨_, _, moved⟩
      · exact ⟨other, there, stays.field, (stays.flags flag).trans flagged⟩
      · have lifted := none _ moved
        simp [flagBan, GameEvent.clears] at lifted
  free := by
    intro before event after shifts feat forbids
    cases flag with
    | attacked =>
      obtain ⟨target, rfl⟩ := forbids
      cases feat with
      | attack _ _ fresh => exact fresh
    | set =>
      obtain ⟨index, seat, rfl, springs⟩ := forbids
      cases feat with
      | activate _ _ settled => exact settled (shifts.springs_iff.mpr springs)
  imposed := by
    intro before event after shifts feat imposes
    have bearer : flag.bearer? event = some card := of_decide_eq_true imposes
    cases flag with
    | attacked =>
      cases feat with
      | attack _ _ _ shown =>
        obtain rfl := Option.some.inj bearer
        exact shown
      | _ => cases bearer
    | set =>
      cases feat with
      | setMonster _ _ _ _ shown | setSpell _ _ _ _ shown =>
        obtain rfl := Option.some.inj bearer
        exact shown
      | _ => cases bearer
  kept := by
    intro before event after feat lifts
    refine feat.bears ?_
    cases event with
    | turnStarted => cases lifts
    | _ => rfl
  turns := by
    intro seat turn
    refine ⟨.inr rfl, ?_⟩
    cases flag <;> simp [flagBan, Blocks]

end GameState

namespace DuelSetup

open GameState

variable {setup : DuelSetup} {requests : List Request} {duel : Duel}

section Split

variable {early between late : List LoggedEvent} {first second entry : LoggedEvent} {player : Seat}
  {card : InstanceId}

/-- Whoever summons a monster normally or sets one has begun the turn before. -/
theorem Run.summoner_starts (run : setup.Run requests duel)
    (log : duel.state.log = early ++ entry :: late)
    (summons : duel.state.summoner? entry.event = some player) :
    ∃ before start rest, early = before ++ start :: rest ∧
      start.event = .turnStarted player entry.turn ∧
      ∀ other ∈ rest, other.event.isTurnStart = false := by
  have heeded := run.heeds (summonBan_shown setup.rules.catalog setup.withDecks player)
  rw [events, log, List.map_append, List.map_cons] at heeded
  have forbids : setup.withDecks.summoner? entry.event = some player :=
    (run.shifts.summoner?_eq entry.event).symm.trans summons
  obtain ⟨_, _, _, same, lifts, none⟩ := heeded.lifted_before forbids
  obtain ⟨before, _, rfl, rfl, cut⟩ := List.map_eq_append_iff.mp same
  obtain ⟨start, rest, rfl, rfl, rfl⟩ := List.map_eq_cons_iff.mp cut
  obtain ⟨turn, starts⟩ := GameEvent.starter?_eq_some.mp (of_decide_eq_true lifts)
  have calm : ∀ other ∈ rest, other.event.isTurnStart = false := by
    intro other member
    obtain ⟨imposes, liftsNot⟩ := none other.event (List.mem_map_of_mem member)
    simp only [summonBan, Bool.or_eq_false_iff, decide_eq_false_iff_not] at imposes liftsNot
    rw [GameEvent.isTurnStart_eq]
    cases starter : other.event.starter? with
    | none => rfl
    | some seat =>
      rcases seat.eq_or_eq_opponent player with rfl | rfl
      · exact absurd starter liftsNot
      · exact absurd starter imposes.2
  have still : ∀ other ∈ rest ++ [entry], other.event.isTurnStart = false := by
    refine List.forall_mem_append.mpr ⟨calm, List.forall_mem_singleton.mpr ?_⟩
    cases told : entry.event with
    | turnStarted => simp [told, summoner?] at summons
    | _ => rfl
  rw [List.append_assoc, List.cons_append] at log
  have stamp : start.turn = entry.turn := run.stamped.turn_eq log still
  have number : start.turn = turn := run.names_turns start (by simp [log]) player turn starts
  exact ⟨before, start, rest, rfl, by rw [starts, ← number, stamp], calm⟩

variable (log : duel.state.log = early ++ first :: (between ++ second :: late))
  (calm : ∀ entry ∈ between ++ [second], entry.event.isTurnStart = false)
include log calm

/-- After a normal summon or the set of a monster the turn has no other one. -/
theorem Run.summons_once (run : setup.Run requests duel)
    (summons : (duel.state.summoner? first.event).isSome) :
    duel.state.summoner? second.event = none := by
  rw [Option.eq_none_iff_forall_ne_some]
  intro player again
  have heeded := run.heeds (summonBan_shown setup.rules.catalog setup.withDecks player)
  simp only [events, log, List.map_append, List.map_cons] at heeded
  rw [run.shifts.summoner?_eq] at summons again
  have imposes : (setup.withDecks.summonBan player).imposes first.event = true := by
    simp [summonBan, summons]
  obtain ⟨_, member, lifts⟩ := heeded.lifted_between imposes again
  obtain ⟨entry, present, rfl⟩ := List.mem_map.mp member
  have quiet := calm entry (List.mem_append_left _ present)
  have starter : entry.event.starter? = some player := of_decide_eq_true lifts
  simp [GameEvent.isTurnStart_eq, starter] at quiet

/-- What a flag of a card stands against is done in the same turn only after the card has moved. -/
theorem Run.moves_between (fits : setup.Fits) (run : setup.Run requests duel) (flag : TurnFlag)
    (bearer : flag.bearer? first.event = some card)
    (blocks : duel.state.Blocks setup.rules.catalog card flag second.event) :
    TellsMove between card := by
  have heeded := run.heeds (flagBan_shown (withDecks_agrees fits) flag card)
  simp only [events, log, List.map_append, List.map_cons] at heeded
  have forbids : setup.withDecks.Blocks setup.rules.catalog card flag second.event := by
    cases flag with
    | attacked => exact blocks
    | set =>
      obtain ⟨index, player, same, springs⟩ := blocks
      exact ⟨index, player, same, run.shifts.springs_iff.mp springs⟩
  obtain ⟨_, member, lifts⟩ := heeded.lifted_between (decide_eq_true bearer) forbids
  obtain ⟨entry, present, rfl⟩ := List.mem_map.mp member
  have quiet := calm entry (List.mem_append_left _ present)
  refine ⟨entry, present, ?_⟩
  simp only [flagBan] at lifts
  cases told : entry.event with
  | turnStarted => simp [told, GameEvent.isTurnStart] at quiet
  | cardMoved other origin destination =>
    rw [told, GameEvent.clears, decide_eq_true_eq] at lifts
    exact ⟨origin, destination, lifts ▸ rfl⟩
  | _ => simp [told, GameEvent.clears] at lifts

end Split

/--
What is allowed once in a turn is done once in a turn. Whoever summons a monster normally or sets one is the
player of that turn, whose start is told before, and no second entry with the same stamp tells of such a thing.
When two entries with the same stamp tell of attacks of a card, or of the set of a trap or quick-play spell and
of its activation, the card has moved in between. The stamps of turns can be told apart as long as fewer turns
begin than there are numbers.
-/
theorem Run.keeps_allowances (run : setup.Run requests duel) :
    (∀ early entry late player, duel.state.log = early ++ entry :: late →
      duel.state.summoner? entry.event = some player →
        ∃ before start rest, early = before ++ start :: rest ∧
          start.event = .turnStarted player entry.turn ∧
          ∀ other ∈ rest, other.event.isTurnStart = false) ∧
    ∀ early first between second late,
      duel.state.log = early ++ first :: (between ++ second :: late) → first.turn = second.turn →
        turnsBegun (between ++ [second]) < UInt32.size →
          ((duel.state.summoner? first.event).isSome → duel.state.summoner? second.event = none) ∧
          (setup.Fits → ∀ card target other, first.event = .attackDeclared card target →
            second.event = .attackDeclared card other → TellsMove between card) ∧
          (setup.Fits → ∀ card setter index player, first.event = .cardSet card setter →
            second.event = .effectActivated card index player →
              duel.state.Springs setup.rules.catalog card index → TellsMove between card) := by
  refine ⟨fun early entry late player log summons => run.summoner_starts log summons, ?_⟩
  intro early first between second late log same few
  have calm := (run.stamped.turn_eq_iff log few).mp same
  refine ⟨run.summons_once log calm, ?_, ?_⟩
  · intro fits card target other attacks again
    exact run.moves_between log calm fits .attacked (by rw [attacks]; rfl) ⟨other, again⟩
  · intro fits card setter index player sets activates springs
    exact run.moves_between log calm fits .set (by rw [sets]; rfl)
      ⟨index, player, activates, springs⟩

/-- This is a duel with a monster that takes spells and itself into the hand, and with a quick-play spell. -/
def jugglers : DuelSetup where
  rules := ⟨⟨[⟨⟨1⟩, "Juggler", .monster 4 1200 800,
      [.plain .ignition .one (.act .toHand (.all
        ⟨.zone .spells, .controller, none, none, none, none, none, false, false⟩)),
      .plain .quick .two (.sequence [.act .toHand .this, .act (.specialSummon .attack) (.all
        ⟨.zone .hand, .controller, some .monster, none, none, none, none, false, false⟩)])], [], none⟩,
    ⟨⟨2⟩, "Ball", .spell .quickPlay,
      [.plain .activate .two (.act (.gainLife 1) .controller)], [], none⟩]⟩,
    { DuelConfig.standard with startingHand := 2, firstTurnBattle := true }⟩
  decks := .replicate [⟨1⟩, ⟨2⟩]
  seed := 0
  shuffle := false
  firstPlayer := .first

/-- In one turn a ball is set, taken back and played, and a juggler attacks, goes, comes back and attacks. -/
def jugglerRequests : List Request :=
  [.act .first (.normalSummon ⟨1⟩ []), .act .first .passPriority, .act .first (.setCard ⟨0⟩ []),
    .act .first (.activateEffect ⟨1⟩ 0 [] []), .act .second .passPriority, .act .first .passPriority,
    .act .first (.activateEffect ⟨0⟩ 0 [] []), .act .second .passPriority, .act .first .passPriority,
    .act .first .passPriority, .act .first .enterBattlePhase, .act .first (.declareAttack ⟨1⟩ none),
    .act .first (.activateEffect ⟨1⟩ 1 [] []), .act .second .passPriority, .act .first .passPriority,
    .act .first .passPriority, .act .first (.declareAttack ⟨1⟩ none)]

/-- A juggler is summoned in the turn of its player, and it moves before it attacks again; so does the ball. -/
theorem jugglers_keep_allowances :
    ∃ duel, jugglers.Fits ∧ jugglers.Run jugglerRequests duel ∧
      (∃ before start rest, duel.state.log.take 8 = before ++ start :: rest ∧
        start.event = .turnStarted .first 1 ∧ ∀ other ∈ rest, other.event.isTurnStart = false) ∧
      duel.state.summoner? (.cardSet ⟨0⟩ .first) = none ∧
      TellsMove ((duel.state.log.drop 13).take 8) ⟨0⟩ ∧
      TellsMove ((duel.state.log.drop 35).take 14) ⟨1⟩ := by
  have fits : jugglers.Fits := by
    show 2 + 2 < UInt32.size
    decide
  have played : (jugglers.play? jugglerRequests).any (fun duel =>
      let log := duel.state.log
      decide ((duel.state.card? ⟨0⟩).map CardInstance.card = some ⟨2⟩ ∧
        log = log.take 8 ++ ⟨8, 1, .summoned ⟨1⟩ .first .normal⟩ ::
          ((log.drop 9).take 3 ++ ⟨12, 1, .cardSet ⟨0⟩ .first⟩ :: log.drop 13) ∧
        log = log.take 12 ++ ⟨12, 1, .cardSet ⟨0⟩ .first⟩ ::
          ((log.drop 13).take 8 ++ ⟨21, 1, .effectActivated ⟨0⟩ 0 .first⟩ :: log.drop 22) ∧
        log = log.take 34 ++ ⟨34, 1, .attackDeclared ⟨1⟩ none⟩ ::
          ((log.drop 35).take 14 ++ ⟨49, 1, .attackDeclared ⟨1⟩ none⟩ :: log.drop 50))) = true := by
    decide +kernel
  obtain ⟨duel, followed, facts⟩ := (Option.any_eq_true _ _).mp played
  obtain ⟨ball, summoned, sets, attacks⟩ := of_decide_eq_true facts
  have run : jugglers.Run jugglerRequests duel := .of_play followed
  obtain ⟨starts, once⟩ := run.keeps_allowances
  have few (count : Nat) (log : List LoggedEvent) (second : LoggedEvent) (small : count < 100) :
      turnsBegun (log.take count ++ [second]) < UInt32.size := by
    have short : turnsBegun (log.take count ++ [second]) ≤ (log.take count ++ [second]).length :=
      List.countP_le_length
    simp only [List.length_append, List.length_take, List.length_singleton] at short
    simp only [UInt32.size]
    omega
  have springs : duel.state.Springs jugglers.rules.catalog ⟨0⟩ 0 := by
    obtain ⟨found, known, printed⟩ := Option.map_eq_some_iff.mp ball
    exact ⟨found, _, _, known, by rw [printed]; rfl, rfl, rfl, rfl⟩
  refine ⟨duel, fits, run, starts _ _ _ _ summoned rfl, ?_, ?_, ?_⟩
  · exact (once _ _ _ _ _ summoned rfl (few _ _ _ (by decide))).1 rfl
  · exact (once _ _ _ _ _ sets rfl (few _ _ _ (by decide))).2.2 fits _ _ _ _ rfl rfl springs
  · exact (once _ _ _ _ _ attacks rfl (few _ _ _ (by decide))).2.1 fits _ _ _ rfl rfl

end DuelSetup

end CardDuel
