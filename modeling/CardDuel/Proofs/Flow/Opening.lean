/-
This file tells what comes of setting up a duel: it is refused for the first fault of its options or decks
and for nothing else, and otherwise the first turn begins with the hands dealt from the tops of the decks.
-/

import CardDuel.Proofs.Flow.Deal
import CardDuel.Proofs.Flow.Turn

namespace CardDuel

namespace GameState

/-- These are the names of the cards of a hand, with the deck behind it from its top down. -/
def lineup (state : GameState) (seat : Seat) : List (Option CardId) :=
  ((state.zones seat).hand ++ (state.zones seat).deck.reverse).map state.name?

end GameState

namespace DuelSetup

open GameState

variable {setup : DuelSetup} {duel : Duel} {problem : SetupError} {player : Seat}

/-! Refusals -/

/-- This tells that a deck has an unknown card or too few cards. -/
def BadDeck (setup : DuelSetup) (player : Seat) : Prop :=
  (∃ card ∈ setup.decks.get player, setup.rules.catalog.get? card = none) ∨
    (setup.decks.get player).length < setup.rules.config.startingHand

/-- This tells that a fault is really there, and that the faults which are looked for before it are not. -/
def Blames (setup : DuelSetup) : SetupError → Prop
  | .config fault => setup.rules.config.validate = .error fault
  | .unknownCard player card => setup.rules.config.validate = .ok () ∧
      card ∈ setup.decks.get player ∧ setup.rules.catalog.get? card = none
  | .deckTooSmall player size needed => setup.rules.config.validate = .ok () ∧
      size = (setup.decks.get player).length ∧ needed = setup.rules.config.startingHand ∧
      size < needed
  | .violated _ => False

/-- A deck is accepted unless it is bad. -/
theorem checkDeck_ok_iff : setup.checkDeck player = .ok () ↔ ¬setup.BadDeck player := by
  simp [checkDeck_eq_ok, BadDeck, Option.isSome_iff_ne_none]

/-- A deck that is refused is refused for an unknown card or for too few cards. -/
theorem checkDeck_blames (valid : setup.rules.config.validate = .ok ())
    (failed : setup.checkDeck player = .error problem) : setup.Blames problem := by
  rw [checkDeck] at failed
  split at failed
  · next card missing =>
    obtain rfl := Except.error.inj failed
    have unknown : setup.rules.catalog.get? card = none := by
      simpa [Catalog.contains] using List.find?_some missing
    exact ⟨valid, List.mem_of_find?_eq_some missing, unknown⟩
  · split at failed
    · next few =>
      obtain rfl := Except.error.inj failed
      exact ⟨valid, rfl, rfl, few⟩
    · simp at failed

/-- A duel is set up unless its options or decks are at fault. -/
theorem build_ok_iff (setup : DuelSetup) : (∃ duel, setup.build = .ok duel) ↔
    setup.rules.config.validate = .ok () ∧ ∀ player, ¬setup.BadDeck player := by
  simp only [build_eq_ok, checkDeck_ok_iff]
  constructor
  · rintro ⟨_, valid, first, second, _⟩
    exact ⟨valid, fun player => by cases player <;> assumption⟩
  · rintro ⟨valid, sound⟩
    obtain ⟨dealt, hands⟩ := setup.dealHands_ok (Seat.startingWith setup.firstPlayer)
      setup.withDecks_placed setup.withDecks_anchored
    exact ⟨_, valid, sound .first, sound .second, dealt, hands, rfl⟩

/-- Every refusal of a setup names a fault that is there. -/
theorem build_blames (failed : setup.build = .error problem) : setup.Blames problem := by
  simp only [build, bind_eq_error, mapError_eq_error, mapError_eq_ok, pure_eq_error, and_false,
    exists_false, or_false] at failed
  rcases failed with ⟨fault, refused, rfl⟩ | ⟨_, valid, first | ⟨_, _, second | ⟨_, _, late⟩⟩⟩
  · exact refused
  · exact checkDeck_blames valid first
  · exact checkDeck_blames valid second
  · obtain ⟨violation, broken, _⟩ := late
    obtain ⟨dealt, hands⟩ := setup.dealHands_ok (Seat.startingWith setup.firstPlayer)
      setup.withDecks_placed setup.withDecks_anchored
    rw [hands] at broken
    simp at broken

/-- A setup with valid options is refused for its decks exactly if one of them is bad. -/
theorem build_refuses_decks (valid : setup.rules.config.validate = .ok ()) :
    ((∃ player card, setup.build = .error (.unknownCard player card)) ∨
        ∃ player size needed, setup.build = .error (.deckTooSmall player size needed)) ↔
      ∃ player, setup.BadDeck player := by
  constructor
  · rintro (⟨player, card, failed⟩ | ⟨player, size, needed, failed⟩)
    · obtain ⟨_, listed, unknown⟩ := build_blames failed
      exact ⟨player, .inl ⟨card, listed, unknown⟩⟩
    · obtain ⟨_, rfl, rfl, few⟩ := build_blames failed
      exact ⟨player, .inr few⟩
  · intro ⟨player, bad⟩
    cases built : setup.build with
    | ok duel => exact absurd bad ((setup.build_ok_iff.mp ⟨duel, built⟩).2 player)
    | error problem =>
      have blamed := build_blames built
      cases problem with
      | config fault =>
        rw [Blames, valid] at blamed
        simp at blamed
      | unknownCard player card => exact .inl ⟨player, card, rfl⟩
      | deckTooSmall player size needed => exact .inr ⟨player, size, needed, rfl⟩
      | violated violation => exact blamed.elim

/-! Openings -/

/-- The table is silent before the hands are dealt. -/
theorem withDecks_silent (fits : setup.Fits) (valid : setup.rules.config.validate = .ok ()) :
    setup.withDecks.Silent where
  consistent := (withDecks_agrees fits).consistent
  unmarked := by
    apply Unmarked.marked_eq_nil
    intro found member
    obtain ⟨_, _, _, _, _, rfl⟩ := mem_withDecks setup member
    rfl
  judged := fun _ => by
    have alive : setup.rules.config.startingLife ≠ 0 := by
      rw [DuelConfig.validate, ite_error_eq_ok] at valid
      exact valid.1
    rw [setup.withDecks_sameLife.losers]
    apply List.eq_nil_iff_forall_not_mem.mpr
    intro player lost
    rcases mem_losers.mp lost with dead | out
    · cases player <;> exact alive dead
    · cases player <;> cases out
  nothing := setup.withDecks_fresh.2

/-- The player who is next after the hands were dealt is the one who starts. -/
theorem nextPlayer_dealt {players : List Seat} {dealt : GameState}
    (hands : players.foldlM setup.dealHand setup.withDecks = .ok dealt) :
    dealt.nextPlayer = setup.firstPlayer := by
  have frame := setup.withDecks_frame.trans (dealHands_edits hands).frame
  rw [nextPlayer, frame.turn, frame.turnPlayer]
  rfl

/-- A duel that is built starts with the turn of its first player. -/
theorem build_turnPlayer (built : setup.build = .ok duel) :
    duel.state.turnPlayer = setup.firstPlayer := by
  obtain ⟨_, _, _, dealt, hands, rfl⟩ := build_eq_ok.mp built
  have settled := settle_turn setup.rules.catalog (dealt.startTurn setup.rules)
  show ((dealt.startTurn setup.rules).settle setup.rules.catalog).turnPlayer = setup.firstPlayer
  rw [settled.turnPlayer, (startTurn_turn dealt setup.rules).2, nextPlayer_dealt hands]

/-- A duel is built only of accepted decks. -/
theorem build_checked (built : setup.build = .ok duel) (seat : Seat) :
    setup.checkDeck seat = .ok () := by
  obtain ⟨_, first, second, _⟩ := build_eq_ok.mp built
  cases seat with
  | first => exact first
  | second => exact second

/-- The decks of the table have as many cards as those of the setup. -/
theorem length_deck_withDecks (fits : setup.Fits) {seat : Seat}
    (checked : setup.checkDeck seat = .ok ()) :
    (setup.withDecks.zones seat).deck.length = (setup.decks.get seat).length := by
  simpa using congrArg List.length (withDecks_deck fits seat (checkDeck_eq_ok.mp checked).1)

/-- The first turn begins with the hands of both players, and at most one more card. -/
theorem build_begins (fits : setup.Fits) (built : setup.build = .ok duel) :
    (∀ seat, ∃ order, order.Perm (setup.withDecks.zones seat).deck ∧
      (setup.shuffle = false → order = (setup.withDecks.zones seat).deck) ∧
      duel.state.zones seat = (setup.withDecks.zones seat).dealt order
        (setup.rules.config.startingHand +
          if seat = setup.firstPlayer ∧ setup.rules.config.firstPlayerDraws then 1 else 0)) ∧
    duel.state.outcome = if setup.rules.config.firstPlayerDraws ∧
        (setup.decks.get setup.firstPlayer).length = setup.rules.config.startingHand then
      some (.winner setup.firstPlayer.opponent) else none := by
  obtain ⟨valid, first, second, dealt, hands, rfl⟩ := build_eq_ok.mp built
  obtain ⟨silent, deals⟩ := dealHands_zones setup.firstPlayer (withDecks_silent fits valid) hands
  have frame := setup.withDecks_frame.trans (dealHands_edits hands).frame
  have draws : dealt.begun.drawsThisTurn setup.rules.config = setup.rules.config.firstPlayerDraws := by
    show (decide (dealt.turn + 1 > 1) || setup.rules.config.firstPlayerDraws) = _
    rw [frame.turn]
    rfl
  have begins := silent.toSettled.begins frame.outcome setup.rules
  rw [nextPlayer_dealt hands, draws] at begins
  have nothing : (dealt.startTurn setup.rules).pendingEvents = [] :=
    begins.frame.events.trans silent.nothing
  have free : (dealt.startTurn setup.rules).pendingAttack = none :=
    begins.frame.attack.trans (frame.attack_eq_none rfl)
  constructor
  · intro seat
    obtain ⟨order, perm, kept, hand⟩ := deals seat
    refine ⟨order, perm, kept, ?_⟩
    rw [zones_settle_of_quiet nothing free, begins.zones, hand, PlayerZones.dealt_dealt]
  · obtain ⟨order, perm, _, hand⟩ := deals setup.firstPlayer
    have checked := build_checked built setup.firstPlayer
    have enough := (checkDeck_eq_ok.mp checked).2
    have size : order.length = (setup.decks.get setup.firstPlayer).length :=
      perm.length_eq.trans (length_deck_withDecks fits checked)
    rw [outcome_settle_of_quiet nothing free, begins.outcome, hand]
    refine if_congr (and_congr_right ?_) rfl rfl
    intro _
    rw [PlayerZones.dealt, List.reverse_eq_nil_iff, List.drop_eq_nil_iff, List.length_reverse, size]
    exact ⟨fun few => Nat.le_antisymm few enough, Nat.le_of_eq⟩

/-- A hand and the deck below it are the given list, up to the shuffle. -/
theorem build_lineup (fits : setup.Fits) (built : setup.build = .ok duel) (seat : Seat) :
    (duel.state.lineup seat).Perm ((setup.decks.get seat).map some) ∧
      (setup.shuffle = false → duel.state.lineup seat = (setup.decks.get seat).map some) := by
  obtain ⟨order, perm, kept, dealt⟩ := (build_begins fits built).1 seat
  have deck := withDecks_deck fits seat (checkDeck_eq_ok.mp (build_checked built seat)).1
  have lineup : duel.state.lineup seat = order.reverse.map setup.withDecks.name? := by
    rw [GameState.lineup, (build_shifts built).name?_eq, dealt, PlayerZones.dealt,
      setup.withDecks_fresh.1]
    simp
  constructor
  · rw [lineup, ← deck]
    exact ((List.reverse_perm order).trans
      (perm.trans (List.reverse_perm _).symm)).map setup.withDecks.name?
  · intro unshuffled
    rw [lineup, ← deck, kept unshuffled]

/-- A hand has its cards, and one more if its player had to draw and could. -/
theorem build_hand (fits : setup.Fits) (built : setup.build = .ok duel) (seat : Seat) :
    (duel.state.zones seat).hand.length = setup.rules.config.startingHand +
      if seat = setup.firstPlayer ∧ setup.rules.config.firstPlayerDraws = true ∧
        setup.rules.config.startingHand < (setup.decks.get seat).length then 1 else 0 := by
  obtain ⟨order, perm, _, dealt⟩ := (build_begins fits built).1 seat
  have checked := build_checked built seat
  have enough := (checkDeck_eq_ok.mp checked).2
  have size : order.length = (setup.decks.get seat).length :=
    perm.length_eq.trans (length_deck_withDecks fits checked)
  rw [dealt, PlayerZones.dealt, setup.withDecks_fresh.1, List.nil_append, List.length_take,
    List.length_reverse, size]
  by_cases draws : seat = setup.firstPlayer ∧ setup.rules.config.firstPlayerDraws = true
  · rw [if_pos draws]
    by_cases more : setup.rules.config.startingHand < (setup.decks.get seat).length
    · rw [if_pos ⟨draws.1, draws.2, more⟩]
      omega
    · rw [if_neg fun all => more all.2.2]
      omega
  · rw [if_neg draws, if_neg fun all => draws ⟨all.1, all.2.1⟩]
    omega

/--
Setting up a duel is refused for its options exactly when they are not valid, and otherwise for an unknown
card or too few cards exactly when some deck has them, but never for a broken invariant. If it is accepted,
the first turn of the chosen player begins. As long as all cards can be numbered, each hand with the deck
below it is then the given list, up to the shuffle if one was asked for; each hand has its cards, and one
more if the player had to draw and could. The duel is over, and lost, exactly when the player could not.
-/
theorem build_exact (setup : DuelSetup) :
    (∀ fault, setup.build = .error (.config fault) ↔ setup.rules.config.validate = .error fault) ∧
    (setup.rules.config.validate = .ok () →
      ((∃ player card, setup.build = .error (.unknownCard player card)) ∨
          (∃ player size needed, setup.build = .error (.deckTooSmall player size needed)) ↔
        ∃ player, (∃ card ∈ setup.decks.get player, setup.rules.catalog.get? card = none) ∨
          (setup.decks.get player).length < setup.rules.config.startingHand)) ∧
    (∀ violation, setup.build ≠ .error (.violated violation)) ∧
    ∀ duel, setup.build = .ok duel →
      duel.state.turn = 1 ∧ duel.state.turnPlayer = setup.firstPlayer ∧
      (setup.Fits →
        (∀ seat, (duel.state.lineup seat).Perm ((setup.decks.get seat).map some) ∧
          (setup.shuffle = false → duel.state.lineup seat = (setup.decks.get seat).map some) ∧
          (duel.state.zones seat).hand.length = setup.rules.config.startingHand +
            if seat = setup.firstPlayer ∧ setup.rules.config.firstPlayerDraws = true ∧
              setup.rules.config.startingHand < (setup.decks.get seat).length then 1 else 0) ∧
        duel.state.outcome = if setup.rules.config.firstPlayerDraws = true ∧
            (setup.decks.get setup.firstPlayer).length = setup.rules.config.startingHand then
          some (.winner setup.firstPlayer.opponent) else none) := by
  refine ⟨fun fault => ⟨build_blames, ?_⟩, build_refuses_decks, fun _ failed => build_blames failed, ?_⟩
  · intro refused
    rw [build, refused]
    rfl
  · intro duel built
    refine ⟨build_turn built, build_turnPlayer built, ?_⟩
    intro fits
    refine ⟨?_, (build_begins fits built).2⟩
    intro seat
    obtain ⟨lineup, kept⟩ := build_lineup fits built seat
    exact ⟨lineup, kept, build_hand fits built seat⟩

/-- In this duel of sentries the first player holds the whole deck and has to draw one more card. -/
def spentSentries : DuelSetup :=
  { sentries with rules := ⟨sentries.rules.catalog,
      { sentries.rules.config with startingHand := 2, firstPlayerDraws := true }⟩ }

/-- In this duel of sentries the second deck has a card that nobody knows. -/
def strangeSentries : DuelSetup := { sentries with decks := ⟨[⟨1⟩, ⟨1⟩], [⟨1⟩, ⟨2⟩]⟩ }

/--
A duel of sentries begins with one card in each hand, the one with whole decks in the hands is over, and
the one with an unknown card is refused.
-/
theorem sentries_build_exact : ∃ duel lost, sentries.Fits ∧ sentries.build = .ok duel ∧
    (∀ violation, sentries.build ≠ .error (.violated violation)) ∧
    duel.state.turn = 1 ∧ duel.state.turnPlayer = .first ∧
    duel.state.lineup .second = [some ⟨1⟩, some ⟨1⟩] ∧
    (duel.state.zones .second).hand.length = 1 ∧ duel.state.outcome = none ∧
    spentSentries.Fits ∧ spentSentries.build = .ok lost ∧
    (lost.state.zones .first).hand.length = 2 ∧ lost.state.outcome = some (.winner .second) ∧
    ((∃ player card, strangeSentries.build = .error (.unknownCard player card)) ∨
      ∃ player size needed, strangeSentries.build = .error (.deckTooSmall player size needed)) := by
  have fits : sentries.Fits := by
    show 2 + 2 < UInt32.size
    decide
  have fitsToo : spentSentries.Fits := by
    show 2 + 2 < UInt32.size
    decide
  have begun : sentries.build.toOption.any (fun _ => true) = true := by decide +kernel
  have begunToo : spentSentries.build.toOption.any (fun _ => true) = true := by decide +kernel
  obtain ⟨duel, built, _⟩ := any_toOption_iff.mp begun
  obtain ⟨lost, builtToo, _⟩ := any_toOption_iff.mp begunToo
  obtain ⟨_, _, sound, opens⟩ := build_exact sentries
  obtain ⟨turn, player, deals⟩ := opens duel built
  obtain ⟨hands, outcome⟩ := deals fits
  obtain ⟨_, order, count⟩ := hands .second
  obtain ⟨_, _, _, opensToo⟩ := build_exact spentSentries
  obtain ⟨_, _, dealsToo⟩ := opensToo lost builtToo
  obtain ⟨handsToo, outcomeToo⟩ := dealsToo fitsToo
  obtain ⟨_, _, countToo⟩ := handsToo .first
  have valid : strangeSentries.rules.config.validate = .ok () := rfl
  obtain ⟨_, refused, _⟩ := build_exact strangeSentries
  have strange := (refused valid).mpr ⟨.second, .inl ⟨⟨2⟩, by decide, rfl⟩⟩
  exact ⟨duel, lost, fits, built, sound, turn, player, order rfl, count, outcome, fitsToo, builtToo,
    countToo, outcomeToo, strange⟩

end DuelSetup

end CardDuel
