/-
This file follows the deal of the first hands. It never fails, even when there are more cards than numbers;
and as long as every card has a number of its own, each hand and what is left of the deck below it are
the given deck list.
-/

import CardDuel.Proofs.Flow.Start

namespace CardDuel

namespace GameState

variable {state before after : GameState} {card : InstanceId} {seat : Seat}

def name? (state : GameState) (card : InstanceId) : Option CardId :=
  (state.card? card).map CardInstance.card

/-- The cards keep their names where only cards move. -/
theorem Shifts.name?_eq (shifts : Shifts before after) : after.name? = before.name? := by
  funext card
  have place := congrArg (fun identities => (identities[card.index]?).map CardIdentity.card)
    shifts.identities
  simp only [List.getElem?_map, Option.map_map] at place
  exact place

/-! Cards that are where the table says -/

/-- This tells that every card that is found under a number lies where the table says. -/
def Placed (state : GameState) : Prop := ∀ (card : InstanceId) (found : CardInstance),
  state.card? card = some found → card ∈ (state.zones found.owner).cards found.zone

namespace Placed

/-- Cards that stay where they are stay placed. -/
theorem still (placed : before.Placed) (still : Still before after) : after.Placed := by
  intro card found known
  obtain ⟨old, early, same⟩ := still.card_at known
  have owner : old.owner = found.owner := congrArg (fun standing => standing.1.owner) same
  have zone : old.zone = found.zone := congrArg (fun standing => standing.2.1) same
  rw [still.zones, ← owner, ← zone]
  exact placed card old early

/-- A card that moves is placed where it comes to. -/
theorem relocate (placed : before.Placed) {zone origin : Zone} {place : Place} {position : Position}
    (moved : before.relocate card zone place position = .ok (origin, after)) : after.Placed := by
  obtain ⟨found, remaining, known, _, room, removed, rfl⟩ := relocate_cases moved
  have free := room.remove? removed
  intro other entry there
  rw [card?_arrived] at there
  rw [zones_arrived]
  split at there
  · next same =>
    subst same
    obtain ⟨old, knownToo, rfl⟩ := Option.map_eq_some_iff.mp there
    obtain rfl := Option.some.inj (known.symm.trans knownToo)
    rw [CardInstance.owner_relocate, CardInstance.zone_relocate, if_pos rfl]
    exact (PlayerZones.insert_perm other place free).mem_iff.mpr (List.mem_cons_self ..)
  · next different =>
    have early := placed other entry there
    split
    · next own =>
      rw [own] at early
      -- The move takes one copy of its own card out of a list, and puts one into another list.
      have kept : other ∈ remaining.cards entry.zone := by
        by_cases home : entry.zone = found.zone
        · rw [home] at early ⊢
          exact (List.mem_cons.mp ((PlayerZones.remove?_perm removed).mem_iff.mp early)).resolve_left
            different
        · rwa [PlayerZones.remove?_cards_of_ne removed home]
      by_cases here : entry.zone = zone
      · rw [here] at kept ⊢
        exact (PlayerZones.insert_perm card place free).mem_iff.mpr (List.mem_cons_of_mem card kept)
      · rwa [PlayerZones.insert_cards_of_ne card place free here]
    · exact early

theorem shuffled (placed : state.Placed) (player : Seat) : (state.shuffled player).Placed :=
  fun card found known =>
    (cards_shuffled_perm state player found.owner found.zone).mem_iff.mpr (placed card found known)

theorem spawn (placed : state.Placed) (owner : Seat) (name : CardId) (kind : CardKind) :
    (state.spawn owner name kind).Placed := by
  intro card found known
  rw [mem_cards_spawn]
  rw [card?, cards_spawn] at known
  rcases Nat.lt_or_ge card.index state.cards.length with early | late
  · rw [List.getElem?_append_left early] at known
    exact .inl (placed card found known)
  · rw [List.getElem?_append_right late] at known
    obtain ⟨inside, rfl⟩ := List.getElem?_eq_some_iff.mp known
    have last : card.index = state.cards.length := by
      rw [List.length_singleton] at inside
      omega
    refine .inr ⟨?_, ?_, ?_⟩
    · rw [← last]
      exact (InstanceId.ofIndex_index card).symm
    · simp [CardInstance.create]
    · simp [CardInstance.create]

end Placed

/-- Whatever happens to the table leaves its cards placed. -/
theorem Shifts.placed (shifts : Shifts before after) (start : before.Placed) : after.Placed := by
  induction shifts with
  | refl => exact start
  | tail _ step ih =>
    cases step with
    | still still => exact ih.still still
    | move moved => exact ih.relocate moved
    | shuffle player => exact ih.shuffled player

/-- The top card of a deck can be drawn, whoever owns the card that is found under its number. -/
theorem draw_of_placed (placed : state.Placed) (anchored : state.Anchored)
    (top : (state.zones seat).topOfDeck? = some card) :
    ∃ next, (Change.draw seat card).apply state = .ok next := by
  have held : card ∈ (state.zones seat).cards .deck := List.mem_of_getLast? top
  obtain ⟨found, known⟩ := Option.isSome_iff_exists.mp
    (knows_iff.mp (anchored.listed seat .deck card held))
  obtain ⟨next, moved⟩ : ∃ next, state.relocate card .hand .top .faceDown = .ok (found.zone, next) :=
    relocate_ok known (placed card found known) fun field => by cases field
  refine ⟨next.record (.cardDrawn seat card), ?_⟩
  rw [Change.apply, top, moved, if_neg (not_not_intro rfl)]
  rfl

/-! Quiet states -/

/-- This tells that a settled state has no event that waits for an answer. -/
structure Silent (state : GameState) : Prop extends Settled state where
  nothing : state.pendingEvents = []

/-- A silent state stays silent after a card was drawn. -/
theorem Silent.drewTop (silent : state.Silent) {rest : List InstanceId}
    (deck : (state.zones seat).deck = rest ++ [card]) : (state.drewTop seat rest card).Silent :=
  ⟨silent.toSettled.drewTop deck, silent.nothing⟩

/-- A silent state stays silent after a deck was shuffled. -/
theorem Silent.shuffled (silent : state.Silent) (seat : Seat) :
    ((state.shuffled seat).record (.deckShuffled seat)).Silent := by
  refine ⟨⟨?_, silent.unmarked, ?_⟩, silent.nothing⟩
  · exact ((Shifts.of_shuffle state seat).then_still (.record _ _)).consistent silent.consistent
  · intro running
    have lives : SameLife state ((state.shuffled seat).record (.deckShuffled seat)) :=
      SameLife.setZones _ seat _
    rw [lives.losers]
    exact silent.judged running

end GameState

namespace DuelSetup

open GameState

variable {setup : DuelSetup} {state next : GameState} {player : Seat}

/-! Deals that never fail -/

theorem withDecks_placed (setup : DuelSetup) : setup.withDecks.Placed :=
  setup.withDecks_keeps Placed (fun card found known => by simp [card?, GameState.initial] at known)
    fun _ owner card kind placed => placed.spawn owner card kind

/-- Drawing cards never fails where the cards are placed. -/
theorem drawCards_ok (count : Nat) {state : GameState} (placed : state.Placed)
    (anchored : state.Anchored) : ∃ next, drawCards player count state = .ok next := by
  induction count generalizing state with
  | zero => exact ⟨state, rfl⟩
  | succ count ih =>
    rw [drawCards]
    split
    · exact ⟨state, rfl⟩
    · next card top =>
      obtain ⟨middle, made⟩ := draw_of_placed placed anchored top
      have shifts := Change.apply_shifts made
      rw [made]
      exact ih (shifts.placed placed) (shifts.anchored anchored)

/-- Dealing a hand never fails where the cards are placed. -/
theorem dealHand_ok (setup : DuelSetup) (placed : state.Placed) (anchored : state.Anchored)
    (player : Seat) : ∃ next, setup.dealHand state player = .ok next := by
  rw [dealHand]
  cases setup.shuffle with
  | false => exact drawCards_ok _ placed anchored
  | true =>
    have shifts : Shifts state ((state.shuffled player).record (.deckShuffled player)) :=
      (Shifts.of_shuffle state player).then_still (.record _ _)
    exact drawCards_ok _ (shifts.placed placed) (shifts.anchored anchored)

/-- The first hands can always be dealt. -/
theorem dealHands_ok (setup : DuelSetup) (players : List Seat) {state : GameState}
    (placed : state.Placed) (anchored : state.Anchored) :
    ∃ dealt, players.foldlM setup.dealHand state = .ok dealt := by
  induction players generalizing state with
  | nil => exact ⟨state, rfl⟩
  | cons player rest ih =>
    obtain ⟨middle, first⟩ := setup.dealHand_ok placed anchored player
    have shifts : Shifts state middle :=
      (Edits.of_deeds (dealHand_deeds (fun _ _ => trivial) (fun _ _ _ => trivial) first)).shifts
    rw [List.foldlM_cons, first]
    exact ih (shifts.placed placed) (shifts.anchored anchored)

/-! Full decks -/

/-- New cards come on top of the deck of their owner in their order, and no card changes its name. -/
theorem spawnPrinted_decks {config : DuelConfig} (entries : List (Seat × CardId × CardKind))
    {state : GameState} (agrees : state.Agrees config)
    (fits : state.cards.length + entries.length ≤ UInt32.size) (seat : Seat) :
    (((entries.foldl spawnPrinted state).zones seat).deck.map
        (entries.foldl spawnPrinted state).name?) =
      (state.zones seat).deck.map state.name? ++
        (entries.filter fun entry => entry.1 = seat).map fun entry => some entry.2.1 := by
  induction entries generalizing state with
  | nil => simp
  | cons entry rest ih =>
    obtain ⟨owner, card, kind⟩ := entry
    rw [List.length_cons] at fits
    have small : state.cards.length < UInt32.size := by omega
    have more : (state.spawn owner card kind).cards.length + rest.length ≤ UInt32.size := by
      rw [cards_spawn, List.length_append, List.length_singleton]
      omega
    have missing : state.card? (.ofIndex state.cards.length) = none := by
      rw [card?, InstanceId.index_ofIndex small]
      simp
    have kept : (state.zones seat).deck.map (state.spawn owner card kind).name? =
        (state.zones seat).deck.map state.name? := by
      apply List.map_congr_left
      intro other held
      obtain ⟨found, known, _⟩ := (agrees.listed seat .deck other).mp held
      have old : other ≠ .ofIndex state.cards.length := by
        rintro rfl
        simp [missing] at known
      rw [name?, name?, card?_spawn state owner card kind small, if_neg old]
    have new : (state.spawn owner card kind).name? (.ofIndex state.cards.length) = some card := by
      rw [name?, card?_spawn state owner card kind small, if_pos rfl]
      rfl
    rw [List.foldl_cons, show spawnPrinted state (owner, card, kind) = state.spawn owner card kind
      from rfl, ih (agrees.spawn owner card kind small) more, zones_spawn]
    by_cases own : seat = owner
    · subst own
      simp [kept, new]
    · simp [own, Ne.symm own, kept]

/-- The cards of a player are printed for that player and for nobody else. -/
theorem filter_printed (setup : DuelSetup) (player seat : Seat) :
    ((setup.printed player).filter fun entry => entry.1 = seat) =
      if player = seat then setup.printed player else [] := by
  have owned : ∀ entry ∈ setup.printed player, entry.1 = player := by
    intro entry member
    obtain ⟨card, _, given⟩ := List.mem_filterMap.mp member
    obtain ⟨template, _, rfl⟩ := Option.map_eq_some_iff.mp given
    rfl
  split
  · next own =>
    exact List.filter_eq_self.mpr fun entry member => by simp [owned entry member, own]
  · next other =>
    exact List.filter_eq_nil_iff.mpr fun entry member => by simp [owned entry member, other]

/-- From its top down a full deck is the given list. -/
theorem withDecks_deck (fits : setup.Fits) (seat : Seat)
    (known : ∀ card ∈ setup.decks.get seat, (setup.rules.catalog.get? card).isSome) :
    (setup.withDecks.zones seat).deck.reverse.map setup.withDecks.name? =
      (setup.decks.get seat).map some := by
  have first := setup.length_printed_le .first
  have second := setup.length_printed_le .second
  have small : (Seat.both.flatMap setup.printed).length ≤ UInt32.size := by
    simp only [Fits, PerSeat.get] at fits first second
    simp only [Seat.both, List.flatMap_cons, List.flatMap_nil, List.append_nil, List.length_append]
    omega
  have decks := spawnPrinted_decks (Seat.both.flatMap setup.printed)
    (.initial setup.rules.config setup.seed setup.firstPlayer) (by simpa [GameState.initial] using small)
    seat
  have empty : ((GameState.initial setup.rules.config setup.seed setup.firstPlayer).zones seat).deck =
      [] := by
    cases seat <;> rfl
  have own : ((Seat.both.flatMap setup.printed).filter fun entry => entry.1 = seat) =
      setup.printed seat := by
    simp only [Seat.both, List.flatMap_cons, List.flatMap_nil, List.append_nil, List.filter_append,
      filter_printed]
    cases seat <;> simp
  have named : (setup.printed seat).map (fun entry => some entry.2.1) =
      (setup.decks.get seat).reverse.map some := by
    rw [printed, List.map_filterMap, ← List.filterMap_eq_map]
    apply List.filterMap_congr
    intro card member
    obtain ⟨template, there⟩ :=
      Option.isSome_iff_exists.mp (known card (List.mem_reverse.mp member))
    simp [there]
  rw [← withDecks_eq, empty, own, named, List.map_nil, List.nil_append] at decks
  rw [List.map_reverse, decks, List.map_reverse, List.reverse_reverse]

/-- No hand is dealt yet when the decks are full, and nothing was told. -/
theorem withDecks_fresh (setup : DuelSetup) : (∀ seat, (setup.withDecks.zones seat).hand = []) ∧
    setup.withDecks.pendingEvents = [] := by
  refine setup.withDecks_keeps
    (fun state => (∀ seat, (state.zones seat).hand = []) ∧ state.pendingEvents = [])
    ⟨fun seat => by cases seat <;> rfl, rfl⟩ ?_
  rintro state owner card kind ⟨hands, silent⟩
  refine ⟨?_, silent⟩
  intro seat
  rw [zones_spawn]
  split
  · exact hands seat
  · exact hands seat

/-! Hands -/

/-- Drawing cards takes them from the top of the player's deck and nothing else. -/
theorem drawCards_zones (count : Nat) {state : GameState} (silent : state.Silent)
    (drawn : drawCards player count state = .ok next) : next.Silent ∧
      ∀ seat, next.zones seat =
        if seat = player then (state.zones player).dealt (state.zones player).deck count
        else state.zones seat := by
  induction count generalizing state with
  | zero =>
    obtain rfl := Except.ok.inj drawn
    refine ⟨silent, ?_⟩
    intro seat
    split
    · next own => rw [own, PlayerZones.dealt_zero]
    · rfl
  | succ count ih =>
    rw [drawCards] at drawn
    split at drawn
    · next top =>
      obtain rfl := Except.ok.inj drawn
      have empty : (state.zones player).deck = [] := List.getLast?_eq_none_iff.mp top
      refine ⟨silent, ?_⟩
      intro seat
      split
      · next own => rw [own, PlayerZones.dealt_of_empty empty]
      · rfl
    · next card top =>
      obtain ⟨rest, deck⟩ := List.getLast?_eq_some_iff.mp top
      rw [draw_eq (silent.consistent.lists .deck) deck] at drawn
      obtain ⟨calm, zones⟩ := ih (silent.drewTop deck) drawn
      refine ⟨calm, ?_⟩
      intro seat
      rw [zones]
      split
      · rw [zones_drewTop, if_pos rfl, ← PlayerZones.dealt_one deck, PlayerZones.dealt_dealt,
          Nat.add_comm]
      · next other => rw [zones_drewTop, if_neg other]

/-- A hand is dealt from the top of a deck, which was shuffled before if this was asked for. -/
theorem dealHand_zones (silent : state.Silent) (dealt : setup.dealHand state player = .ok next) :
    next.Silent ∧ ∃ order, order.Perm (state.zones player).deck ∧
      (setup.shuffle = false → order = (state.zones player).deck) ∧
      ∀ seat, next.zones seat =
        if seat = player then (state.zones player).dealt order setup.rules.config.startingHand
        else state.zones seat := by
  rw [dealHand] at dealt
  cases shuffles : setup.shuffle with
  | false =>
    rw [shuffles] at dealt
    obtain ⟨calm, zones⟩ := drawCards_zones _ silent dealt
    exact ⟨calm, _, .refl _, fun _ => rfl, zones⟩
  | true =>
    rw [shuffles] at dealt
    obtain ⟨calm, zones⟩ := drawCards_zones _ (silent.shuffled player) dealt
    have mixed (seat : Seat) : ((state.shuffled player).record (.deckShuffled player)).zones seat =
        if seat = player then ((state.zones player).shuffleDeck state.shuffler).1
        else state.zones seat := state.zones_shuffled player seat
    refine ⟨calm, ((state.zones player).shuffleDeck state.shuffler).1.deck,
      Random.applySwaps_perm _ _, fun kept => by simp at kept, fun seat => ?_⟩
    rw [zones, mixed, mixed, if_pos rfl]
    split
    · rfl
    · rfl

/-- Both hands are dealt from the tops of their own decks, whoever begins. -/
theorem dealHands_zones (starter : Seat) (silent : state.Silent)
    (dealt : (Seat.startingWith starter).foldlM setup.dealHand state = .ok next) :
    next.Silent ∧ ∀ seat, ∃ order, order.Perm (state.zones seat).deck ∧
      (setup.shuffle = false → order = (state.zones seat).deck) ∧
      next.zones seat = (state.zones seat).dealt order setup.rules.config.startingHand := by
  rw [Seat.startingWith, List.foldlM_cons] at dealt
  obtain ⟨middle, first, others⟩ := bind_eq_ok.mp dealt
  rw [List.foldlM_cons] at others
  obtain ⟨last, second, rest⟩ := bind_eq_ok.mp others
  obtain rfl := pure_eq_ok.mp rest
  obtain ⟨calm, order, perm, kept, zones⟩ := dealHand_zones silent first
  obtain ⟨calmToo, orderToo, permToo, keptToo, zonesToo⟩ := dealHand_zones calm second
  have untouched : middle.zones starter.opponent = state.zones starter.opponent := by
    rw [zones, if_neg starter.opponent_ne]
  rw [untouched] at permToo keptToo zonesToo
  refine ⟨calmToo, ?_⟩
  intro seat
  rcases seat.eq_or_eq_opponent starter with rfl | rfl
  · refine ⟨order, perm, kept, ?_⟩
    rw [zonesToo, if_neg seat.opponent_ne.symm, zones, if_pos rfl]
  · exact ⟨orderToo, permToo, keptToo, by rw [zonesToo, if_pos rfl]⟩

end DuelSetup

end CardDuel
