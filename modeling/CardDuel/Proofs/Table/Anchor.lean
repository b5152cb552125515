/-
This file tells what holds of the numbers of cards even when there are more cards than numbers: zones
name only cards that exist, and a card that has left the deck is found under its own number.
-/

import CardDuel.Proofs.Table.Setup

namespace CardDuel

namespace GameState

def Knows (state : GameState) (card : InstanceId) : Prop := card.index < state.cards.length

/-- The known cards are the cards that are found. -/
theorem knows_iff {state : GameState} {card : InstanceId} :
    state.Knows card ↔ (state.card? card).isSome = true := by
  rw [Knows, card?, isSome_getElem?]

section Arrived

variable {state : GameState} {owner seat : Seat} {remaining : PlayerZones} {card other : InstanceId}
  {zone target : Zone} {place : Place} {position : Position}

/-- An entry of the table after a move was there before, or it is that of the moved card. -/
theorem of_getElem?_arrived {spot : Nat} {entry : CardInstance}
    (present : (state.arrived owner remaining card zone place position).cards[spot]? =
      some entry) :
    state.cards[spot]? = some entry ∨
      spot = card.index ∧ ∃ old slot, state.cards[spot]? = some old ∧
        entry = old.relocate zone slot position := by
  simp only [arrived, modifyCard, cards_setZones, List.getElem?_modify] at present
  obtain ⟨old, presentOld, same⟩ := Option.map_eq_some_iff.mp present
  by_cases here : card.index = spot
  · rw [if_pos here] at same
    exact .inr ⟨here.symm, old, _, presentOld, same.symm⟩
  · rw [if_neg here] at same
    exact .inl (presentOld.trans (congrArg some same))

/-- A card in a zone after a move was in some zone of the same player before, or it was moved. -/
theorem of_mem_arrived {found : CardInstance} (room : (state.zones found.owner).HasRoom zone)
    (removed : (state.zones found.owner).remove? found.zone card = some remaining)
    (member : other ∈
      ((state.arrived found.owner remaining card zone place position).zones seat).cards target) :
    other = card ∨ ∃ pile, other ∈ (state.zones seat).cards pile := by
  rw [zones_arrived] at member
  split at member
  · next own =>
    subst own
    have early (pile : Zone) (inside : other ∈ remaining.cards pile) :
        ∃ pile, other ∈ (state.zones found.owner).cards pile := by
      by_cases home : pile = found.zone
      · subst home
        exact ⟨found.zone, (PlayerZones.remove?_perm removed).mem_iff.mpr
          (List.mem_cons_of_mem card inside)⟩
      · rw [PlayerZones.remove?_cards_of_ne removed home] at inside
        exact ⟨pile, inside⟩
    by_cases here : target = zone
    · subst here
      have entered := PlayerZones.insert_perm card place (room.remove? removed)
      rcases List.mem_cons.mp (entered.mem_iff.mp member) with same | inside
      · exact .inl same
      · exact .inr (early target inside)
    · rw [PlayerZones.insert_cards_of_ne card place (room.remove? removed) here] at member
      exact .inr (early target member)
  · exact .inr ⟨target, member⟩

end Arrived

/-- Numbers that cards share with others belong to cards which never leave the deck. -/
structure Anchored (state : GameState) : Prop where
  numbered : ∀ (place : Nat) (found : CardInstance),
    state.cards[place]? = some found → found.id = .ofIndex place
  hidden : ∀ (place : Nat) (found : CardInstance),
    state.cards[place]? = some found → UInt32.size ≤ place → found.zone = .deck
  listed : ∀ (seat : Seat) (zone : Zone), ∀ card ∈ (state.zones seat).cards zone,
    state.Knows card

namespace Anchored

variable {state before after : GameState}

/-- A card that is not in the deck is found under its number. -/
theorem card?_id (anchored : state.Anchored) {found : CardInstance} (member : found ∈ state.cards)
    (away : found.zone ≠ .deck) : state.card? found.id = some found := by
  obtain ⟨place, present⟩ := List.mem_iff_getElem?.mp member
  have small : place < UInt32.size := by
    by_contra large
    exact away (anchored.hidden place found present (Nat.le_of_not_lt large))
  rw [card?, anchored.numbered place found present, InstanceId.index_ofIndex small]
  exact present

/-- A card that is found under a number has that number. -/
theorem id_eq (anchored : state.Anchored) {card : InstanceId} {found : CardInstance}
    (known : state.card? card = some found) : found.id = card := by
  rw [anchored.numbered card.index found known]
  exact InstanceId.ofIndex_index card

/-- A card of the field is at the place of its number. -/
theorem place_eq (anchored : state.Anchored) {place : Nat} {found : CardInstance}
    (there : state.cards[place]? = some found) (field : found.isOnField = true) :
    found.id.index = place := by
  have small : place < UInt32.size := by
    by_contra large
    have hidden := anchored.hidden place found there (Nat.le_of_not_lt large)
    simp [CardInstance.isOnField, hidden, Zone.isField] at field
  rw [anchored.numbered place found there, InstanceId.index_ofIndex small]

/-- The cards of the table are known. -/
theorem knows_id (anchored : state.Anchored) {found : CardInstance}
    (member : found ∈ state.cards) : state.Knows found.id := by
  obtain ⟨place, present⟩ := List.mem_iff_getElem?.mp member
  obtain ⟨inside, _⟩ := List.getElem?_eq_some_iff.mp present
  rw [Knows, anchored.numbered place found present]
  have wrapped : (InstanceId.ofIndex place).index = place % UInt32.size := by
    simp [InstanceId.index, InstanceId.ofIndex, UInt32.size]
  rw [wrapped]
  exact Nat.lt_of_le_of_lt (Nat.mod_le place _) inside

/-- A table stays anchored as long as its cards stay still. -/
theorem still (anchored : before.Anchored) (still : Still before after) : after.Anchored := by
  have count : after.cards.length = before.cards.length := by
    simpa using congrArg List.length still.standings
  refine ⟨?_, ?_, ?_⟩
  · intro place found present
    obtain ⟨old, presentOld, same⟩ := still.card_at present
    have id : old.id = found.id := congrArg (fun standing => standing.1.id) same
    exact id ▸ anchored.numbered place old presentOld
  · intro place found present large
    obtain ⟨old, presentOld, same⟩ := still.card_at present
    have zone : old.zone = found.zone := congrArg (fun standing => standing.2.1) same
    exact zone ▸ anchored.hidden place old presentOld large
  · intro seat zone card member
    rw [still.zones seat] at member
    rw [Knows, count]
    exact anchored.listed seat zone card member

/-- Only a card with a number of its own can move. -/
theorem relocate (anchored : before.Anchored) {card : InstanceId} {zone origin : Zone}
    {place : Place} {position : Position}
    (moved : before.relocate card zone place position = .ok (origin, after)) : after.Anchored := by
  obtain ⟨found, remaining, known, _, room, removed, rfl⟩ := relocate_cases moved
  have there : before.Knows card := knows_iff.mpr (by simp [known])
  have count : (before.arrived found.owner remaining card zone place position).cards.length =
      before.cards.length := by simp [arrived, modifyCard]
  refine ⟨?_, ?_, ?_⟩
  · intro spot entry present
    rcases of_getElem?_arrived present with stayed | ⟨_, old, slot, presentOld, rfl⟩
    · exact anchored.numbered spot entry stayed
    · exact (congrArg CardIdentity.id (old.identity_relocate zone slot position)).trans
        (anchored.numbered spot old presentOld)
  · intro spot entry present large
    rcases of_getElem?_arrived present with stayed | ⟨rfl, _⟩
    · exact anchored.hidden spot entry stayed large
    · exact absurd card.number.toNat_lt (Nat.not_lt_of_le large)
  · intro seat target other member
    rw [Knows, count]
    rcases of_mem_arrived room removed member with rfl | ⟨pile, earlier⟩
    · exact there
    · exact anchored.listed seat pile other earlier

/-- A shuffle keeps the table anchored. -/
theorem shuffled (anchored : state.Anchored) (player : Seat) : (state.shuffled player).Anchored := by
  refine ⟨anchored.numbered, anchored.hidden, ?_⟩
  intro seat zone card member
  refine anchored.listed seat zone card ?_
  rw [GameState.shuffled, zones_setZones] at member
  split at member
  · next own =>
    subst own
    cases zone with
    | deck => exact (Random.applySwaps_perm _ _).mem_iff.mp member
    | _ => exact member
  · exact member

end Anchored

variable {before after : GameState}

/-- Shifts keep the table anchored. -/
theorem Shifts.anchored (shifts : Shifts before after) (start : before.Anchored) :
    after.Anchored := by
  induction shifts with
  | refl => exact start
  | tail _ step ih =>
    cases step with
    | still still => exact ih.still still
    | move moved => exact ih.relocate moved
    | shuffle player => exact ih.shuffled player

/-- No card becomes known or unknown by shifts. -/
theorem Shifts.knows_iff (shifts : Shifts before after) {card : InstanceId} :
    after.Knows card ↔ before.Knows card := by
  have count := congrArg List.length shifts.identities
  rw [List.length_map, List.length_map] at count
  rw [Knows, Knows, count]

/-- The card under a number stays the same printed card. -/
theorem Shifts.printed (shifts : Shifts before after) {card : InstanceId} {found : CardInstance}
    (known : before.card? card = some found) :
    ∃ same, after.card? card = some same ∧ same.card = found.card := by
  have place := congrArg (fun identities => identities[card.index]?) shifts.identities
  simp only [List.getElem?_map] at place
  rw [show before.cards[card.index]? = some found from known, Option.map_some] at place
  obtain ⟨same, present, identity⟩ := Option.map_eq_some_iff.mp place
  exact ⟨same, present, congrArg CardIdentity.card identity⟩

/-- The cards after some shifts are printed as the ones before. -/
theorem Shifts.printed_before (shifts : Shifts before after) {card : InstanceId}
    {found : CardInstance} (known : after.card? card = some found) :
    ∃ same, before.card? card = some same ∧ same.card = found.card := by
  have seen : after.Knows card := GameState.knows_iff.mpr (by simp [known])
  obtain ⟨old, there⟩ := Option.isSome_iff_exists.mp
    (GameState.knows_iff.mp (shifts.knows_iff.mp seen))
  obtain ⟨new, present, printed⟩ := shifts.printed there
  obtain rfl := Option.some.inj (known.symm.trans present)
  exact ⟨old, there, printed.symm⟩

/-- A new card of a deck keeps the table anchored. -/
theorem Anchored.spawn {state : GameState} (anchored : state.Anchored) (owner : Seat) (card : CardId)
    (kind : CardKind) : (state.spawn owner card kind).Anchored := by
  have placed (place : Nat) (found : CardInstance)
      (present : (state.spawn owner card kind).cards[place]? = some found) :
      state.cards[place]? = some found ∨ place = state.cards.length ∧
        found = CardInstance.create (.ofIndex state.cards.length) card kind owner := by
    rw [cards_spawn] at present
    rcases Nat.lt_or_ge place state.cards.length with early | late
    · rw [List.getElem?_append_left early] at present
      exact .inl present
    · rw [List.getElem?_append_right late] at present
      obtain ⟨inside, same⟩ := List.getElem?_eq_some_iff.mp present
      have zero : place - state.cards.length < 1 := inside
      exact .inr ⟨by omega, by simpa using same.symm⟩
  have more {other : InstanceId} (known : other.index ≤ state.cards.length) :
      (state.spawn owner card kind).Knows other := by
    rw [Knows, cards_spawn, List.length_append]
    exact Nat.lt_succ_of_le known
  refine ⟨?_, ?_, ?_⟩
  · intro place found present
    rcases placed place found present with early | ⟨rfl, rfl⟩
    · exact anchored.numbered place found early
    · rfl
  · intro place found present large
    rcases placed place found present with early | ⟨rfl, rfl⟩
    · exact anchored.hidden place found early large
    · rfl
  · intro seat zone other member
    rcases (mem_cards_spawn state owner card kind seat zone other).mp member with
      early | ⟨rfl, _, _⟩
    · exact more (Nat.le_of_lt (anchored.listed seat zone other early))
    · refine more ?_
      simpa [InstanceId.index, InstanceId.ofIndex] using Nat.mod_le state.cards.length _

/-- The empty table is anchored. -/
theorem Anchored.initial (config : DuelConfig) (seed : UInt64) (starter : Seat) :
    (GameState.initial config seed starter).Anchored := by
  refine ⟨by simp [GameState.initial], by simp [GameState.initial], ?_⟩
  intro seat zone card member
  have empty := (Agrees.initial config seed starter).listed seat zone card
  obtain ⟨found, known, _⟩ := empty.mp member
  simp [card?, GameState.initial] at known

end GameState

namespace DuelSetup

/-- The table with both decks is anchored. -/
theorem withDecks_anchored (setup : DuelSetup) : setup.withDecks.Anchored :=
  setup.withDecks_keeps GameState.Anchored (.initial _ _ _)
    fun _ owner card kind anchored => anchored.spawn owner card kind

end DuelSetup

end CardDuel
