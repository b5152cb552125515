/-
This file follows the cards through the setup of a duel: they are put into the decks, and then hands
are dealt and the first turn begins.
-/

import CardDuel.Proofs.Run
import CardDuel.Proofs.Table.Play

namespace CardDuel

namespace GameState

variable {config : DuelConfig} {state : GameState}

/-! New cards -/

/-- The empty table agrees with every configuration. -/
theorem Agrees.initial (config : DuelConfig) (seed : UInt64) (starter : Seat) :
    (GameState.initial config seed starter).Agrees config := by
  have unknown (card : InstanceId) : (GameState.initial config seed starter).card? card = none := rfl
  have empty (seat : Seat) (zone : Zone) :
      ((GameState.initial config seed starter).zones seat).cards zone = [] := by
    cases seat <;> cases zone <;> simp [GameState.initial, GameState.zones, player,
      PlayerState.initial, PlayerZones.empty, PlayerZones.cards]
  refine ⟨?_, ?_, ?_, ?_, ?_, ?_⟩
  · intro place found present
    simp [GameState.initial] at present
  · intro seat zone card
    simp [empty, unknown]
  · intro seat zone
    simp [empty]
  · intro card found row known
    simp [unknown] at known
  · intro card found known
    simp [unknown] at known
  · intro seat zone row given
    cases seat <;> cases zone <;> simp [GameState.initial, GameState.zones, player,
      PlayerState.initial, PlayerZones.empty, PlayerZones.row?, DuelConfig.slots] at given ⊢ <;>
      simp [← given]

section Spawn

variable (state : GameState) (owner : Seat) (card : CardId) (kind : CardKind)

@[simp] theorem cards_spawn : (state.spawn owner card kind).cards =
    state.cards ++ [CardInstance.create (.ofIndex state.cards.length) card kind owner] := rfl

/-- A new card lies on top of the deck of its owner. -/
theorem zones_spawn (seat : Seat) : (state.spawn owner card kind).zones seat =
    if seat = owner then { state.zones seat with
      deck := (state.zones seat).deck ++ [.ofIndex state.cards.length] }
    else state.zones seat := by
  rw [spawn, zones_setZones]
  by_cases own : seat = owner
  · subst own
    simp only [if_true]
    rfl
  · simp only [own, if_false]
    rfl

/-- A new card is the only one that any zone gains. -/
theorem mem_cards_spawn (seat : Seat) (zone : Zone) (other : InstanceId) :
    other ∈ ((state.spawn owner card kind).zones seat).cards zone ↔
      other ∈ (state.zones seat).cards zone ∨
        (other = .ofIndex state.cards.length ∧ seat = owner ∧ zone = .deck) := by
  rw [zones_spawn]
  by_cases own : seat = owner
  · subst own
    cases zone <;> simp [PlayerZones.cards]
  · simp [own]

/-- A new card of a deck leaves all rows as they are. -/
theorem row?_spawn (seat : Seat) (zone : Zone) :
    ((state.spawn owner card kind).zones seat).row? zone = (state.zones seat).row? zone := by
  rw [zones_spawn]
  by_cases own : seat = owner
  · simp only [own, if_true]
    cases zone <;> rfl
  · simp only [own, if_false]

/-- This is the card at a number after one more card came. -/
theorem card?_spawn (small : state.cards.length < UInt32.size) (other : InstanceId) :
    (state.spawn owner card kind).card? other =
      if other = .ofIndex state.cards.length then
        some (CardInstance.create (.ofIndex state.cards.length) card kind owner)
      else state.card? other := by
  rw [card?, card?, cards_spawn]
  by_cases new : other = .ofIndex state.cards.length
  · subst new
    simp [InstanceId.index_ofIndex small]
  · have different : other.index ≠ state.cards.length := by
      intro same
      rw [← InstanceId.index_ofIndex small] at same
      exact new (InstanceId.index_inj.mp same)
    simp only [new, if_false]
    rcases Nat.lt_or_gt_of_ne different with before | beyond
    · exact List.getElem?_append_left before
    · have outside : (state.cards ++
          [CardInstance.create (.ofIndex state.cards.length) card kind owner]).length ≤
            other.index := by
        rw [List.length_append, List.length_singleton]
        exact beyond
      rw [List.getElem?_eq_none outside, List.getElem?_eq_none (Nat.le_of_lt beyond)]

end Spawn

section Fresh

variable (small : state.cards.length < UInt32.size)

include small

/-- The next number is that of no card. -/
theorem card?_next : state.card? (.ofIndex state.cards.length) = none := by
  rw [card?, InstanceId.index_ofIndex small]
  simp

/-- The next number is in no zone. -/
theorem Agrees.next_away (agrees : state.Agrees config) (seat : Seat) (zone : Zone) :
    InstanceId.ofIndex state.cards.length ∉ (state.zones seat).cards zone := by
  intro present
  obtain ⟨found, known, _⟩ := (agrees.listed seat zone _).mp present
  rw [card?_next small] at known
  cases known

theorem Numbered.spawn (numbered : state.Numbered) (owner : Seat) (card : CardId) (kind : CardKind) :
    (state.spawn owner card kind).Numbered := by
  intro place found present
  rw [cards_spawn] at present
  rcases Nat.lt_or_ge place state.cards.length with before | beyond
  · rw [List.getElem?_append_left before] at present
    exact numbered place found present
  · rw [List.getElem?_append_right beyond] at present
    obtain ⟨inside, same⟩ := List.getElem?_eq_some_iff.mp present
    have zero : place - state.cards.length < 1 := inside
    have here : place = state.cards.length := by omega
    have new : CardInstance.create (.ofIndex state.cards.length) card kind owner = found := by simpa using same
    rw [here, ← new]
    exact InstanceId.index_ofIndex small

/-- The zones list one more card as the table has it. -/
theorem Agrees.listed_spawn (agrees : state.Agrees config) (owner : Seat) (card : CardId) (kind : CardKind)
    (seat : Seat) (zone : Zone) (other : InstanceId) :
    other ∈ ((state.spawn owner card kind).zones seat).cards zone ↔
      ∃ found, (state.spawn owner card kind).card? other = some found ∧ found.owner = seat ∧ found.zone = zone := by
  rw [mem_cards_spawn, agrees.listed seat zone other, card?_spawn state owner card kind small]
  by_cases new : other = .ofIndex state.cards.length
  · subst new
    simp only [card?_next small, if_true, true_and, Option.some.injEq, reduceCtorEq, false_and, exists_false,
      false_or]
    constructor
    · rintro ⟨rfl, rfl⟩
      exact ⟨_, rfl, rfl, rfl⟩
    · rintro ⟨_, rfl, rfl, rfl⟩
      exact ⟨rfl, rfl⟩
  · simp [new]

/-- One more card is listed once, at the end of its owner's deck. -/
theorem Agrees.once_spawn (agrees : state.Agrees config) (owner : Seat) (card : CardId) (kind : CardKind)
    (seat : Seat) (zone : Zone) : (((state.spawn owner card kind).zones seat).cards zone).Nodup := by
  rw [zones_spawn]
  split
  · cases zone with
    | deck =>
      rw [PlayerZones.cards, List.nodup_append]
      refine ⟨agrees.once seat .deck, List.nodup_singleton _, ?_⟩
      rintro other present _ new rfl
      obtain rfl := List.mem_singleton.mp new
      exact agrees.next_away small seat .deck present
    | hand => exact agrees.once seat .hand
    | monsters => exact agrees.once seat .monsters
    | spells => exact agrees.once seat .spells
    | graveyard => exact agrees.once seat .graveyard
    | banished => exact agrees.once seat .banished
  · exact agrees.once seat zone

end Fresh

/-- One more card keeps the table and the zones in agreement. -/
theorem Agrees.spawn (agrees : state.Agrees config) (owner : Seat) (card : CardId) (kind : CardKind)
    (small : state.cards.length < UInt32.size) : (state.spawn owner card kind).Agrees config := by
  refine ⟨Numbered.spawn small agrees.numbered owner card kind, agrees.listed_spawn small owner card kind,
    agrees.once_spawn small owner card kind, ?_, ?_, ?_⟩
  · intro other found row
    rw [row?_spawn, card?_spawn state owner card kind small]
    by_cases new : other = .ofIndex state.cards.length
    · simp only [new, if_true, Option.some.injEq]
      rintro rfl given
      simp [CardInstance.create, PlayerZones.row?] at given
    · simp only [new, if_false]
      exact agrees.inRow other found row
  · intro other found
    rw [card?_spawn state owner card kind small]
    by_cases new : other = .ofIndex state.cards.length
    · simp only [new, if_true, Option.some.injEq]
      rintro rfl _
      rfl
    · simp only [new, if_false]
      exact agrees.inPile other found
  · intro seat zone row
    rw [row?_spawn]
    exact agrees.rows seat zone row

/-- One more card comes into a deck and changes no other list. -/
theorem Lists.spawn {zone : Zone} (lists : state.Lists zone) (away : zone ≠ .deck) (owner : Seat)
    (card : CardId) (kind : CardKind) : (state.spawn owner card kind).Lists zone := by
  have same (seat : Seat) : ∀ other, other ∈ ((state.spawn owner card kind).zones seat).cards zone ↔
      other ∈ (state.zones seat).cards zone := by
    intro other
    simp [mem_cards_spawn, away]
  constructor
  · intro seat other
    rw [same, lists.listed seat other, card?, card?, cards_spawn]
    rcases Nat.lt_or_ge other.index state.cards.length with early | late
    · rw [List.getElem?_append_left early]
    · rw [List.getElem?_append_right late, List.getElem?_eq_none late]
      refine ⟨by simp, ?_⟩
      rintro ⟨found, present, _, placed⟩
      obtain ⟨_, rfl⟩ := List.getElem?_eq_some_iff.mp present
      simp [CardInstance.create, Ne.symm away] at placed
  · intro seat
    rw [zones_spawn]
    by_cases own : seat = owner
    · simp only [own, if_true]
      cases zone with
      | deck => exact absurd rfl away
      | _ => exact lists.once owner
    · simp only [own, if_false]
      exact lists.once seat

end GameState

open GameState

namespace DuelSetup

variable (setup : DuelSetup)

/-! Decks -/

/-- These are the cards of a player's deck with their printed sorts, the last one first. -/
def printed (player : Seat) : List (Seat × CardId × CardKind) :=
  (setup.decks.get player).reverse.filterMap fun card =>
    (setup.rules.catalog.get? card).map fun template => (player, card, template.kind)

/-- These are the identities of the cards of a duel. A card is numbered by its place. -/
def roster : List CardIdentity :=
  (Seat.both.flatMap setup.printed).zipIdx.map fun ((owner, card, kind), place) =>
    (CardInstance.create (.ofIndex place) card kind owner).identity

def spawnPrinted (state : GameState) (entry : Seat × CardId × CardKind) : GameState :=
  state.spawn entry.1 entry.2.1 entry.2.2

/-- The deck of a player comes card by card as it is printed. -/
theorem spawnDeck_eq (state : GameState) (player : Seat) :
    setup.spawnDeck state player = (setup.printed player).foldl spawnPrinted state := by
  rw [spawnDeck, printed, List.foldl_filterMap]
  congr 1
  funext current card
  rw [spawnCard]
  cases setup.rules.catalog.get? card with
  | none => rfl
  | some template => rfl

/-- Both decks come card by card, one player after the other. -/
theorem withDecks_eq : setup.withDecks = (Seat.both.flatMap setup.printed).foldl spawnPrinted
    (.initial setup.rules.config setup.seed setup.firstPlayer) := by
  rw [List.foldl_flatMap, withDecks]
  congr 1
  funext state player
  exact setup.spawnDeck_eq state player

/-- What holds before the first card and is kept by each new card holds of the full decks. -/
theorem withDecks_keeps (kept : GameState → Prop)
    (start : kept (.initial setup.rules.config setup.seed setup.firstPlayer))
    (spawn : ∀ (state : GameState) (owner : Seat) (card : CardId) (kind : CardKind),
      kept state → kept (state.spawn owner card kind)) : kept setup.withDecks := by
  have spawned (entries : List (Seat × CardId × CardKind)) : ∀ {state : GameState}, kept state →
      kept (entries.foldl spawnPrinted state) := by
    induction entries with
    | nil => exact fun held => held
    | cons entry rest ih => exact fun held => ih (spawn _ _ _ _ held)
  rw [withDecks_eq]
  exact spawned _ start

/-- Each printed card adds its identity at the end. -/
theorem spawnPrinted_identities (entries : List (Seat × CardId × CardKind)) (state : GameState) :
    (entries.foldl spawnPrinted state).cards.map CardInstance.identity =
      state.cards.map CardInstance.identity ++
        (entries.zipIdx state.cards.length).map fun ((owner, card, kind), place) =>
          (CardInstance.create (.ofIndex place) card kind owner).identity := by
  induction entries generalizing state with
  | nil => simp
  | cons entry rest ih =>
    rw [List.foldl_cons, ih]
    simp [spawnPrinted, List.zipIdx_cons]

/-- The cards of a duel are its roster. -/
theorem withDecks_identities : setup.withDecks.cards.map CardInstance.identity = setup.roster := by
  rw [withDecks_eq, spawnPrinted_identities]
  rfl

/-- Each card of the table was there before or comes from a printed card. -/
theorem mem_spawnPrinted (entries : List (Seat × CardId × CardKind)) {state : GameState}
    {found : CardInstance} (member : found ∈ (entries.foldl spawnPrinted state).cards) :
    found ∈ state.cards ∨
      ∃ id, ∃ entry ∈ entries, found = .create id entry.2.1 entry.2.2 entry.1 := by
  induction entries generalizing state with
  | nil => exact .inl member
  | cons entry rest ih =>
    rcases ih member with early | ⟨id, other, listed, created⟩
    · rw [spawnPrinted, cards_spawn] at early
      rcases List.mem_append.mp early with old | new
      · exact .inl old
      · exact .inr ⟨_, entry, List.mem_cons_self .., List.mem_singleton.mp new⟩
    · exact .inr ⟨id, other, List.mem_cons_of_mem entry listed, created⟩

/-- The cards of the full decks are new cards that the catalog knows. -/
theorem mem_withDecks {found : CardInstance} (member : found ∈ setup.withDecks.cards) :
    ∃ id card owner template, setup.rules.catalog.get? card = some template ∧
      found = .create id card template.kind owner := by
  rw [withDecks_eq] at member
  rcases mem_spawnPrinted _ member with early | ⟨id, entry, listed, created⟩
  · simp [GameState.initial] at early
  · obtain ⟨player, _, printed⟩ := List.mem_flatMap.mp listed
    obtain ⟨card, _, given⟩ := List.mem_filterMap.mp printed
    obtain ⟨template, known, rfl⟩ := Option.map_eq_some_iff.mp given
    exact ⟨id, card, player, template, known, created⟩

/-- Printed cards keep a table that agrees, as long as their numbers fit. -/
theorem spawnPrinted_agrees {config : DuelConfig} (entries : List (Seat × CardId × CardKind))
    {state : GameState} (agrees : state.Agrees config)
    (fits : state.cards.length + entries.length ≤ UInt32.size) :
    (entries.foldl spawnPrinted state).Agrees config := by
  induction entries generalizing state with
  | nil => exact agrees
  | cons entry rest ih =>
    rw [List.length_cons] at fits
    refine ih (agrees.spawn entry.1 entry.2.1 entry.2.2 (by omega)) ?_
    simp only [spawnPrinted, cards_spawn, List.length_append, List.length_singleton]
    omega

def Fits : Prop := setup.decks.first.length + setup.decks.second.length < UInt32.size

/-- At most as many cards are printed as a deck holds. -/
theorem length_printed_le (player : Seat) :
    (setup.printed player).length ≤ (setup.decks.get player).length := by
  have shorter := List.length_filterMap_le (fun card =>
    (setup.rules.catalog.get? card).map fun template => (player, card, template.kind))
      (setup.decks.get player).reverse
  rw [List.length_reverse] at shorter
  exact shorter

variable {setup}

/-- The table with both decks agrees with its configuration. -/
theorem withDecks_agrees (fits : setup.Fits) : setup.withDecks.Agrees setup.rules.config := by
  have first := setup.length_printed_le .first
  have second := setup.length_printed_le .second
  rw [withDecks_eq]
  refine spawnPrinted_agrees _ (.initial _ _ _) ?_
  simp only [Fits, PerSeat.get] at fits first second
  simp only [Seat.both, List.flatMap_cons, List.flatMap_nil, List.append_nil, List.length_append,
    GameState.initial, List.length_nil]
  omega

/-- No zone but the deck holds a card before the hands are dealt. -/
theorem withDecks_lists (setup : DuelSetup) {zone : Zone} (away : zone ≠ .deck) :
    setup.withDecks.Lists zone :=
  setup.withDecks_keeps (·.Lists zone) ((Agrees.initial setup.rules.config _ _).lists zone)
    fun _ owner card kind lists => lists.spawn away owner card kind

/-- No use is counted and nothing is told or granted before the first hand is dealt. -/
theorem withDecks_unused (setup : DuelSetup) : setup.withDecks.activations = .empty ∧
    setup.withDecks.log = [] ∧ setup.withDecks.granted = [] :=
  setup.withDecks_keeps
    (fun state => state.activations = .empty ∧ state.log = [] ∧ state.granted = [])
    ⟨rfl, rfl, rfl⟩ fun _ _ _ _ unused => unused

/-! Hands -/

section Hands

variable {may : GameState → Change → Prop} {player : Seat} {state next : GameState}
  (shuffles : ∀ state player, may state (.shuffleDeck player))
  (draws : ∀ state player card, may state (.draw player card))

include draws

/-- Drawn cards are deeds. -/
theorem drawCards_deeds {count : Nat} (drawn : drawCards player count state = .ok next) :
    Deeds may state next := by
  induction count generalizing state with
  | zero =>
    obtain rfl := Except.ok.inj drawn
    exact .refl state
  | succ count ih =>
    rw [drawCards] at drawn
    split at drawn
    · obtain rfl := Except.ok.inj drawn
      exact .refl state
    · obtain ⟨middle, first, others⟩ := bind_eq_ok.mp drawn
      exact (Deeds.change (draws state player _) first).trans (ih others)

include shuffles

/-- A dealt hand is made of deeds. -/
theorem dealHand_deeds (dealt : setup.dealHand state player = .ok next) : Deeds may state next := by
  rw [dealHand] at dealt
  split at dealt
  · obtain ⟨shuffled, first, drawn⟩ := bind_eq_ok.mp dealt
    exact (Deeds.change (shuffles state player) first).trans (drawCards_deeds draws drawn)
  · exact drawCards_deeds draws dealt

/-- The hands of several players are made of deeds. -/
theorem dealHands_deeds {players : List Seat}
    (dealt : players.foldlM setup.dealHand state = .ok next) : Deeds may state next := by
  induction players generalizing state with
  | nil =>
    obtain rfl := pure_eq_ok.mp dealt
    exact .refl state
  | cons player rest ih =>
    rw [List.foldlM_cons] at dealt
    obtain ⟨middle, first, others⟩ := bind_eq_ok.mp dealt
    exact (dealHand_deeds shuffles draws first).trans (ih others)

end Hands

theorem dealHands_edits {players : List Seat} {state next : GameState}
    (dealt : players.foldlM setup.dealHand state = .ok next) : Edits state next :=
  .of_deeds (dealHands_deeds (fun _ _ => trivial) (fun _ _ _ => trivial) dealt)

/-- A duel begins by shifts from its decks. -/
theorem build_shifts {duel : Duel} (built : setup.build = .ok duel) :
    Shifts setup.withDecks duel.state := by
  obtain ⟨_, _, _, dealt, hands, rfl⟩ := build_eq_ok.mp built
  exact ((dealHands_edits hands).shifts.trans (startTurn_shifts dealt _)).trans (settle_shifts _ _)

/-- From the full decks to any state of a run, cards are moved in steps. -/
theorem Run.shifts {requests : List Request} {duel : Duel} (run : setup.Run requests duel) :
    Shifts setup.withDecks duel.state :=
  run.keeps build_shifts fun stepped earlier => earlier.trans (step_shifts stepped)

/-- In every state of a run the cards are numbered and every zone lists exactly its cards. -/
theorem Run.consistent {requests : List Request} {duel : Duel} (fits : setup.Fits)
    (run : setup.Run requests duel) : duel.state.Consistent :=
  run.shifts.consistent (withDecks_agrees fits).consistent

end DuelSetup

end CardDuel
