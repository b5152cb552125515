/-
This file shows that a plan is not spoiled by its own first changes: a plan that was made can be carried out,
and only special summons may lack room, which is known before the first of them.
-/

import CardDuel.Proofs.Chain.Account
import CardDuel.Proofs.Effect.Summons
import CardDuel.Proofs.Legal.Changes
import CardDuel.Proofs.Table.Anchor
import CardDuel.Proofs.Table.Pile

namespace CardDuel

/-- This is the number of empty places in the monster row of a player. -/
def PlayerZones.freeMonsterPlaces (zones : PlayerZones) : Nat := zones.monsters.count none

/-- The monster row has room as long as it has a free place. -/
theorem PlayerZones.hasRoom_monsters_iff {zones : PlayerZones} :
    zones.HasRoom .monsters ↔ 0 < zones.freeMonsterPlaces := by
  have given : zones.row? .monsters = some zones.monsters := rfl
  rw [freeMonsterPlaces, List.count_pos_iff, ← freeSlot?_isSome_iff given]
  exact ⟨fun room => room rfl, fun free _ => free⟩

/-- A card that enters the monster row takes one of its empty places. -/
theorem PlayerZones.freeMonsterPlaces_insert {zones : PlayerZones} (room : zones.HasRoom .monsters)
    (card : InstanceId) (place : Place) : zones.freeMonsterPlaces =
      (zones.insert .monsters card place).1.freeMonsterPlaces + 1 := by
  obtain ⟨_, slot, given, free, same⟩ | ⟨field, _⟩ := insert_cases card place room
  · obtain rfl := Option.some.inj given
    obtain ⟨inside, stands⟩ := List.getElem?_eq_some_iff.mp free
    have positive : 0 < zones.freeMonsterPlaces := hasRoom_monsters_iff.mp room
    rw [same]
    show zones.freeMonsterPlaces = (zones.monsters.set slot (some card)).count none + 1
    rw [List.count_set inside, stands]
    simpa [freeMonsterPlaces] using (Nat.sub_add_cancel positive).symm
  · cases field

/-- A card that leaves a pile leaves the monster row as it is. -/
theorem PlayerZones.freeMonsterPlaces_remove? {zones remaining : PlayerZones} {zone : Zone}
    {card : InstanceId} (removed : zones.remove? zone card = some remaining)
    (pile : zone.isField = false) : remaining.freeMonsterPlaces = zones.freeMonsterPlaces := by
  obtain ⟨_, _, given, _⟩ | ⟨_, _, rfl⟩ := remove?_cases removed
  · exact absurd (isField_of_row? given) (by simp [pile])
  · have row : (zones.setPile zone ((zones.cards zone).erase card)).row? .monsters =
        zones.row? .monsters := row?_setPile _
    exact congrArg (List.count none) (Option.some.inj row)

namespace Change

/-- This is the card that a player draws by a change. -/
def drawnBy? (seat : Seat) : Change → Option InstanceId
  | draw player card => if player = seat then some card else none
  | _ => none

variable {changes : List Change} {state : GameState}

/-- What makes the first change possible and is handed on to the others makes all changes possible. -/
theorem applyAll_ok (fit : GameState → List Change → Prop)
    (step : ∀ {state change others}, fit state (change :: others) →
      ∃ next, change.apply state = .ok next ∧ fit next others)
    (start : fit state changes) : ∃ next, applyAll changes state = .ok next := by
  induction changes generalizing state with
  | nil => exact ⟨state, rfl⟩
  | cons change others ih =>
    obtain ⟨middle, made, rest⟩ := step start
    obtain ⟨next, all⟩ := ih rest
    exact ⟨next, by rw [applyAll_cons, made]; exact all⟩

/-- This tells that a change stays possible whatever happens: it moves a card to a pile, or it asks nothing. -/
def Robust (state : GameState) : Change → Prop
  | moveCard card destination _ => destination.isField = false ∧ state.Knows card
  | shuffleDeck _ | damage .. | gainLife .. | grant _ => True
  | _ => False

end Change

namespace GameState

variable {state next : GameState} {changes : List Change} {link : ChainLink} {resolved : Resolved}
  {card : InstanceId} {found : CardInstance} {seat : Seat}

/-! Robust changes -/

/-- A card that is found is known. -/
theorem knows_of_card? (known : state.card? card = some found) : state.Knows card :=
  knows_iff.mpr (by rw [known]; rfl)

/-- A card that is listed is known. -/
theorem Lists.knows {zone : Zone} (lists : state.Lists zone)
    (held : card ∈ (state.zones seat).cards zone) : state.Knows card := by
  obtain ⟨found, known, _⟩ := (lists.listed seat card).mp held
  exact knows_of_card? known

/-- A card can go to any pile. -/
theorem Knows.relocate_ok (known : state.Knows card) (consistent : state.Consistent) {zone : Zone}
    (pile : zone.isField = false) (place : Place) (position : Position) :
    ∃ origin next, state.relocate card zone place position = .ok (origin, next) := by
  obtain ⟨found, there⟩ := Option.isSome_iff_exists.mp (knows_iff.mp known)
  exact ⟨found.zone, GameState.relocate_ok there ((consistent.lists _).present there)
    fun field => by simp [pile] at field⟩

/-- A robust change is possible in every consistent state. -/
theorem robust_ok {change : Change} (consistent : state.Consistent) (robust : change.Robust state) :
    ∃ next, change.apply state = .ok next := by
  cases change with
  | moveCard card destination place =>
    obtain ⟨pile, known⟩ := robust
    obtain ⟨origin, next, moved⟩ := known.relocate_ok consistent pile place (.inPile destination)
    exact ⟨_, by rw [Change.apply, moved]; rfl⟩
  | shuffleDeck | damage | gainLife | grant => exact ⟨_, rfl⟩
  | draw | summon | setMonster | placeSpell | changePosition | payLife | markDestroyed | negateLink
  | negateAttack => exact robust.elim

/-- A change stays robust when cards are shifted. -/
theorem robust_shifts {before after : GameState} {change : Change}
    (robust : change.Robust before) (shifts : Shifts before after) : change.Robust after := by
  cases change with
  | moveCard card destination place => exact ⟨robust.1, shifts.knows_iff.mpr robust.2⟩
  | shuffleDeck | damage | gainLife | grant => trivial
  | draw | summon | setMonster | placeSpell | changePosition | payLife | markDestroyed | negateLink
  | negateAttack => exact robust.elim

/-- Robust changes are possible one after the other. -/
theorem applyAll_robust (consistent : state.Consistent)
    (robust : ∀ change ∈ changes, change.Robust state) :
    ∃ next, Change.applyAll changes state = .ok next := by
  refine Change.applyAll_ok (fun state changes =>
    state.Consistent ∧ ∀ change ∈ changes, change.Robust state) ?_ ⟨consistent, robust⟩
  rintro state change others ⟨consistent, robust⟩
  obtain ⟨first, rest⟩ := List.forall_mem_cons.mp robust
  obtain ⟨next, made⟩ := robust_ok consistent first
  have shifts := Change.apply_shifts made
  exact ⟨next, made, shifts.consistent consistent,
    fun other member => robust_shifts (rest other member) shifts⟩

/-! Marks -/

/-- A card of the field can be marked. -/
theorem markDestroyed_ok (known : state.card? card = some found) (field : found.isOnField = true)
    (cause : Destruction) : ∃ next, (Change.markDestroyed card cause).apply state = .ok next := by
  rw [Change.apply]
  exact ⟨_, onField_eq_ok.mpr ⟨found, known, field, rfl⟩⟩

/-- Cards of the field can be marked one after the other, since a mark moves no card. -/
theorem applyAll_marks (marks : ∀ change ∈ changes, ∃ card cause found,
    change = .markDestroyed card cause ∧ state.card? card = some found ∧ found.isOnField = true) :
    ∃ next, Change.applyAll changes state = .ok next := by
  refine Change.applyAll_ok (fun state changes => ∀ change ∈ changes, ∃ card cause found,
    change = .markDestroyed card cause ∧ state.card? card = some found ∧ found.isOnField = true) ?_ marks
  intro state change others marks
  obtain ⟨⟨card, cause, found, rfl, known, field⟩, rest⟩ := List.forall_mem_cons.mp marks
  obtain ⟨next, made⟩ := markDestroyed_ok known field cause
  have still : Still state next := .onField made fun _ => rfl
  refine ⟨next, made, ?_⟩
  intro other member
  obtain ⟨card, cause, old, same, known, field⟩ := rest other member
  obtain ⟨new, there, standing⟩ := still.symm.card_at known
  have zone : new.zone = old.zone := congrArg (fun standing => standing.2.1) standing
  exact ⟨card, cause, new, same, there, by rw [CardInstance.isOnField, zone]; exact field⟩

/-! Draws -/

/-- The top card of a deck can be drawn, and then the card below is the top. -/
theorem draw_ok (consistent : state.Consistent) {rest : List InstanceId}
    (deck : (state.zones seat).deck = rest ++ [card]) :
    ∃ next, (Change.draw seat card).apply state = .ok next ∧
      ∀ other, (next.zones other).deck = if other = seat then rest else (state.zones other).deck := by
  refine ⟨_, draw_eq (consistent.lists .deck) deck, ?_⟩
  intro other
  rw [zones_drewTop]
  split
  · rfl
  · rfl

/-- This tells that changes draw from the tops of the decks, card by card. -/
structure Draws (state : GameState) (changes : List Change) : Prop where
  consistent : state.Consistent
  draws : ∀ change ∈ changes, ∃ seat card, change = .draw seat card
  tops : ∀ seat, changes.filterMap (Change.drawnBy? seat) <+: (state.zones seat).deck.reverse

/-- Draws are possible one after the other. -/
theorem applyAll_draws (draws : state.Draws changes) :
    ∃ next, Change.applyAll changes state = .ok next := by
  refine Change.applyAll_ok Draws ?_ draws
  intro state change others draws
  obtain ⟨⟨seat, card, rfl⟩, rest⟩ := List.forall_mem_cons.mp draws.draws
  obtain ⟨below, order⟩ := draws.tops seat
  have drawn : Change.drawnBy? seat (.draw seat card) = some card := if_pos rfl
  rw [List.filterMap_cons_some drawn, List.cons_append] at order
  have deck := (List.reverse_eq_iff.mp order.symm).trans List.reverse_cons
  obtain ⟨next, made, decks⟩ := draw_ok draws.consistent deck
  refine ⟨next, made, (Change.apply_shifts made).consistent draws.consistent, rest, ?_⟩
  intro other
  rw [decks]
  split
  · next same =>
    rw [same, List.reverse_reverse]
    exact List.prefix_append _ below
  · next different =>
    have missed : Change.drawnBy? other (.draw seat card) = none := if_neg (Ne.symm different)
    have tops := draws.tops other
    rwa [List.filterMap_cons_none missed] at tops

/-! Summons -/

/-- This tells whether a change summons a card of a player. -/
def summonsFor (state : GameState) (seat : Seat) : Change → Bool
  | .summon card .. => (state.card? card).any fun found => found.owner = seat
  | _ => false

/-- A card cannot move to a full row. -/
theorem relocate_full (known : state.card? card = some found) {zone : Zone}
    (full : ¬(state.zones found.owner).HasRoom zone) (place : Place) (position : Position) :
    state.relocate card zone place position = .error (.noFreeZone found.owner zone) := by
  obtain ⟨field, taken⟩ := Classical.not_imp.mp full
  have none : ((state.zones found.owner).freeSlot? zone).isNone = true := by simpa using taken
  rw [relocate, requireCard_eq_ok.mpr known]
  show (if zone.isField = true ∧ ((state.zones found.owner).freeSlot? zone).isNone = true then _ else _) = _
  rw [if_pos ⟨field, none⟩]
  rfl

/-- A monster that is not on the field takes one of the empty places of its owner, if there is one. -/
theorem summon_cases (consistent : state.Consistent) (known : state.card? card = some found)
    (monster : found.isMonster = true) (away : found.isOnField = false) (position : Position)
    (kind : SummonKind) :
    ((state.zones found.owner).freeMonsterPlaces = 0 ∧
      (Change.summon card position kind).apply state = .error (.noFreeZone found.owner .monsters)) ∨
    ∃ next, (Change.summon card position kind).apply state = .ok next ∧
      ∀ seat, (state.zones seat).freeMonsterPlaces =
        (next.zones seat).freeMonsterPlaces + if found.owner = seat then 1 else 0 := by
  by_cases room : (state.zones found.owner).HasRoom .monsters
  · right
    obtain ⟨middle, moved⟩ : ∃ middle, state.relocate card .monsters .top position =
        .ok (found.zone, middle) := relocate_ok known ((consistent.lists _).present known) room
    refine ⟨(middle.modifyCard card fun entry => { entry with summonedThisTurn := true }).record
      (.summoned card found.owner kind), ?_, ?_⟩
    · simp only [Change.apply, bind_eq_ok, pure_eq_ok, guard_eq_ok, requireCard_eq_ok]
      exact ⟨found, known, by simp [monster], _, moved, rfl⟩
    · intro seat
      obtain ⟨same, remaining, knownToo, _, _, removed, rfl⟩ := relocate_cases moved
      obtain rfl := Option.some.inj (known.symm.trans knownToo)
      rw [zones_record, zones_modifyCard, zones_arrived]
      by_cases own : found.owner = seat
      · subst own
        rw [if_pos rfl, if_pos rfl, ← PlayerZones.freeMonsterPlaces_insert (room.remove? removed),
          PlayerZones.freeMonsterPlaces_remove? removed away]
      · rw [if_neg (Ne.symm own), if_neg own, Nat.add_zero]
  · left
    refine ⟨Nat.eq_zero_of_not_pos (PlayerZones.hasRoom_monsters_iff.not.mp room), ?_⟩
    rw [Change.apply, requireCard_eq_ok.mpr known]
    show (if (!found.isMonster) = true then _ else _) = _
    rw [monster, relocate_full known room]
    rfl

/-- Summons of different cards are all possible, or those of one owner outnumber the empty places. -/
theorem applyAll_summons {cards : List InstanceId} (consistent : state.Consistent)
    (distinct : cards.Nodup) (monsters : ∀ card ∈ cards, ∃ found, state.card? card = some found ∧
      found.isMonster = true ∧ found.isOnField = false) (position : Position) (kind : SummonKind) :
    let changes := cards.map fun card => Change.summon card position kind
    (∃ next, Change.applyAll changes state = .ok next ∧
      ∀ seat, changes.countP (state.summonsFor seat) ≤ (state.zones seat).freeMonsterPlaces) ∨
    ∃ seat, Change.applyAll changes state = .error (.noFreeZone seat .monsters) ∧
      (state.zones seat).freeMonsterPlaces < changes.countP (state.summonsFor seat) := by
  -- A summon takes one place of its owner and leaves the cards that are still to come as they are.
  induction cards generalizing state with
  | nil => exact .inl ⟨state, rfl, fun seat => Nat.zero_le _⟩
  | cons card rest ih =>
    obtain ⟨⟨found, known, monster, away⟩, others⟩ := List.forall_mem_cons.mp monsters
    obtain ⟨fresh, distinct⟩ := List.nodup_cons.mp distinct
    have own (seat : Seat) : state.summonsFor seat (.summon card position kind) =
        decide (found.owner = seat) := by rw [summonsFor, known]; rfl
    simp only [List.map_cons, Change.applyAll_cons, List.countP_cons, own, decide_eq_true_eq]
    obtain ⟨full, refused⟩ | ⟨middle, made, places⟩ :=
      summon_cases consistent known monster away position kind
    · refine .inr ⟨found.owner, by rw [refused]; rfl, ?_⟩
      rw [full, if_pos rfl]
      exact Nat.succ_pos _
    · have left (other : InstanceId) (member : other ∈ rest) : middle.card? other = state.card? other :=
        card?_of_summon made fun same => fresh (same ▸ member)
      have counts (seat : Seat) :
          (rest.map fun card => Change.summon card position kind).countP (middle.summonsFor seat) =
            (rest.map fun card => Change.summon card position kind).countP (state.summonsFor seat) := by
        rw [List.countP_map, List.countP_map]
        apply List.countP_congr
        intro other member
        show middle.summonsFor seat (.summon other position kind) = true ↔ _
        rw [summonsFor, left other member]
        exact Iff.rfl
      have later := ih ((Change.apply_shifts made).consistent consistent) distinct fun other member => by
        rw [left other member]
        exact others other member
      simp only [counts] at later
      rw [made]
      rcases later with ⟨next, done, enough⟩ | ⟨seat, refused, short⟩
      · refine .inl ⟨next, done, ?_⟩
        intro seat
        have place := places seat
        have held := enough seat
        omega
      · refine .inr ⟨seat, refused, ?_⟩
        have place := places seat
        omega

/-! Plans -/

/-- A plan for every item that plans a known list of changes for each plans these lists one after the other. -/
theorem planEach_eq_flatMap {α : Type} {plan : α → Except Violation (List Change)} {items : List α}
    (make : α → List Change) (each : ∀ item own, plan item = .ok own → own = make item)
    (planned : planEach plan items = .ok changes) : changes = items.flatMap make := by
  simp only [planEach, bind_eq_ok, pure_eq_ok] at planned
  obtain ⟨plans, made, rfl⟩ := planned
  induction items generalizing plans with
  | nil =>
    obtain rfl : [] = plans := pure_eq_ok.mp made
    rfl
  | cons item rest ih =>
    simp only [List.mapM_cons, bind_eq_ok, pure_eq_ok] at made
    obtain ⟨own, first, others, remaining, rfl⟩ := made
    rw [List.flatten_cons, List.flatMap_cons, each item own first, ih others remaining]

/-- What one item adds to a list is all that comes of it if every other item adds nothing. -/
theorem flatMap_ite_of_nodup {α β : Type} [DecidableEq α] {items : List α} {part : α → List β} {key : α}
    (distinct : items.Nodup) :
    (items.flatMap fun item => if item = key then part item else []) <+: part key := by
  induction items with
  | nil => exact List.nil_prefix
  | cons item rest ih =>
    obtain ⟨fresh, distinct⟩ := List.nodup_cons.mp distinct
    rw [List.flatMap_cons]
    split
    · next own =>
      have none : (rest.flatMap fun item => if item = key then part item else []) = [] :=
        List.flatMap_eq_nil_iff.mpr fun other member => if_neg (by rintro rfl; exact fresh (own ▸ member))
      exact ⟨[], by rw [none, List.append_nil, List.append_nil, own]⟩
    · exact ih distinct

/-- The draws of different players are made from the tops of their decks. -/
theorem planDraws_draws {count : Nat} {seats : List Seat} (consistent : state.Consistent)
    (distinct : seats.Nodup) (planned : planEach (state.planDraw count) seats = .ok changes) :
    state.Draws changes := by
  have same := planEach_eq_flatMap
    (fun seat => ((state.zones seat).deckTop count).map (Change.draw seat))
    (fun seat own single => by
      simp only [planDraw, bind_eq_ok, pure_eq_ok] at single
      obtain ⟨_, _, rfl⟩ := single
      rfl) planned
  refine ⟨consistent, ?_, ?_⟩
  · intro change member
    rw [same] at member
    obtain ⟨player, _, inOwn⟩ := List.mem_flatMap.mp member
    obtain ⟨card, _, rfl⟩ := List.mem_map.mp inOwn
    exact ⟨player, card, rfl⟩
  · intro seat
    have drawn (player : Seat) (cards : List InstanceId) :
        (cards.map (Change.draw player)).filterMap (Change.drawnBy? seat) =
          if player = seat then cards else [] := by
      rw [List.filterMap_map]
      split
      · next own => simp [Change.drawnBy?, own]
      · next other => simp [Change.drawnBy?, other]
    rw [same, List.filterMap_flatMap]
    simp only [drawn]
    exact (flatMap_ite_of_nodup distinct).trans (List.take_prefix _ _)

/-- The newest cards of a zone can be sent to the graveyard. -/
theorem toGraveyard_robust (consistent : state.Consistent) (zone : Zone) (count : Nat) :
    ∀ change ∈ (((state.zones seat).cards zone).reverse.take count).map Change.toGraveyard,
      change.Robust state := by
  intro change member
  obtain ⟨card, listed, rfl⟩ := List.mem_map.mp member
  have held := List.mem_reverse.mp (List.mem_of_mem_take listed)
  exact ⟨rfl, (consistent.lists zone).knows held⟩

/-- A search asks only for cards that can go to the hand. -/
theorem planSearch_robust (consistent : state.Consistent) {filter : CardFilter} {count : Nat} :
    ∀ change ∈ state.planSearch filter count seat, change.Robust state := by
  intro change member
  rw [planSearch] at member
  split at member
  · simp at member
  · rcases List.mem_append.mp member with moved | shuffled
    · obtain ⟨card, listed, rfl⟩ := List.mem_map.mp moved
      have inDeck := List.mem_reverse.mp (List.mem_filter.mp (List.mem_of_mem_take listed)).1
      exact ⟨rfl, (consistent.lists .deck).knows inDeck⟩
    · obtain rfl := List.mem_singleton.mp shuffled
      trivial

/-- A discarded card can go to the graveyard. -/
theorem planDiscardCard_robust (planned : state.planDiscardCard card = .ok changes) :
    ∀ change ∈ changes, change.Robust state := by
  simp only [planDiscardCard, bind_eq_ok, requireCard_eq_ok] at planned
  obtain ⟨found, known, rest⟩ := planned
  split at rest
  · obtain rfl := pure_eq_ok.mp rest
    exact List.forall_mem_singleton.mpr ⟨rfl, knows_of_card? known⟩
  · exact (throw_eq_ok.mp rest).elim

/-- A move to a pile is always possible. -/
theorem planMove_robust {destination : Zone} (pile : destination.isField = false)
    (planned : state.planMove destination card = .ok changes) :
    ∀ change ∈ changes, change.Robust state := by
  simp only [planMove, bind_eq_ok, pure_eq_ok, requireCard_eq_ok] at planned
  obtain ⟨found, known, rfl⟩ := planned
  split
  · simp
  · exact List.forall_mem_singleton.mpr ⟨pile, knows_of_card? known⟩

/-- A modifier is always possible. -/
theorem planModifier_robust {source : InstanceId} {alteration : Alteration} {duration : Duration}
    (planned : state.planModifier source alteration duration card = .ok changes) :
    ∀ change ∈ changes, change.Robust state := by
  simp only [planModifier, bind_eq_ok, pure_eq_ok, guard_eq_ok] at planned
  obtain ⟨found, _, _, _, rfl⟩ := planned
  exact List.forall_mem_singleton.mpr trivial

/-- A negation is always possible. -/
theorem planNegation_robust {source : InstanceId}
    (planned : state.planNegation source card = .ok changes) :
    ∀ change ∈ changes, change.Robust state := by
  simp only [planNegation, bind_eq_ok, pure_eq_ok, guard_eq_ok] at planned
  obtain ⟨found, _, _, rfl⟩ := planned
  exact List.forall_mem_singleton.mpr trivial

/-- Each of several required cards exists. -/
theorem mapM_requireCard_knows {cards : List InstanceId} {required : List CardInstance}
    (given : cards.mapM state.requireCard = .ok required) : ∀ card ∈ cards, state.Knows card := by
  induction cards generalizing required with
  | nil => simp
  | cons card rest ih =>
    simp only [List.mapM_cons, bind_eq_ok, requireCard_eq_ok] at given
    obtain ⟨found, known, others, remaining, _⟩ := given
    exact List.forall_mem_cons.mpr ⟨knows_of_card? known, ih remaining⟩

/-- A return to the deck is always possible. -/
theorem planReturn_robust {placement : DeckPlacement} {cards : List InstanceId}
    (planned : state.planReturn placement cards = .ok changes) :
    ∀ change ∈ changes, change.Robust state := by
  simp only [planReturn, bind_eq_ok, pure_eq_ok] at planned
  obtain ⟨required, given, rfl⟩ := planned
  have moves : ∀ change ∈ cards.map fun card => Change.moveCard card .deck (deckPlace placement),
      change.Robust state :=
    List.forall_mem_map.mpr fun card member => ⟨rfl, mapM_requireCard_knows given card member⟩
  split
  · exact List.forall_mem_append.mpr ⟨moves, List.forall_mem_map.mpr fun owner _ => trivial⟩
  · exact moves

/-- A plan to destroy marks cards of the field. -/
theorem planDestruction_marks (planned : state.planDestruction card = .ok changes) :
    ∀ change ∈ changes, ∃ card cause found, change = .markDestroyed card cause ∧
      state.card? card = some found ∧ found.isOnField = true := by
  simp only [planDestruction, bind_eq_ok, pure_eq_ok, guard_eq_ok, requireCard_eq_ok] at planned
  obtain ⟨found, known, field, rfl⟩ := planned
  exact List.forall_mem_singleton.mpr ⟨card, .effect, found, rfl, known, by simpa using field⟩

/-- A numbered link that was found can be negated by its number. -/
theorem negateLink_ok (numbered : state.chain.Numbered) {place : Nat} {below : ChainLink}
    (given : state.chain.link? place = some below) :
    ∃ next, (Change.negateLink below.number).apply state = .ok next := by
  have there : below.number = place := by
    rw [Chain.link?] at given
    split at given
    · cases given
    · next positive =>
      have number := congrArg (fun numbers => numbers[place - 1]?) numbered
      obtain ⟨inside, stands⟩ := List.getElem?_eq_some_iff.mp given
      simp [inside, stands] at number
      omega
  rw [Change.apply, there, Chain.negate?, given]
  exact ⟨_, rfl⟩

def summonCount (state : GameState) (changes : List Change) (seat : Seat) : Nat :=
  changes.countP (state.summonsFor seat)

/--
This tells when a plan can be carried out on the table for which it was made: always, unless special summons
of one owner outnumber the empty monster places of this owner.
-/
structure Feasible (state : GameState) (instruction : Instruction) (changes : List Change) : Prop where
  certain : (∀ position, instruction ≠ .specialSummon position) →
    ∃ next, Change.applyAll changes state = .ok next
  fails_iff : (∃ violation, Change.applyAll changes state = .error violation) ↔
    ∃ seat, (state.zones seat).freeMonsterPlaces < state.summonCount changes seat
  reason : ∀ violation, Change.applyAll changes state = .error violation →
    ∃ seat, violation = .noFreeZone seat .monsters ∧
      (state.zones seat).freeMonsterPlaces < state.summonCount changes seat

/-- The draws of players that a selector found are possible. -/
theorem planDraws_ok {selector : Selector} {count : Nat} (consistent : state.Consistent)
    (given : state.resolve link selector = .ok resolved)
    (planned : state.plan link (.draw count) resolved = .ok changes) :
    ∃ next, Change.applyAll changes state = .ok next := by
  obtain ⟨seats, acted, made⟩ := bind_eq_ok.mp planned
  refine applyAll_draws (planDraws_draws consistent ?_ made)
  obtain ⟨_, distinct, rfl⟩ | ⟨_, rfl⟩ | ⟨_, _, rfl⟩ | ⟨_, rfl⟩ := resolve_cases given
  · rwa [← Except.ok.inj acted]
  · cases acted
  · cases acted
  · cases acted

/-- The discards of players and those of cards are possible. -/
theorem planDiscards_robust {count : Nat} (consistent : state.Consistent)
    (planned : state.plan link (.discard count) resolved = .ok changes) :
    ∀ change ∈ changes, change.Robust state := by
  simp only [plan] at planned
  split at planned
  · refine planEach_forall planned ?_
    intro seat _ own single
    simp only [planDiscard, bind_eq_ok, pure_eq_ok] at single
    obtain ⟨_, _, rfl⟩ := single
    exact toGraveyard_robust consistent .hand count
  · exact planCards_forall planned (fun _ _ _ _ => trivial) fun card own _ single =>
      planDiscardCard_robust single

/-- The negation of a link that a selector found is possible, and so is that of cards. -/
theorem planNegations_ok {selector : Selector} (consistent : state.Consistent)
    (numbered : state.chain.Numbered) (given : state.resolve link selector = .ok resolved)
    (planned : state.plan link .negate resolved = .ok changes) :
    ∃ next, Change.applyAll changes state = .ok next := by
  simp only [plan] at planned
  split at planned
  · obtain rfl := pure_eq_ok.mp planned
    obtain ⟨_, _, same⟩ | ⟨_, same⟩ | ⟨below, there, same⟩ | ⟨_, same⟩ := resolve_cases given
    · cases same
    · cases same
    · obtain ⟨next, made⟩ := negateLink_ok numbered there
      exact ⟨next, by rw [Change.applyAll_cons, (Resolved.link.inj same).1, made]; rfl⟩
    · cases same
  · exact applyAll_robust consistent
      (planCards_forall planned (fun _ _ _ _ => trivial) fun card own _ single =>
        planNegation_robust single)

/-- The negation of the attack is possible, as it is planned only for one that waits. -/
theorem planAttackNegation_ok (planned : state.plan link .negateAttack resolved = .ok changes) :
    ∃ next, Change.applyAll changes state = .ok next := by
  obtain ⟨attack, waits, made⟩ := bind_eq_ok.mp planned
  obtain rfl := pure_eq_ok.mp made
  rw [requireAttack] at waits
  split at waits
  · next attacked =>
    exact ⟨({ state with pendingAttack := none } : GameState).record (.attackNegated _),
      by rw [Change.applyAll_cons, Change.apply, attacked]; rfl⟩
  · cases waits

/-- Every plan but one for special summons can be carried out. -/
theorem plan_ok {selector : Selector} {instruction : Instruction} (consistent : state.Consistent)
    (numbered : state.chain.Numbered) (given : state.resolve link selector = .ok resolved)
    (planned : state.plan link instruction resolved = .ok changes)
    (other : ∀ position, instruction ≠ .specialSummon position) :
    ∃ next, Change.applyAll changes state = .ok next := by
  have any : ∀ cards, resolved.cards? = .ok cards → ∀ card ∈ cards, True := fun _ _ _ _ => trivial
  cases instruction with
  | specialSummon position => exact absurd rfl (other position)
  | draw count => exact planDraws_ok consistent given planned
  | mill count =>
    refine applyAll_robust consistent (planPlayers_forall planned ?_)
    intro seat own single
    simp only [planMill, bind_eq_ok, pure_eq_ok] at single
    obtain ⟨_, _, rfl⟩ := single
    exact toGraveyard_robust consistent .deck count
  | discard count => exact applyAll_robust consistent (planDiscards_robust consistent planned)
  | banish | sendToGraveyard | toHand =>
    exact applyAll_robust consistent
      (planCards_forall planned any fun card own _ single => planMove_robust rfl single)
  | search filter count =>
    obtain ⟨seats, _, made⟩ := bind_eq_ok.mp planned
    obtain rfl := pure_eq_ok.mp made
    apply applyAll_robust consistent
    intro change member
    obtain ⟨seat, _, searched⟩ := List.mem_flatMap.mp member
    exact planSearch_robust consistent change searched
  | returnToDeck placement =>
    obtain ⟨cards, _, made⟩ := bind_eq_ok.mp planned
    exact applyAll_robust consistent (planReturn_robust made)
  | damage amount | gainLife amount =>
    obtain ⟨seats, _, made⟩ := bind_eq_ok.mp planned
    obtain rfl := pure_eq_ok.mp made
    exact applyAll_robust consistent (List.forall_mem_map.mpr fun seat _ => trivial)
  | modifyStat stat amount lasts | setStat stat value lasts =>
    exact applyAll_robust consistent
      (planCards_forall planned any fun card own _ single => planModifier_robust single)
  | destroy =>
    exact applyAll_marks
      (planCards_forall planned any fun card own _ single => planDestruction_marks single)
  | negate => exact planNegations_ok consistent numbered given planned
  | negateAttack => exact planAttackNegation_ok planned

/-- A plan that was made for what a selector found is feasible. -/
theorem plan_feasible {selector : Selector} {instruction : Instruction} (consistent : state.Consistent)
    (numbered : state.chain.Numbered) (given : state.resolve link selector = .ok resolved)
    (planned : state.plan link instruction resolved = .ok changes) :
    Feasible state instruction changes := by
  have outcome : (∃ next, Change.applyAll changes state = .ok next ∧
      ∀ seat, state.summonCount changes seat ≤ (state.zones seat).freeMonsterPlaces) ∨
      ∃ seat, Change.applyAll changes state = .error (.noFreeZone seat .monsters) ∧
        (state.zones seat).freeMonsterPlaces < state.summonCount changes seat := by
    by_cases summons : ∃ position, instruction = .specialSummon position
    · obtain ⟨position, rfl⟩ := summons
      obtain ⟨cards, acted, made⟩ := bind_eq_ok.mp planned
      obtain ⟨kept, sublist, monsters, rfl⟩ := planSummons_eq_ok made
      have distinct := sublist.nodup (resolve_nodup given acted consistent.numbered)
      exact applyAll_summons consistent distinct monsters _ .special
    · have other (position : SummonPosition) : instruction ≠ .specialSummon position :=
        fun same => summons ⟨position, same⟩
      obtain ⟨next, made⟩ := plan_ok consistent numbered given planned other
      have none (seat : Seat) : state.summonCount changes seat = 0 := by
        apply List.countP_eq_zero.mpr
        intro change member
        have plain := plan_isSummon planned other change member
        cases change <;> simp_all [Change.isSummon, summonsFor]
      exact .inl ⟨next, made, fun seat => by rw [none]; exact Nat.zero_le _⟩
  refine ⟨plan_ok consistent numbered given planned, ?_, ?_⟩
  · rcases outcome with ⟨next, made, enough⟩ | ⟨seat, refused, short⟩
    · constructor
      · rintro ⟨violation, refused⟩
        rw [made] at refused
        cases refused
      · rintro ⟨seat, short⟩
        exact absurd short (Nat.not_lt.mpr (enough seat))
    · exact ⟨fun _ => ⟨seat, short⟩, fun _ => ⟨_, refused⟩⟩
  · intro violation refused
    rcases outcome with ⟨next, made, _⟩ | ⟨seat, known, short⟩
    · rw [made] at refused
      cases refused
    · rw [known] at refused
      exact ⟨seat, (Except.error.inj refused).symm, short⟩

end GameState

namespace DuelSetup

open GameState

/-- This is the duel of the sentries with one monster place for each player. -/
def narrow : DuelSetup :=
  { sentries with rules := ⟨sentries.rules.catalog, { DuelConfig.standard with monsterZones := 1 }⟩ }

/-- This is an effect of a sentry for all monsters in the deck of its controller. -/
def call : ChainLink := ⟨1, ⟨0⟩, 0, ⟨1⟩, 0, .first, .one, [], false⟩

/-- Two sentries that are called to one place do not find room, which is known before the first is there. -/
theorem narrow_feasible :
    let deck := { CardFilter.fieldMonsters .controller with scope := .zone .deck }
    let summons := [⟨0⟩, ⟨1⟩].map fun card => Change.summon card .faceUpAttack .special
    narrow.withDecks.resolve call (.all deck) = .ok (.cards [⟨0⟩, ⟨1⟩]) ∧
      narrow.withDecks.plan call (.specialSummon .attack) (.cards [⟨0⟩, ⟨1⟩]) = .ok summons ∧
      Feasible narrow.withDecks (.specialSummon .attack) summons ∧
      Change.applyAll summons narrow.withDecks = .error (.noFreeZone .first .monsters) := by
  have fits : narrow.Fits := by
    show 2 + 2 < UInt32.size
    decide
  have found : narrow.withDecks.resolve call
      (.all { CardFilter.fieldMonsters .controller with scope := .zone .deck }) =
        .ok (.cards [⟨0⟩, ⟨1⟩]) := rfl
  exact ⟨found, rfl, plan_feasible (withDecks_agrees fits).consistent rfl found rfl, rfl⟩

end DuelSetup

end CardDuel
