/-
This file follows the sweep. It may be repeated in rounds until no card of the field is marked, but one round
takes every marked card to the graveyard and tells of it, and a second sweep changes nothing.
-/

import CardDuel.Proofs.Continuous.Fresh
import CardDuel.Proofs.Continuous.Purity
import CardDuel.Proofs.Flow.Marks

namespace CardDuel

namespace CardInstance

/-- This is the mark for which a sweep destroys a card; it counts on the field only. -/
def mark? (card : CardInstance) : Option Destruction :=
  if card.isOnField then card.destruction else none

/-- This is what the destruction of marked cards makes of a card. -/
def razed (card : CardInstance) : CardInstance :=
  if card.mark?.isSome then card.relocate .graveyard none .faceUp else card

/-- This is what is told of the destruction of a card. -/
def obituary (card : CardInstance) : List GameEvent :=
  card.mark?.toList.flatMap fun cause =>
    [.cardMoved card.id card.zone .graveyard, .destroyed card.id (cause = .battle)]

/-- This tells where a card is, how it lies there and how often it has moved. -/
def whereabouts (card : CardInstance) : Zone × Option Nat × Position × UInt32 :=
  (card.zone, card.slot, card.position, card.moves)

variable {card : CardInstance}

theorem razed_of_unmarked (unmarked : card.mark? = none) : card.razed = card := by
  rw [razed, unmarked]
  rfl

/-- A card that was destroyed is not marked any more. -/
theorem mark?_razed (card : CardInstance) : card.razed.mark? = none := by
  rw [razed]
  split
  · rfl
  · next unmarked => simpa using unmarked

/-- A card that was razed is not razed again. -/
theorem razed_razed (card : CardInstance) : card.razed.razed = card.razed :=
  razed_of_unmarked card.mark?_razed

/-- What lasting changes have made of a card does not matter for its destruction. -/
theorem bare_razed (card : CardInstance) : card.bare.razed.bare = card.razed.bare := by
  rw [razed, razed, show card.bare.mark? = card.mark? from rfl]
  split
  · rfl
  · rfl

theorem map_razed_of_unmarked {cards : List CardInstance}
    (unmarked : ∀ card ∈ cards, card.mark? = none) : cards.map razed = cards :=
  (List.map_congr_left fun card member => razed_of_unmarked (unmarked card member)).trans
    (List.map_id cards)

/-- There is an obituary exactly for a card with a mark. -/
theorem obituary_eq_nil_iff : card.obituary = [] ↔ card.mark? = none := by
  rw [obituary]
  cases card.mark? <;> simp

/-- There are obituaries exactly if some card has a mark. -/
theorem flatMap_obituary_eq_nil_iff {cards : List CardInstance} :
    cards.flatMap obituary = [] ↔ ∀ card ∈ cards, card.mark? = none := by
  simp only [List.flatMap_eq_nil_iff, obituary_eq_nil_iff]

end CardInstance

namespace GameState

variable {state : GameState} {catalog : Catalog}

/-! Destruction -/

/-- The marks are named by the numbers of the cards and come in the order of the table. -/
theorem marked_eq (state : GameState) :
    state.marked = state.cards.filterMap fun card => card.mark?.map (card.id, ·) := by
  rw [marked]
  refine congrArg (List.filterMap · state.cards) (funext ?_)
  intro card
  rw [CardInstance.mark?]
  split
  · rfl
  · rfl

/-- No card is marked exactly if there is no entry. -/
theorem marked_eq_nil_iff : state.marked = [] ↔ ∀ card ∈ state.cards, card.mark? = none := by
  rw [marked_eq, List.filterMap_eq_nil_iff]
  simp

/-- The first marked card is destroyed, and all others stay as they are. -/
theorem destroyMarked_first (consistent : state.Consistent) {entry : InstanceId × Destruction}
    {rest : List (InstanceId × Destruction)} (given : state.marked = entry :: rest) :
    ∃ early card late, state.cards = early ++ card :: late ∧
      (∀ other ∈ early, other.mark? = none) ∧
      (state.destroyMarked entry).cards = early ++ card.razed :: late ∧
      (late.filterMap fun card => card.mark?.map (card.id, ·)) = rest ∧
      Logs state card.obituary (state.destroyMarked entry) := by
  rw [marked_eq, List.filterMap_eq_cons_iff] at given
  obtain ⟨early, card, late, table, before, here, after⟩ := given
  obtain ⟨cause, mark, rfl⟩ := Option.map_eq_some_iff.mp here
  have place : state.cards[early.length]? = some card := by simp [table]
  have index : card.id.index = early.length := consistent.numbered _ _ place
  have known : state.card? card.id = some card := by rwa [card?, index]
  have pile : (state.zones card.owner).HasRoom .graveyard := fun field => by cases field
  obtain ⟨next, moved⟩ : ∃ next, state.relocate card.id .graveyard .top .faceUp =
      .ok (card.zone, next) := relocate_ok known ((consistent.lists _).present known) pile
  have destroyed : state.destroyMarked (card.id, cause) = next.recordAll card.obituary := by
    rw [destroyMarked, moved, CardInstance.obituary, mark]
    rfl
  obtain ⟨log, turn⟩ := log_relocate moved
  obtain ⟨found, remaining, present, _, _, _, rfl⟩ := relocate_cases moved
  obtain rfl := Option.some.inj (known.symm.trans present)
  refine ⟨early, card, late, table, by simpa using before, ?_, after, ?_⟩
  · rw [destroyed, cards_recordAll, arrived, modifyCard, cards_setZones, table, index,
      CardInstance.razed, mark]
    simp [List.modify_eq_take_drop, Zone.isField]
  · rw [destroyed]
    refine .recordAll log turn ?_
    intro event member
    rw [CardInstance.obituary, mark] at member
    have told : event = .cardMoved card.id card.zone .graveyard ∨
        event = .destroyed card.id (cause = .battle) := by simpa using member
    rcases told with rfl | rfl
    · rfl
    · rfl

/-- After the first marked card was destroyed, the others are still marked. -/
theorem marked_destroyMarked (consistent : state.Consistent) {entry : InstanceId × Destruction}
    {rest : List (InstanceId × Destruction)} (given : state.marked = entry :: rest) :
    (state.destroyMarked entry).marked = rest := by
  obtain ⟨early, card, late, _, unmarked, cards, others, _⟩ := destroyMarked_first consistent given
  have none : (early.filterMap fun card => card.mark?.map (card.id, ·)) = [] :=
    List.filterMap_eq_nil_iff.mpr fun other member => by rw [unmarked other member]; rfl
  rw [marked_eq, cards, List.filterMap_append, none, List.filterMap_cons, card.mark?_razed]
  exact others

/-- This tells that all marked cards were destroyed, each of them with its obituary. -/
structure Razed (before after : GameState) : Prop where
  cards : after.cards = before.cards.map CardInstance.razed
  logs : Logs before (before.cards.flatMap CardInstance.obituary) after

/-- The destruction of the marked cards destroys all of them in the order of the table, and nothing else. -/
theorem foldl_destroyMarked_razed {entries : List (InstanceId × Destruction)}
    (consistent : state.Consistent) (given : state.marked = entries) :
    Razed state (entries.foldl destroyMarked state) := by
  induction entries generalizing state with
  | nil =>
    have unmarked := marked_eq_nil_iff.mp given
    refine ⟨(CardInstance.map_razed_of_unmarked unmarked).symm, ?_⟩
    rw [CardInstance.flatMap_obituary_eq_nil_iff.mpr unmarked]
    exact .nothing rfl rfl
  | cons entry rest ih =>
    obtain ⟨early, card, late, table, unmarked, cards, others, logs⟩ :=
      destroyMarked_first consistent given
    have silent : early.flatMap CardInstance.obituary = [] :=
      CardInstance.flatMap_obituary_eq_nil_iff.mpr unmarked
    have mute : card.razed.obituary = [] := CardInstance.obituary_eq_nil_iff.mpr card.mark?_razed
    have left := marked_destroyMarked consistent given
    have shifts := state.destroyMarked_shifts entry
    obtain ⟨later, told⟩ := ih (shifts.consistent consistent) left
    refine ⟨?_, ?_⟩
    · rw [List.foldl_cons, later, cards, table, List.map_append, List.map_cons, List.map_append,
        List.map_cons, card.razed_razed]
    · have whole := logs.trans told
      rw [cards, List.flatMap_append, List.flatMap_cons, silent, mute] at whole
      rw [table, List.flatMap_append, List.flatMap_cons, silent]
      exact whole

/-! Rounds -/

/--
This is a sweep in rounds. Lasting changes are recomputed and marked cards are destroyed until no card of
the field is marked; then the players who have lost are looked for.
-/
inductive Sweeps (catalog : Catalog) : GameState → GameState → Prop where
  | settled {state : GameState} (clean : (state.refresh catalog).marked = []) :
      Sweeps catalog state (state.refresh catalog).checkLoss
  | round {state last : GameState} (marks : (state.refresh catalog).marked ≠ [])
      (rest : Sweeps catalog (state.razedRound catalog) last) : Sweeps catalog state last

/-- What a refresh leaves alone in a card is read off it as before. -/
theorem map_cards_refresh {α : Type} {read : CardInstance → α}
    (same : ∀ card, read card.bare = read card) (state : GameState) (catalog : Catalog) :
    (state.refresh catalog).cards.map read = state.cards.map read := by
  have cards := congrArg (List.map read) (state.sameBoard_refresh catalog).cards
  rw [List.map_map, List.map_map, show read ∘ CardInstance.bare = read from funext same] at cards
  exact cards

/-- A refresh changes no mark. -/
theorem marked_refresh (state : GameState) (catalog : Catalog) :
    (state.refresh catalog).marked = state.marked := by
  have entries (state : GameState) : state.marked =
      (state.cards.map fun card => card.mark?.map (card.id, ·)).filterMap id := by
    rw [marked_eq, List.filterMap_map]
    rfl
  rw [entries, entries, map_cards_refresh fun _ => rfl]

/-- A refresh changes no obituary. -/
theorem obituaries_refresh (state : GameState) (catalog : Catalog) :
    (state.refresh catalog).cards.flatMap CardInstance.obituary =
      state.cards.flatMap CardInstance.obituary := by
  rw [List.flatMap_def, List.flatMap_def, map_cards_refresh fun _ => rfl]

theorem Logs.refresh (state : GameState) (catalog : Catalog) :
    Logs state [] (state.refresh catalog) := .nothing rfl rfl

/-- A look for losers changes nothing, or it ends the duel and tells so. -/
theorem checkLoss_cases (state : GameState) : state.checkLoss = state ∨
    state.outcome = none ∧ ∃ result, state.checkLoss =
      ({ state with outcome := some result } : GameState).record (.gameEnded result) := by
  rw [checkLoss]
  cases resultFor? state.losers with
  | none => exact .inl rfl
  | some result =>
    dsimp only
    rw [endDuel]
    cases ended : state.outcome with
    | none => exact .inr ⟨rfl, result, rfl⟩
    | some earlier => exact .inl rfl

/-- A check for a loss tells of the end if it ends the duel. -/
theorem checkLoss_logs (state : GameState) : Logs state
    (if state.outcome = none then state.checkLoss.outcome.toList.map .gameEnded else [])
      state.checkLoss := by
  rcases state.checkLoss_cases with same | ⟨running, result, same⟩
  · rw [same]
    split
    · next running =>
      rw [running]
      exact .nothing rfl rfl
    · exact .nothing rfl rfl
  · rw [same, if_pos running]
    exact .record rfl rfl rfl

/-! Marks that stay -/

/-- This is what a sweep notes of the card at a place, if it is marked: its number and why it is destroyed. -/
def entryAt? (state : GameState) (place : Nat) : Option (InstanceId × Destruction) :=
  state.cards[place]?.bind fun card => card.mark?.map (card.id, ·)

/-- This tells that the card at a place is marked, but no marked card has the number of that place. -/
def Stuck (state : GameState) (place : Nat) : Prop :=
  (state.entryAt? place).isSome = true ∧ ∀ entry ∈ state.marked, entry.1.index ≠ place

instance (state : GameState) (place : Nat) : Decidable (state.Stuck place) :=
  inferInstanceAs (Decidable (_ ∧ _))

/-- This tells that a round of a sweep clears every mark. -/
def Clearable (state : GameState) : Prop := ∀ place, ¬ state.Stuck place

/-- The entries are those at the places of the table. -/
theorem mem_marked_iff {entry : InstanceId × Destruction} :
    entry ∈ state.marked ↔ ∃ place, state.entryAt? place = some entry := by
  rw [marked_eq, List.mem_filterMap]
  constructor
  · rintro ⟨card, member, noted⟩
    obtain ⟨place, there⟩ := List.mem_iff_getElem?.mp member
    exact ⟨place, by rw [entryAt?, there, Option.bind_some, noted]⟩
  · rintro ⟨place, noted⟩
    obtain ⟨card, there, noted⟩ := Option.bind_eq_some_iff.mp noted
    exact ⟨card, List.mem_of_getElem? there, noted⟩

theorem entryAt?_refresh (state : GameState) (catalog : Catalog) (place : Nat) :
    (state.refresh catalog).entryAt? place = state.entryAt? place := by
  have entries (state : GameState) : state.entryAt? place =
      (state.cards.map fun card => card.mark?.map (card.id, ·))[place]?.join := by
    rw [entryAt?, List.getElem?_map]
    cases state.cards[place]?
    · rfl
    · rfl
  rw [entries, entries, map_cards_refresh fun _ => rfl]

/-- A destruction takes the mark off the place that the number of the card names, and off no other place. -/
theorem entryAt?_destroyMarked (state : GameState) (entry : InstanceId × Destruction) (place : Nat) :
    (state.destroyMarked entry).entryAt? place =
      if entry.1.index = place then none else state.entryAt? place := by
  split
  · next named =>
    rw [entryAt?, Option.bind_eq_none_iff]
    intro card there
    rcases of_destroyMarked there with clean | ⟨away, _⟩
    · simp [CardInstance.mark?, clean]
    · exact absurd named.symm away
  · next away =>
    rw [entryAt?, entryAt?, getElem?_destroyMarked_of_ne (Ne.symm away)]

/-- The destruction of entries takes away exactly the entries at the places that they name. -/
theorem entryAt?_foldl_destroyMarked (entries : List (InstanceId × Destruction)) (state : GameState)
    (place : Nat) : (entries.foldl destroyMarked state).entryAt? place =
      if ∃ entry ∈ entries, entry.1.index = place then none else state.entryAt? place := by
  induction entries generalizing state with
  | nil => simp
  | cons entry rest ih =>
    rw [List.foldl_cons, ih, entryAt?_destroyMarked]
    by_cases first : entry.1.index = place
    · simp [first]
    · simp only [List.mem_cons, or_and_right, exists_or, exists_eq_left, first, false_or, if_false]

/-- A round of destruction takes away exactly the entries at the places that some mark names. -/
theorem entryAt?_razedRound (state : GameState) (catalog : Catalog) (place : Nat) :
    (state.razedRound catalog).entryAt? place =
      if ∃ entry ∈ state.marked, entry.1.index = place then none else state.entryAt? place := by
  rw [razedRound, entryAt?_foldl_destroyMarked, marked_refresh, entryAt?_refresh]

/-- A round makes no new marks. -/
theorem marked_razedRound_subset {entry : InstanceId × Destruction}
    (member : entry ∈ (state.razedRound catalog).marked) : entry ∈ state.marked := by
  obtain ⟨place, noted⟩ := mem_marked_iff.mp member
  rw [entryAt?_razedRound] at noted
  split at noted
  · cases noted
  · exact mem_marked_iff.mpr ⟨place, noted⟩

/-- A mark that nothing names stays in every round. -/
theorem Stuck.razedRound {place : Nat} (stuck : state.Stuck place) (catalog : Catalog) :
    (state.razedRound catalog).Stuck place := by
  obtain ⟨noted, unnamed⟩ := stuck
  refine ⟨?_, fun entry member => unnamed entry (marked_razedRound_subset member)⟩
  rw [entryAt?_razedRound, if_neg]
  · exact noted
  · rintro ⟨entry, member, named⟩
    exact unnamed entry member named

/-- A mark that is left after a round was stuck before it. -/
theorem marked_razedRound (clearable : state.Clearable) (catalog : Catalog) :
    (state.razedRound catalog).marked = [] := by
  rw [List.eq_nil_iff_forall_not_mem]
  intro entry member
  obtain ⟨place, noted⟩ := mem_marked_iff.mp member
  rw [entryAt?_razedRound] at noted
  split at noted
  · cases noted
  · next unnamed =>
    refine clearable place ⟨by rw [noted, Option.isSome_some], ?_⟩
    intro other listed named
    exact unnamed ⟨other, listed, named⟩

/-- A sweep in rounds ends only if no mark is stuck. -/
theorem Sweeps.clearable {last : GameState} (sweeps : Sweeps catalog state last) : state.Clearable := by
  intro place stuck
  induction sweeps with
  | @settled state clean =>
    obtain ⟨entry, noted⟩ := Option.isSome_iff_exists.mp stuck.1
    have member : entry ∈ state.marked := mem_marked_iff.mpr ⟨place, noted⟩
    rw [← marked_refresh state catalog, clean] at member
    cases member
  | round _ _ ih => exact ih (stuck.razedRound catalog)

/-- The marks of numbered cards name their own places. -/
theorem Numbered.clearable (numbered : state.Numbered) : state.Clearable := by
  rintro place ⟨noted, unnamed⟩
  obtain ⟨entry, noted⟩ := Option.isSome_iff_exists.mp noted
  have member : entry ∈ state.marked := mem_marked_iff.mpr ⟨place, noted⟩
  obtain ⟨card, there, marked⟩ := Option.bind_eq_some_iff.mp noted
  obtain ⟨cause, _, rfl⟩ := Option.map_eq_some_iff.mp marked
  exact unnamed _ member (numbered place card there)

/-- Where no mark is stuck, the destruction of the marked cards takes one round. -/
theorem destroyAllMarked_eq (clearable : state.Clearable) (catalog : Catalog) :
    state.destroyAllMarked catalog = (state.razedRound catalog).refresh catalog := by
  by_cases clean : (state.refresh catalog).marked = []
  · rw [destroyAllMarked_of_unmarked clean, razedRound, clean]
    exact (state.refresh_refresh catalog).symm
  · exact destroyAllMarked_of_round clean
      ((marked_refresh _ catalog).trans (marked_razedRound clearable catalog))

/-- A sweep in rounds comes to an end exactly if no mark is stuck, and then it comes to one end only. -/
theorem sweeps_iff {last : GameState} :
    Sweeps catalog state last ↔ state.Clearable ∧ last = state.sweep catalog := by
  constructor
  · intro sweeps
    have clearable := sweeps.clearable
    refine ⟨clearable, ?_⟩
    have done := (marked_refresh _ catalog).trans (marked_razedRound clearable catalog)
    rw [sweep, destroyAllMarked_eq clearable]
    cases sweeps with
    | settled clean => rw [razedRound, clean, List.foldl_nil, refresh_refresh]
    | round marks rest =>
      cases rest with
      | settled clean => rfl
      | round marks rest => exact absurd done marks
  · rintro ⟨clearable, rfl⟩
    have done := (marked_refresh _ catalog).trans (marked_razedRound clearable catalog)
    rw [sweep, destroyAllMarked_eq clearable]
    by_cases clean : (state.refresh catalog).marked = []
    · rw [razedRound, clean, List.foldl_nil, refresh_refresh]
      exact .settled clean
    · exact .round clean (.settled done)

section Consistent

variable (consistent : state.Consistent) (catalog : Catalog)

include consistent

/-- A round of destruction razes the marked cards of a consistent state. -/
theorem razedRound_razed : Razed (state.refresh catalog) (state.razedRound catalog) :=
  foldl_destroyMarked_razed ((Shifts.of_still (.refresh state catalog)).consistent consistent) rfl

omit catalog in
/-- In a consistent state every mark is named by the number of its card and goes. -/
theorem Consistent.clearable : state.Clearable := consistent.numbered.clearable

/-- A sweep leaves the cards as they are when all marked ones were destroyed. -/
theorem bare_sweep : (state.sweep catalog).cards.map CardInstance.bare =
    state.cards.map fun card => card.razed.bare := by
  rw [sweep, cards_checkLoss, destroyAllMarked_eq consistent.clearable, map_cards_refresh (fun _ => rfl),
    (razedRound_razed consistent catalog).cards, List.map_map]
  exact map_cards_refresh CardInstance.bare_razed state catalog

/-- A card after a sweep is the card before it, or it was destroyed. -/
theorem card?_sweep {card : InstanceId} {old : CardInstance} (known : state.card? card = some old) :
    ∃ new, (state.sweep catalog).card? card = some new ∧ new.bare = old.razed.bare := by
  have bare := congrArg (fun cards => cards[card.index]?) (bare_sweep consistent catalog)
  rw [List.getElem?_map, List.getElem?_map, show state.cards[card.index]? = some old from known] at bare
  exact Option.map_eq_some_iff.mp bare

/-- After a sweep of a consistent state no card is marked. -/
theorem marked_sweep : (state.sweep catalog).marked = [] := by
  have same : (state.sweep catalog).marked = (state.destroyAllMarked catalog).marked := by
    rw [marked_eq, marked_eq, sweep, cards_checkLoss]
  rw [same, destroyAllMarked_eq consistent.clearable, marked_refresh]
  exact marked_razedRound consistent.clearable catalog

/-- A sweep tells of the destroyed cards, and at last of the end of the duel if it ends. -/
theorem sweep_logs : Logs state (state.cards.flatMap CardInstance.obituary ++
    if state.outcome = none then (state.sweep catalog).outcome.toList.map .gameEnded else [])
      (state.sweep catalog) := by
  have fresh : Logs state [] (state.refresh catalog) := .refresh state catalog
  have razed := (razedRound_razed consistent catalog).logs
  rw [obituaries_refresh] at razed
  have destroyed := (fresh.trans razed).trans (.refresh (state.razedRound catalog) catalog)
  rw [List.nil_append, List.append_nil, ← destroyAllMarked_eq consistent.clearable] at destroyed
  have judged := checkLoss_logs (state.destroyAllMarked catalog)
  rw [(state.destroyAllMarked_edits catalog).frame.outcome] at judged
  exact destroyed.trans judged

end Consistent

/-! Second sweeps -/

/-- A state that differs from a refreshed one in nothing that is refreshed or read is refreshed, too. -/
theorem refresh_eq_self {before after : GameState} (steady : before.refresh catalog = before)
    (cards : after.cards = before.cards) (players : after.players = before.players)
    (phase : after.phase = before.phase) (granted : after.granted = before.granted)
    (active : after.active = before.active) : after.refresh catalog = after := by
  have live : after.liveGranted = before.liveGranted := by
    rw [liveGranted, liveGranted, granted]
    exact List.filter_congr fun modifier _ => isLive_congr (by rw [cards]) modifier
  have results : after.recompute catalog = before.recompute catalog :=
    SameBoard.recompute ⟨by rw [cards], players, phase, live⟩ catalog
  have bare : after.cards.map CardInstance.bare = before.cards.map CardInstance.bare := by rw [cards]
  have stored : (after.refresh catalog).cards = after.cards := by
    show (after.withResults (after.recompute catalog).stats (after.recompute catalog).negated).cards = _
    rw [results, withResults_congr bare, cards]
    exact (congrArg GameState.cards steady :)
  have kept : after.liveGranted = after.granted :=
    live.trans ((congrArg GameState.granted steady).trans granted.symm)
  have counting : (after.recompute catalog).modifiers = after.active := by
    rw [results, active]
    exact congrArg GameState.active steady
  show ({ after with
    cards := (after.refresh catalog).cards
    granted := after.liveGranted
    active := (after.recompute catalog).modifiers } : GameState) = after
  rw [stored, kept, counting]

theorem checkLoss_checkLoss (state : GameState) : state.checkLoss.checkLoss = state.checkLoss := by
  rcases state.checkLoss_cases with same | ⟨_, result, same⟩
  · rw [same, same]
  · rcases state.checkLoss.checkLoss_cases with sameToo | ⟨running, _⟩
    · exact sameToo
    · rw [same] at running
      cases running

/-- A second sweep changes nothing. -/
theorem sweep_sweep (consistent : state.Consistent) (catalog : Catalog) :
    (state.sweep catalog).sweep catalog = state.sweep catalog := by
  have steady : (state.destroyAllMarked catalog).refresh catalog = state.destroyAllMarked catalog := by
    rw [destroyAllMarked_eq consistent.clearable, refresh_refresh]
  have fresh : (state.sweep catalog).refresh catalog = state.sweep catalog := by
    rw [sweep]
    rcases (state.destroyAllMarked catalog).checkLoss_cases with same | ⟨_, result, same⟩
    · rw [same, steady]
    · rw [same]
      exact refresh_eq_self steady rfl rfl rfl rfl rfl
  have clean : (state.sweep catalog).marked = [] := marked_sweep consistent catalog
  have idle : (state.sweep catalog).destroyAllMarked catalog = state.sweep catalog := by
    rw [destroyAllMarked_of_unmarked ((marked_refresh _ catalog).trans clean), fresh]
  rw [sweep, idle]
  exact checkLoss_checkLoss _

/--
This tells that a sweep has cleared the field: the marked cards are in the graveyard, which is told card by
card in the order of their numbers, all others are where they were, and the duel is over if a player has lost.
-/
structure Clears (catalog : Catalog) (before after : GameState) : Prop where
  /-- The rounds of the sweep come to an end, and always to this one. -/
  ends : ∀ last, Sweeps catalog before last ↔ last = after
  buried : ∀ (card : InstanceId) (old : CardInstance), before.card? card = some old →
    old.isOnField = true → old.destruction.isSome = true → ∃ new, after.card? card = some new ∧
      new.identity = old.identity ∧ new.zone = .graveyard ∧ new.slot = none ∧
      new.moves = old.moves + 1 ∧ card ∈ (after.zones old.owner).graveyard
  kept : ∀ (card : InstanceId) (old : CardInstance), before.card? card = some old →
    ¬(old.isOnField = true ∧ old.destruction.isSome = true) → ∃ new, after.card? card = some new ∧
      new.identity = old.identity ∧ new.whereabouts = old.whereabouts
  ordered : (before.cards.map fun card => card.id.index) = List.range before.cards.length
  log : after.log = (before.recordAll (before.cards.flatMap CardInstance.obituary ++
    if before.outcome = none then after.outcome.toList.map .gameEnded else [])).log
  unmarked : ∀ found ∈ after.cards, found.isOnField = true → found.destruction = none
  fresh : after.Fresh catalog
  outcome : before.outcome = none → (after.outcome.isSome = true ↔
    ∃ seat, (after.player seat).life = 0 ∨ (after.player seat).deckOut = true)
  again : after.sweep catalog = after

/-- In a consistent state a sweep clears the field. -/
theorem sweep_clears (consistent : state.Consistent) (catalog : Catalog) :
    Clears catalog state (state.sweep catalog) where
  ends := fun last => sweeps_iff.trans (and_iff_right consistent.clearable)
  buried := by
    intro card old known field marks
    obtain ⟨new, there, bare⟩ := card?_sweep consistent catalog known
    have goes : old.razed = old.relocate .graveyard none .faceUp := by
      rw [CardInstance.razed, CardInstance.mark?, if_pos field, if_pos marks]
    rw [goes] at bare
    have zone : new.zone = .graveyard := congrArg CardInstance.zone bare
    have identity : new.identity = old.identity :=
      (congrArg CardInstance.identity bare).trans (old.identity_relocate ..)
    have listed := (((state.sweep_shifts catalog).consistent consistent).lists .graveyard).listed
    refine ⟨new, there, identity, zone, congrArg CardInstance.slot bare,
      congrArg CardInstance.moves bare, (listed old.owner card).mpr ⟨new, there, ?_, zone⟩⟩
    exact congrArg CardIdentity.owner identity
  kept := by
    intro card old known spared
    obtain ⟨new, there, bare⟩ := card?_sweep consistent catalog known
    have stays : old.razed = old := by
      refine CardInstance.razed_of_unmarked ?_
      rw [CardInstance.mark?]
      split
      · next field => simpa [field] using spared
      · rfl
    rw [stays] at bare
    exact ⟨new, there, (congrArg CardInstance.identity bare :),
      (congrArg CardInstance.whereabouts bare :)⟩
  ordered := consistent.numbered.indices
  log := (sweep_logs consistent catalog).log
  unmarked := by
    intro found member field
    have clean := marked_eq_nil_iff.mp (marked_sweep consistent catalog) found member
    rwa [CardInstance.mark?, if_pos field] at clean
  fresh := state.sweep_fresh catalog
  outcome := by
    intro running
    have judged : (state.sweep catalog).outcome = resultFor? (state.sweep catalog).losers := by
      rw [sweep_outcome, running, Option.none_or, sweep, (SameLife.checkLoss _).losers]
    rw [judged, Option.isSome_iff_ne_none, ne_eq, resultFor?_eq_none_iff,
      List.eq_nil_iff_forall_not_mem, not_forall_not]
    simp only [mem_losers]
  again := sweep_sweep consistent catalog

/-- This is a table on which both players have a marked sentry and the first player has no life points. -/
def wreckage : GameState :=
  Change.applyPossible [.summon ⟨0⟩ .faceUpAttack .normal, .summon ⟨3⟩ .faceUpAttack .normal,
    .markDestroyed ⟨3⟩ .effect, .markDestroyed ⟨0⟩ .battle, .payLife .first 8000]
    DuelSetup.sentries.withDecks

/-- A sweep clears the wreckage in the order of the card numbers, and then the second player has won. -/
theorem wreckage_cleared : wreckage.Consistent ∧
    Clears DuelSetup.sentries.rules.catalog wreckage
      (wreckage.sweep DuelSetup.sentries.rules.catalog) ∧
    ((wreckage.sweep DuelSetup.sentries.rules.catalog).log.drop wreckage.log.length).map
        LoggedEvent.event =
      [.cardMoved ⟨0⟩ .monsters .graveyard, .destroyed ⟨0⟩ true,
        .cardMoved ⟨3⟩ .monsters .graveyard, .destroyed ⟨3⟩ false,
        .gameEnded (.winner .second)] := by
  have fits : DuelSetup.sentries.Fits := by
    show 2 + 2 < UInt32.size
    decide
  have consistent : wreckage.Consistent :=
    (Change.applyPossible_edits _ _).shifts.consistent (DuelSetup.withDecks_agrees fits).consistent
  exact ⟨consistent, sweep_clears consistent DuelSetup.sentries.rules.catalog, by decide⟩

end GameState

end CardDuel
