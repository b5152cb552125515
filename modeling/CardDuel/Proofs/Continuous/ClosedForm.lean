/-
This file gives the results of lasting changes in closed form: which modifiers count, which cards they
negate, and what they make of every stat. The order of layers, the passes over the table and the board
between the granted modifiers and those of abilities do not occur in it.
-/

import CardDuel.Proofs.Continuous.Recompute

namespace CardDuel

/-! Single modifiers -/

namespace Modifier

/-- This tells that a modifier negates a card. -/
def Negates (modifier : Modifier) (card : InstanceId) : Prop :=
  modifier.target = card ∧ modifier.alteration = .negate

instance (modifier : Modifier) (card : InstanceId) : Decidable (modifier.Negates card) :=
  inferInstanceAs (Decidable (_ ∧ _))

def override? (card : InstanceId) (stat : Stat) (modifier : Modifier) : Option UInt32 :=
  match modifier.alteration with
  | .override changed value => if modifier.target = card ∧ changed = stat then some value else none
  | _ => none

def delta? (card : InstanceId) (stat : Stat) (modifier : Modifier) : Option Int32 :=
  match modifier.alteration with
  | .delta changed amount => if modifier.target = card ∧ changed = stat then some amount else none
  | _ => none

end Modifier

/-! Values of stats -/

namespace StatLine

/-- This is the sum of a value and a change, held between zero and the largest word. -/
def clampedSum (value : UInt32) (delta : Int32) : UInt32 :=
  let sum := (value.toNat : Int) + delta.toInt
  if sum < 0 then 0 else if sum < 4294967296 then UInt32.ofNat sum.toNat else 4294967295

theorem shift_eq_clampedSum (value : UInt32) (delta : Int32) :
    shift value delta = clampedSum value delta := by
  rw [shift, clampedSum]
  split
  · next below =>
    rw [Int.min_eq_left (by omega), Int.max_eq_left (by omega)]
    rfl
  · next notBelow =>
    split
    · next inside =>
      rw [Int.min_eq_left (by omega), Int.max_eq_right (by omega)]
    · next above =>
      rw [Int.min_eq_right (by omega), Int.max_eq_right (by omega)]
      rfl

/-- Lines with the same value of every stat are the same. -/
theorem ext_get {left right : StatLine} (same : ∀ stat, left.get stat = right.get stat) :
    left = right := by
  cases left
  cases right
  exact (mk.injEq ..).mpr ⟨same .attack, same .defense, same .level⟩

end StatLine

namespace CardInstance

/--
This is a stat of a card under modifiers: the last value that one of them puts in its place, or else what
all their changes make of the printed value, one after the other.
-/
def statUnder (card : CardInstance) (modifiers : List Modifier) (stat : Stat) : UInt32 :=
  match (modifiers.filterMap (Modifier.override? card.id stat)).getLast? with
  | some value => value
  | none =>
    (modifiers.filterMap (Modifier.delta? card.id stat)).foldl StatLine.clampedSum (card.base.get stat)

/-- These are all stats of a card under modifiers. -/
def lineUnder (card : CardInstance) (modifiers : List Modifier) : StatLine :=
  ⟨card.statUnder modifiers .attack, card.statUnder modifiers .defense,
    card.statUnder modifiers .level⟩

theorem get_lineUnder (card : CardInstance) (modifiers : List Modifier) (stat : Stat) :
    (card.lineUnder modifiers).get stat = card.statUnder modifiers stat := by
  cases stat <;> rfl

end CardInstance

namespace Modifier

/-- This is what one modifier makes of the value of a stat of a card. -/
def alter (card : InstanceId) (stat : Stat) (value : UInt32) (modifier : Modifier) : UInt32 :=
  match modifier.override? card stat with
  | some new => new
  | none =>
    match modifier.delta? card stat with
    | some amount => StatLine.clampedSum value amount
    | none => value

theorem get_applyTo (modifier : Modifier) (line : StatLine) (stat : Stat) :
    (modifier.alteration.applyTo line).get stat =
      alter modifier.target stat (line.get stat) modifier := by
  rw [alter, override?, delta?, Alteration.applyTo.eq_def]
  cases modifier.alteration with
  | negate => rfl
  | delta changed amount =>
    by_cases same : changed = stat
    · subst same
      simp [StatLine.add, StatLine.shift_eq_clampedSum]
    · simp [StatLine.add, same, StatLine.get_set_of_ne _ _ (Ne.symm same)]
  | override changed value =>
    by_cases same : changed = stat
    · subst same
      simp
    · simp [same, StatLine.get_set_of_ne _ _ (Ne.symm same)]

theorem alter_of_target_ne {modifier : Modifier} {card : InstanceId} (other : modifier.target ≠ card)
    (stat : Stat) (value : UInt32) : alter card stat value modifier = value := by
  rw [alter, override?, delta?]
  cases modifier.alteration <;> simp [other]

variable (card : InstanceId) (stat : Stat) (modifiers : List Modifier) (value : UInt32)

/-! Layers -/

theorem filter_isIn (layer other : Layer) :
    (modifiers.filter (isIn layer)).filter (isIn other) =
      if other = layer then modifiers.filter (isIn layer) else [] := by
  rw [List.filter_filter]
  split
  · next same =>
    subst same
    simp
  · next different =>
    apply List.filter_eq_nil_iff.mpr
    intro modifier _
    simp only [isIn, Bool.and_eq_true, decide_eq_true_eq]
    rintro ⟨later, earlier⟩
    exact different (later.symm.trans earlier)

theorem inLayers_inLayers : inLayers (inLayers modifiers) = inLayers modifiers := by
  simp only [inLayers, List.filter_append, filter_isIn]
  simp

theorem foldl_alter_negation :
    (modifiers.filter (isIn .negation)).foldl (alter card stat) value = value := by
  induction modifiers with
  | nil => rfl
  | cons modifier rest ih =>
    rw [List.filter_cons]
    split
    · next within =>
      have negates : modifier.alteration = .negate := by
        cases kind : modifier.alteration <;> simp [isIn, kind, Alteration.layer] at within ⊢
      simpa [alter, override?, delta?, negates] using ih
    · exact ih

theorem foldl_alter_numeric :
    (modifiers.filter (isIn .numeric)).foldl (alter card stat) value =
      (modifiers.filterMap (delta? card stat)).foldl StatLine.clampedSum value := by
  induction modifiers generalizing value with
  | nil => rfl
  | cons modifier rest ih =>
    cases kind : modifier.alteration with
    | negate => simpa [isIn, Alteration.layer, delta?, kind] using ih value
    | override changed new => simpa [isIn, Alteration.layer, delta?, kind] using ih value
    | delta changed amount =>
      by_cases own : modifier.target = card ∧ changed = stat
      · simpa [isIn, Alteration.layer, delta?, kind, own, alter, override?] using ih _
      · simpa [isIn, Alteration.layer, delta?, kind, own, alter, override?] using ih value

theorem foldl_alter_override :
    (modifiers.filter (isIn .override)).foldl (alter card stat) value =
      (modifiers.filterMap (override? card stat)).getLast?.getD value := by
  induction modifiers generalizing value with
  | nil => rfl
  | cons modifier rest ih =>
    cases kind : modifier.alteration with
    | negate => simpa [isIn, Alteration.layer, override?, kind] using ih value
    | delta changed amount => simpa [isIn, Alteration.layer, override?, kind] using ih value
    | override changed new =>
      by_cases own : modifier.target = card ∧ changed = stat
      · simpa [isIn, Alteration.layer, override?, kind, own, alter, List.getLast?_cons] using ih new
      · simpa [isIn, Alteration.layer, override?, kind, own, alter, delta?] using ih value

end Modifier

/-- Layer by layer, modifiers make of a stat what the closed form says. -/
theorem CardInstance.foldl_alter_inLayers (card : CardInstance) (modifiers : List Modifier)
    (stat : Stat) :
    (Modifier.inLayers modifiers).foldl (Modifier.alter card.id stat) (card.base.get stat) =
      card.statUnder modifiers stat := by
  rw [Modifier.inLayers, List.foldl_append, List.foldl_append, Modifier.foldl_alter_negation,
    Modifier.foldl_alter_numeric, Modifier.foldl_alter_override, statUnder]
  cases (modifiers.filterMap (Modifier.override? card.id stat)).getLast? <;> rfl

/-! Boards -/

/-- These are the abilities of a card of the catalog, if it is known. -/
def Catalog.abilities (catalog : Catalog) (card : CardId) : List Ability :=
  ((catalog.get? card).map CardTemplate.continuous).getD []

namespace Modifier

/-- This tells that the target of a modifier lies on the field and has not moved since. -/
def Stands (modifier : Modifier) (state : GameState) : Prop :=
  ∃ card ∈ state.cards,
    card.id = modifier.target ∧ card.isOnField = true ∧ card.moves = modifier.targetMoves

instance (modifier : Modifier) (state : GameState) : Decidable (modifier.Stands state) :=
  inferInstanceAs (Decidable (∃ card ∈ state.cards, _))

end Modifier

namespace GameState

/-- These are the granted modifiers that still count, in their order. -/
def standing (state : GameState) : List Modifier :=
  state.granted.filter fun modifier => modifier.Stands state

/-- This is the board under the granted modifiers that still count, without any ability. -/
def grantedOnly (state : GameState) : GameState :=
  { state with
    cards := state.cards.map fun card =>
      { card with
        current := card.lineUnder state.standing
        negated := decide (∃ modifier ∈ state.standing, modifier.Negates card.id) } }

/-- This tells that an ability of a source changes a target, as a board shows them. -/
def Reaches (board : GameState) (source : CardInstance) (ability : Ability) (target : CardInstance) :
    Prop :=
  source.isFaceUpOnField = true ∧ source.negated = false ∧
    Condition.holdsIfAny ability.condition board source.owner source.id = true ∧
    ability.affects.matchesFor source.owner source.id target = true

instance (board : GameState) (source : CardInstance) (ability : Ability) (target : CardInstance) :
    Decidable (board.Reaches source ability target) :=
  inferInstanceAs (Decidable (_ ∧ _))

/-- These are all cards with all their abilities and all cards of a board, in this order. -/
def pairings (board : GameState) (catalog : Catalog) :
    List (CardInstance × Ability × CardInstance) :=
  board.cards.flatMap fun source =>
    (catalog.abilities source.card).flatMap fun ability =>
      board.cards.map fun target => (source, ability, target)

/-- These are the modifiers of abilities on a board, one for each card that an ability changes. -/
def reached (board : GameState) (catalog : Catalog) : List Modifier :=
  ((board.pairings catalog).filter fun pairing =>
      board.Reaches pairing.1 pairing.2.1 pairing.2.2).map fun pairing =>
    ⟨pairing.1.id, pairing.2.2.id, pairing.2.1.alteration, .whileSourceActive, pairing.2.2.moves⟩

/-- These are all modifiers that are granted or made by abilities, the granted ones first. -/
def gathered (state : GameState) (catalog : Catalog) : List Modifier :=
  state.standing ++ state.grantedOnly.reached catalog

/-- This tells that a granted modifier or one of an ability negates a card. -/
def Negated (state : GameState) (catalog : Catalog) (card : InstanceId) : Prop :=
  ∃ modifier ∈ state.gathered catalog, modifier.Negates card

instance (state : GameState) (catalog : Catalog) (card : InstanceId) :
    Decidable (state.Negated catalog card) :=
  inferInstanceAs (Decidable (∃ modifier ∈ state.gathered catalog, modifier.Negates card))

/-- These are the granted modifiers and those of abilities of cards that are not negated. -/
def counting (state : GameState) (catalog : Catalog) : List Modifier :=
  state.standing ++ (state.grantedOnly.reached catalog).filter fun modifier =>
    ¬state.Negated catalog modifier.source

/-- These are the modifiers that count and the negations, whether their sources are negated or not. -/
def lasting (state : GameState) (catalog : Catalog) : List Modifier :=
  state.standing ++ (state.grantedOnly.reached catalog).filter fun modifier =>
    modifier.alteration = .negate ∨ ¬state.Negated catalog modifier.source

variable {state : GameState} {catalog : Catalog}

/-! Stats under modifiers -/

theorem getElem?_foldl_alterStats (modifiers : List Modifier) (stats : List StatLine) (place : Nat) :
    (modifiers.foldl alterStats stats)[place]? = stats[place]?.map fun line =>
      modifiers.foldl (fun line modifier => if modifier.target.index = place
        then modifier.alteration.applyTo line else line) line := by
  induction modifiers generalizing stats with
  | nil => simp
  | cons modifier rest ih =>
    rw [List.foldl_cons, ih, alterStats, List.getElem?_modify]
    simp [Function.comp_def]

/-- On the stats of one card only modifiers of this card act, each stat for itself. -/
theorem get_foldl_applyTo (card : InstanceId) (stat : Stat) (modifiers : List Modifier)
    (line : StatLine) :
    (modifiers.foldl (fun line modifier => if modifier.target.index = card.index
        then modifier.alteration.applyTo line else line) line).get stat =
      modifiers.foldl (Modifier.alter card stat) (line.get stat) := by
  induction modifiers generalizing line with
  | nil => rfl
  | cons modifier rest ih =>
    rw [List.foldl_cons, List.foldl_cons, ih]
    by_cases own : modifier.target = card
    · rw [own, if_pos rfl, modifier.get_applyTo, own]
    · rw [if_neg (fun same => own (InstanceId.index_inj.mp same)),
        Modifier.alter_of_target_ne own]

/-- The pass over the table gives every card its stats in closed form. -/
theorem statsUnder_eq (numbered : state.Numbered) (modifiers : List Modifier) :
    state.statsUnder modifiers = state.cards.map fun card => card.lineUnder modifiers := by
  apply List.ext_getElem?
  intro place
  rw [statsUnder, getElem?_foldl_alterStats, List.getElem?_map, List.getElem?_map, Option.map_map]
  cases there : state.cards[place]? with
  | none => rfl
  | some card =>
    have own : card.id.index = place := numbered place card there
    have value (stat : Stat) := (get_foldl_applyTo card.id stat (Modifier.inLayers modifiers)
      card.base).trans (card.foldl_alter_inLayers modifiers stat)
    rw [own] at value
    exact congrArg some (StatLine.ext_get fun stat =>
      (value stat).trans (card.get_lineUnder modifiers stat).symm)

/-! Modifiers that count -/

theorem isLive_iff (numbered : state.Numbered) {modifier : Modifier} :
    modifier.isLive state = true ↔ modifier.Stands state := by
  rw [Modifier.isLive, Option.any_eq_true]
  constructor
  · rintro ⟨card, known, holds⟩
    exact ⟨card, List.mem_of_getElem? known, numbered.id_eq known, by simpa using holds⟩
  · rintro ⟨card, member, own, holds⟩
    exact ⟨card, own ▸ numbered.card?_id member, by simpa using holds⟩

theorem liveGranted_eq (numbered : state.Numbered) : state.liveGranted = state.standing :=
  List.filter_congr fun _ _ => by rw [Bool.eq_iff_iff, isLive_iff numbered, decide_eq_true_eq]

theorem contains_negatedCards {modifiers : List Modifier} {card : InstanceId} :
    (Modifier.negatedCards modifiers).contains card =
      decide (∃ modifier ∈ modifiers, modifier.Negates card) := by
  rw [Bool.eq_iff_iff, decide_eq_true_eq, List.contains_iff_mem, Modifier.negatedCards, List.mem_map]
  simp only [List.mem_filter, Modifier.isNegation, decide_eq_true_eq]
  constructor
  · rintro ⟨modifier, ⟨member, negates⟩, target⟩
    exact ⟨modifier, member, target, negates⟩
  · rintro ⟨modifier, member, target, negates⟩
    exact ⟨modifier, ⟨member, negates⟩, target⟩

theorem flagsOf_eq (state : GameState) (modifiers : List Modifier) :
    state.flagsOf (Modifier.negatedCards modifiers) = state.cards.map fun card =>
      decide (∃ modifier ∈ modifiers, modifier.Negates card.id) :=
  List.map_congr_left fun _ _ => contains_negatedCards

theorem withResults_map (state : GameState) (line : CardInstance → StatLine)
    (negates : CardInstance → Bool) :
    state.withResults (state.cards.map line) (state.cards.map negates) =
      { state with
        cards := state.cards.map fun card =>
          { card with current := line card, negated := negates card } } := by
  rw [withResults, List.zip_map', List.zipWith_map_right, List.zipWith_self]

theorem grantedBoard_eq (numbered : state.Numbered) : state.grantedBoard = state.grantedOnly := by
  rw [grantedBoard, statsUnder_eq numbered, flagsOf_eq, withResults_map, liveGranted_eq numbered]
  rfl

theorem cardModifiers_eq (board : GameState) (source : CardInstance) :
    board.cardModifiers catalog source =
      (catalog.abilities source.card).flatMap (board.abilityModifiers source) := by
  rw [cardModifiers.eq_def, Catalog.abilities]
  cases catalog.get? source.card <;> rfl

/-- These are the modifiers of the pairings of one ability of a card. -/
def reachedBy (board : GameState) (source : CardInstance) (ability : Ability) : List Modifier :=
  (board.cards.filter fun target => board.Reaches source ability target).map fun target =>
    ⟨source.id, target.id, ability.alteration, .whileSourceActive, target.moves⟩

theorem reached_eq (board : GameState) (catalog : Catalog) :
    board.reached catalog = board.cards.flatMap fun source =>
      (catalog.abilities source.card).flatMap (board.reachedBy source) := by
  rw [reached, pairings]
  simp only [List.filter_flatMap, List.map_flatMap, List.filter_map, List.map_map]
  rfl

theorem abilityModifiers_eq (board : GameState) (source : CardInstance) (ability : Ability)
    (acts : (source.isFaceUpOnField && !source.negated) = true) :
    board.abilityModifiers source ability = board.reachedBy source ability := by
  have ⟨shown, heard⟩ : source.isFaceUpOnField = true ∧ source.negated = false := by
    simpa using acts
  rw [abilityModifiers, reachedBy]
  split
  · next holds => simp [Reaches, shown, heard, holds]
  · next fails => simp [Reaches, fails]

/-- A card that is not seen on the field, or that is negated, reaches nothing. -/
theorem reachedBy_eq_nil (board : GameState) (source : CardInstance) (ability : Ability)
    (silent : (source.isFaceUpOnField && !source.negated) = false) :
    board.reachedBy source ability = [] := by
  rw [reachedBy, List.filter_eq_nil_iff.mpr, List.map_nil]
  intro target _ reaches
  obtain ⟨shown, acts, _⟩ := of_decide_eq_true reaches
  simp [shown, acts] at silent

theorem staticModifiers_eq (board : GameState) (catalog : Catalog) :
    board.staticModifiers catalog = board.reached catalog := by
  rw [staticModifiers, reached_eq]
  generalize board.cards = sources
  induction sources with
  | nil => rfl
  | cons source rest ih =>
    rw [List.filter_cons, List.flatMap_cons, ← ih]
    cases acts : source.isFaceUpOnField && !source.negated with
    | true =>
      rw [if_pos rfl, List.flatMap_cons, cardModifiers_eq]
      congr 1
      exact List.flatMap_congr fun ability _ => board.abilityModifiers_eq source ability acts
    | false =>
      have nothing : (catalog.abilities source.card).flatMap (board.reachedBy source) = [] :=
        List.flatMap_eq_nil_iff.mpr fun ability _ => board.reachedBy_eq_nil source ability acts
      rw [if_neg Bool.false_ne_true, nothing, List.nil_append]

/-- Negations have no effect on stats, so it does not matter which of them are there. -/
theorem lineUnder_lasting (state : GameState) (catalog : Catalog) (card : CardInstance) :
    card.lineUnder (state.lasting catalog) = card.lineUnder (state.counting catalog) := by
  have same {α : Type} (read : Modifier → Option α)
      (silent : ∀ modifier, modifier.alteration = .negate → read modifier = none) :
      (state.lasting catalog).filterMap read = (state.counting catalog).filterMap read := by
    rw [lasting, counting, List.filterMap_append, List.filterMap_append, List.filterMap_filter,
      List.filterMap_filter]
    congr 2
    funext modifier
    by_cases negates : modifier.alteration = .negate
    · simp [silent modifier negates]
    · simp [negates]
  have overrides (stat : Stat) := same (Modifier.override? card.id stat) fun modifier negates => by
    rw [Modifier.override?, negates]
  have deltas (stat : Stat) := same (Modifier.delta? card.id stat) fun modifier negates => by
    rw [Modifier.delta?, negates]
  simp only [CardInstance.lineUnder, CardInstance.statUnder, overrides, deltas]

/-- These are the results with the closed forms of their parts, but still in passes over the table. -/
theorem recompute_eq (numbered : state.Numbered) (catalog : Catalog) :
    state.recompute catalog =
      ⟨Modifier.inLayers (state.lasting catalog),
        state.statsUnder (Modifier.inLayers (state.lasting catalog)),
        state.flagsOf (Modifier.negatedCards (state.gathered catalog))⟩ := by
  have static : state.grantedBoard.staticModifiers catalog = state.grantedOnly.reached catalog := by
    rw [staticModifiers_eq, grantedBoard_eq numbered]
  have negated (card : InstanceId) :
      (Modifier.negatedCards (state.gathered catalog)).contains card =
        decide (state.Negated catalog card) := contains_negatedCards
  have kept : (state.grantedOnly.reached catalog).filter (fun modifier => modifier.isNegation ||
        !(Modifier.negatedCards (state.gathered catalog)).contains modifier.source) =
      (state.grantedOnly.reached catalog).filter fun modifier =>
        modifier.alteration = .negate ∨ ¬state.Negated catalog modifier.source :=
    List.filter_congr fun modifier _ => by
      rw [negated]
      simp [Modifier.isNegation]
  rw [recompute, static, liveGranted_eq numbered, lasting, ← kept]
  rfl

/--
The results of lasting changes in closed form. The modifiers that are stored are those that count and the
negations, layer by layer in their order. Every card has its stats under the modifiers that count, and is
negated exactly if one of all modifiers negates it. On a stat of a card no modifier of another stat or
card has an effect, and where one puts a value in its place, only the last such value counts, whatever
changes the stat before or after.
-/
theorem recompute_closed_form (numbered : state.Numbered) (catalog : Catalog) :
    state.recompute catalog =
      { modifiers := [Layer.negation, .numeric, .override].flatMap fun layer =>
          (state.lasting catalog).filter fun modifier => modifier.alteration.layer = layer
        stats := state.cards.map fun card => card.lineUnder (state.counting catalog)
        negated := state.cards.map fun card => decide (state.Negated catalog card.id) } ∧
    ∀ (one other : List Modifier) (card : CardInstance) (place : Nat) (stat : Stat),
      state.cards[place]? = some card →
      (one.filterMap (Modifier.override? card.id stat)).getLast? =
        (other.filterMap (Modifier.override? card.id stat)).getLast? →
      (one.filterMap (Modifier.override? card.id stat) = [] →
        one.filterMap (Modifier.delta? card.id stat) =
          other.filterMap (Modifier.delta? card.id stat)) →
      (state.statsUnder one)[place]?.map (·.get stat) =
        (state.statsUnder other)[place]?.map (·.get stat) := by
  constructor
  · have stats (modifiers : List Modifier) : state.statsUnder (Modifier.inLayers modifiers) =
        state.cards.map fun card => card.lineUnder modifiers := by
      rw [← statsUnder_eq numbered, statsUnder, Modifier.inLayers_inLayers, statsUnder]
    have layers (modifiers : List Modifier) : Modifier.inLayers modifiers =
        [Layer.negation, .numeric, .override].flatMap fun layer =>
          modifiers.filter fun modifier => modifier.alteration.layer = layer := by
      simp only [List.flatMap_cons, List.flatMap_nil, List.append_nil, ← List.append_assoc]
      rfl
    rw [recompute_eq numbered, stats, flagsOf_eq, layers]
    simp only [lineUnder_lasting]
    rfl
  · intro one other card place stat there last changes
    -- The value depends on the last override alone, and on the changes only if there is none.
    have value (modifiers : List Modifier) : (state.statsUnder modifiers)[place]?.map (·.get stat) =
        some (card.statUnder modifiers stat) := by
      rw [statsUnder_eq numbered, List.getElem?_map, there]
      exact congrArg some (card.get_lineUnder modifiers stat)
    rw [value, value, CardInstance.statUnder, CardInstance.statUnder, ← last]
    cases overrides : (one.filterMap (Modifier.override? card.id stat)).getLast? with
    | some new => rfl
    | none => rw [changes (List.getLast?_eq_none_iff.mp overrides)]

/-- Cards that are numbered from zero on are numbered by their places. -/
theorem numbered_of_indices
    (indices : state.cards.map (fun card => card.id.index) = List.range state.cards.length) :
    state.Numbered := by
  intro place found there
  have inside := (List.getElem?_eq_some_iff.mp there).1
  have same := congrArg (fun numbers => numbers[place]?) indices
  simp only [List.getElem?_map, there, Option.map_some, List.getElem?_range inside] at same
  exact Option.some.inj same

/-- This is a catalog with a monster that negates strong enemies, and one that makes friends stronger. -/
def rivals : Catalog :=
  ⟨[⟨⟨1⟩, "Silencer", .monster 4 500 500, [],
      [⟨{ CardFilter.fieldMonsters .opponent with minAttack := some 1000 }, .negate, none⟩], none⟩,
    ⟨⟨2⟩, "Captain", .monster 4 900 500, [],
      [⟨CardFilter.fieldMonsters .controller, .delta .attack 300, none⟩], none⟩]⟩

/--
This is a table with a silencer and a captain. The captain was made strong enough to be silenced, and the
silencer was given a stat first and then made stronger, which is one alteration in vain.
-/
def arena : GameState :=
  let stand (entry : CardInstance) : CardInstance :=
    { entry with zone := .monsters, slot := some 0, position := .faceUpAttack, moves := 1 }
  { GameState.initial .standard 0 .first with
    cards := [stand (.create ⟨0⟩ ⟨1⟩ (.monster 4 500 500) .first),
      stand (.create ⟨1⟩ ⟨2⟩ (.monster 4 900 500) .second)]
    granted := [⟨⟨1⟩, ⟨0⟩, .override .attack 2000, .endOfTurn, 1⟩,
      ⟨⟨1⟩, ⟨0⟩, .delta .attack 50, .endOfTurn, 1⟩,
      ⟨⟨0⟩, ⟨1⟩, .delta .attack 200, .endOfTurn, 1⟩] }

/-- The captain is silenced and makes nobody stronger; the silencer keeps the stat that it was given. -/
theorem arena_results :
    arena.Numbered ∧
    (arena.cards.map fun card => card.lineUnder (arena.counting rivals)) =
      [⟨2000, 500, 4⟩, ⟨1100, 500, 4⟩] ∧
    (arena.recompute rivals).stats = [⟨2000, 500, 4⟩, ⟨1100, 500, 4⟩] ∧
    (arena.recompute rivals).negated = [false, true] ∧
    (arena.statsUnder arena.granted)[0]?.map (·.get .attack) =
      (arena.statsUnder arena.granted.reverse)[0]?.map (·.get .attack) := by
  have numbered : arena.Numbered := numbered_of_indices (by decide)
  have stats : (arena.cards.map fun card => card.lineUnder (arena.counting rivals)) =
      [⟨2000, 500, 4⟩, ⟨1100, 500, 4⟩] := by decide
  have negated : (arena.cards.map fun card => decide (arena.Negated rivals card.id)) =
      [false, true] := by decide
  obtain ⟨results, independent⟩ := recompute_closed_form numbered rivals
  refine ⟨numbered, stats, ?_, ?_, ?_⟩
  · rw [results, stats]
  · rw [results, negated]
  · exact independent _ _ (arena.cards.head (by decide)) 0 .attack rfl (by decide) (by decide)

end GameState

end CardDuel
