/-
This file shows how reading a catalog divides its cards. Of the cards that are read with one number the first is
taken; every other card is rejected, in order. A card that is not read changes nothing for the others.
-/

import CardDuel.Proofs.Accepted
import CardDuel.Proofs.Catalog.Load

namespace CardDuel

namespace CardTemplate

variable {index : Nat} {value : Json}

/-- A card that is rejected is rejected with its own place in the list. -/
theorem index_rejected {rejected : RejectedCard} (failed : read index value = .error rejected) :
    rejected.index = index := by
  rw [read] at failed
  split at failed
  · cases failed
  · obtain rfl := Except.error.inj failed
    rfl

end CardTemplate

namespace CatalogLoad

/-- This tells that the card at an index of a list is read. -/
def Reads (values : List Json) (index : Nat) (template : CardTemplate) : Prop :=
  ∃ value, values[index]? = some value ∧ CardTemplate.read index value = .ok template

/-- This tells that a card with a number is read before an index. -/
def Before (values : List Json) (index : Nat) (card : CardId) : Prop :=
  ∃ earlier < index, ∃ template, Reads values earlier template ∧ template.id = card

/-- This tells that the card at an index is the first one that is read with its number. -/
def Takes (values : List Json) (index : Nat) (template : CardTemplate) : Prop :=
  Reads values index template ∧ ¬Before values index template.id

/-- This tells why a card is rejected: it is not read, or one that was read before has its number. -/
def Rejects (values : List Json) (rejected : RejectedCard) : Prop :=
  (∃ value, values[rejected.index]? = some value ∧
    CardTemplate.read rejected.index value = .error rejected) ∨
  ∃ template, Reads values rejected.index template ∧ Before values rejected.index template.id ∧
    rejected = .duplicate template.id rejected.index

variable {values : List Json} {value : Json} {index : Nat} {template : CardTemplate} {card : CardId}

/-- Only places inside the list are read. -/
theorem Reads.lt (reads : Reads values index template) : index < values.length := by
  obtain ⟨_, stored, _⟩ := reads
  exact (List.getElem?_eq_some_iff.mp stored).1

/-- A list with one more value has it at the end and the others where they were. -/
theorem getElem?_append_eq_some {stored : Json} : (values ++ [value])[index]? = some stored ↔
    values[index]? = some stored ∨ index = values.length ∧ value = stored := by
  rcases Nat.lt_trichotomy index values.length with inside | rfl | outside
  · simp [List.getElem?_append_left inside, Nat.ne_of_lt inside]
  · simp
  · have apart : index - values.length ≠ 0 := by omega
    simp [List.getElem?_append_right (Nat.le_of_lt outside), List.getElem?_eq_none (Nat.le_of_lt outside),
      Nat.ne_of_gt outside, apart]

/-- Of a longer list the same is read up to where the list ends, and then its last card. -/
theorem reads_append : Reads (values ++ [value]) index template ↔
    Reads values index template ∨ index = values.length ∧ CardTemplate.read index value = .ok template := by
  simp [Reads, getElem?_append_eq_some, or_and_right, exists_or, and_assoc]

/-- One more value at the end comes before none of the others. -/
theorem before_append (inside : index ≤ values.length) :
    Before (values ++ [value]) index card ↔ Before values index card := by
  apply exists_congr
  intro earlier
  apply and_congr_right
  intro less
  apply exists_congr
  intro template
  have other : earlier ≠ values.length := Nat.ne_of_lt (Nat.lt_of_lt_of_le less inside)
  rw [reads_append, or_iff_left fun last => other last.1]

/-- With one more value at the end, that value is taken too if it is read and its number is new. -/
theorem takes_append : Takes (values ++ [value]) index template ↔ Takes values index template ∨
    index = values.length ∧ CardTemplate.read index value = .ok template ∧
      ¬Before values index template.id := by
  rw [Takes, Takes, reads_append, or_and_right, and_assoc]
  refine or_congr (and_congr_right ?_) (and_congr_right ?_)
  · intro reads
    rw [before_append (Nat.le_of_lt reads.lt)]
  · intro last
    apply and_congr_right
    intro _
    rw [before_append (Nat.le_of_eq last)]

/-- With one more value at the end, that value is rejected too if it is not read or its number is not new. -/
theorem rejects_append {rejected : RejectedCard} : Rejects (values ++ [value]) rejected ↔
    Rejects values rejected ∨ rejected.index = values.length ∧
      (CardTemplate.read rejected.index value = .error rejected ∨
        ∃ template, CardTemplate.read rejected.index value = .ok template ∧
          Before values rejected.index template.id ∧ rejected = .duplicate template.id rejected.index) := by
  have earlier (template : CardTemplate) : Reads values rejected.index template ∧
      Before (values ++ [value]) rejected.index template.id ∧ rejected = .duplicate template.id rejected.index ↔
      Reads values rejected.index template ∧ Before values rejected.index template.id ∧
        rejected = .duplicate template.id rejected.index :=
    and_congr_right fun reads => by rw [before_append (Nat.le_of_lt reads.lt)]
  have last (template : CardTemplate) : (rejected.index = values.length ∧
      CardTemplate.read rejected.index value = .ok template) ∧
      Before (values ++ [value]) rejected.index template.id ∧ rejected = .duplicate template.id rejected.index ↔
      rejected.index = values.length ∧ CardTemplate.read rejected.index value = .ok template ∧
        Before values rejected.index template.id ∧ rejected = .duplicate template.id rejected.index := by
    rw [and_assoc]
    exact and_congr_right fun last => by rw [before_append (Nat.le_of_eq last)]
  simp only [Rejects, getElem?_append_eq_some, reads_append, or_and_right, exists_or, earlier, last]
  simp only [and_assoc, exists_and_left, exists_eq_left', and_or_left]
  exact or_or_or_comm

/-- Of the cards that are read with a number one is the first. -/
theorem Reads.first (reads : Reads values index template) :
    ∃ first ≤ index, ∃ other, Takes values first other ∧ other.id = template.id := by
  induction index using Nat.strongRecOn generalizing template with
  | _ index ih =>
    by_cases before : Before values index template.id
    · obtain ⟨earlier, less, other, there, same⟩ := before
      obtain ⟨first, most, last, takes, equal⟩ := ih earlier less there
      exact ⟨first, Nat.le_trans most (Nat.le_of_lt less), last, takes, equal.trans same⟩
    · exact ⟨index, Nat.le_refl index, template, ⟨reads, before⟩, rfl⟩

/-- This tells that the result of reading a list divides it into the cards that are taken and those rejected. -/
structure Partitions (load : CatalogLoad) (values : List Json) : Prop where
  size : load.catalog.size + load.rejected.length = values.length
  distinct : (load.catalog.templates.map CardTemplate.id).Nodup
  ordered : load.rejected.Pairwise fun first second => first.index < second.index
  taken : ∀ template, template ∈ load.catalog.templates ↔ ∃ index, Takes values index template
  rejects : ∀ rejected, rejected ∈ load.rejected ↔ Rejects values rejected

/-- A catalog contains a number if it has a card with this number. -/
theorem contains_iff_mem {catalog : Catalog} :
    catalog.contains card = true ↔ ∃ template ∈ catalog.templates, template.id = card := by
  rw [Catalog.contains, Catalog.get?, List.find?_isSome]
  simp

/-- A card that is found under a number is one of the catalog with this number. -/
theorem mem_of_get? {catalog : Catalog} (known : catalog.get? card = some template) :
    template ∈ catalog.templates ∧ template.id = card := by
  refine ⟨List.mem_of_find?_eq_some known, ?_⟩
  simpa using List.find?_some known

/-- Only values inside the list are rejected. -/
theorem Rejects.lt {rejected : RejectedCard} (refused : Rejects values rejected) :
    rejected.index < values.length := by
  rcases refused with ⟨_, stored, _⟩ | ⟨_, reads, _⟩
  · exact (List.getElem?_eq_some_iff.mp stored).1
  · exact reads.lt

namespace Partitions

variable {load : CatalogLoad}

/-- A catalog has the numbers of the cards that are read. -/
theorem contains_iff (partitions : load.Partitions values) :
    load.catalog.contains card = true ↔ Before values values.length card := by
  rw [contains_iff_mem]
  constructor
  · rintro ⟨template, listed, rfl⟩
    obtain ⟨index, takes⟩ := (partitions.taken template).mp listed
    exact ⟨index, takes.1.lt, template, takes.1, rfl⟩
  · rintro ⟨_, _, template, reads, rfl⟩
    obtain ⟨first, _, other, takes, same⟩ := reads.first
    exact ⟨other, (partitions.taken other).mpr ⟨first, takes⟩, same⟩

/-- A card that is rejected goes to the end of the rejections. -/
theorem reject (partitions : load.Partitions values) {rejected : RejectedCard}
    (place : rejected.index = values.length)
    (taken : ∀ index template, Takes (values ++ [value]) index template ↔ Takes values index template)
    (refused : ∀ other, Rejects (values ++ [value]) other ↔ Rejects values other ∨ other = rejected) :
    Partitions { load with rejected := load.rejected ++ [rejected] } (values ++ [value]) where
  size := by
    rw [List.length_append, List.length_append, ← partitions.size, List.length_singleton, List.length_singleton,
      Nat.add_assoc]
  distinct := partitions.distinct
  ordered := by
    refine List.pairwise_append.mpr ⟨partitions.ordered, List.pairwise_singleton _ _, ?_⟩
    intro other member last same
    rw [List.mem_singleton.mp same, place]
    exact ((partitions.rejects other).mp member).lt
  taken template := by rw [partitions.taken, exists_congr fun index => taken index template]
  rejects other := by rw [List.mem_append, List.mem_singleton, partitions.rejects, refused]

/-- A card that is taken goes to the end of the catalog. -/
theorem take (partitions : load.Partitions values) {template : CardTemplate}
    (read : CardTemplate.read values.length value = .ok template)
    (first : ¬Before values values.length template.id) :
    Partitions { load with catalog := ⟨load.catalog.templates ++ [template]⟩ } (values ++ [value]) where
  size := by
    have size := partitions.size
    simp only [Catalog.size, List.length_append, List.length_singleton] at size ⊢
    omega
  distinct := by
    rw [List.map_append, List.nodup_append]
    refine ⟨partitions.distinct, by simp, fun card listed other last same => first ?_⟩
    obtain ⟨earlier, member, rfl⟩ := List.mem_map.mp listed
    rw [← partitions.contains_iff, contains_iff_mem]
    exact ⟨earlier, member, same.trans (List.mem_singleton.mp last)⟩
  ordered := partitions.ordered
  taken other := by
    simp only [List.mem_append, List.mem_singleton, partitions.taken, takes_append, exists_or]
    refine or_congr_right ⟨?_, ?_⟩
    · rintro rfl
      exact ⟨values.length, rfl, read, first⟩
    · rintro ⟨_, rfl, given, _⟩
      exact Except.ok.inj (given.symm.trans read)
  rejects rejected := by
    rw [partitions.rejects, rejects_append, iff_self_or]
    rintro ⟨last, failed | ⟨other, given, before, _⟩⟩
    · rw [last, read] at failed
      cases failed
    · rw [last, read] at given
      rw [last, ← Except.ok.inj given] at before
      exact absurd before first

/-- The next card is taken or rejected, and nothing else changes. -/
theorem add (partitions : load.Partitions values) (value : Json) :
    (load.add values.length value).Partitions (values ++ [value]) := by
  rw [CatalogLoad.add]
  cases result : CardTemplate.read values.length value with
  | error rejected =>
    apply partitions.reject (CardTemplate.index_rejected result)
    · intro index template
      rw [takes_append, or_iff_left]
      rintro ⟨rfl, read, _⟩
      cases result.symm.trans read
    · intro other
      rw [rejects_append]
      refine or_congr_right ⟨?_, ?_⟩
      · rintro ⟨last, failed | ⟨template, read, _⟩⟩
        · rw [last, result] at failed
          exact (Except.error.inj failed).symm
        · rw [last, result] at read
          cases read
      · rintro rfl
        have last := CardTemplate.index_rejected result
        exact ⟨last, .inl (last ▸ result)⟩
  | ok template =>
    simp only
    split
    · next stored =>
      have before := partitions.contains_iff.mp stored
      apply partitions.reject rfl
      · intro index other
        rw [takes_append, or_iff_left]
        rintro ⟨rfl, read, first⟩
        obtain rfl := Except.ok.inj (result.symm.trans read)
        exact first before
      · intro rejected
        rw [rejects_append]
        refine or_congr_right ⟨?_, ?_⟩
        · rintro ⟨last, failed | ⟨other, read, _, same⟩⟩
          · rw [last, result] at failed
            cases failed
          · rw [last, result] at read
            rw [same, last, ← Except.ok.inj read]
        · rintro rfl
          exact ⟨rfl, .inr ⟨template, result, before, rfl⟩⟩
    · next missing => exact partitions.take result fun before => missing (partitions.contains_iff.mpr before)

/-- The cards of a list are divided one after the other. -/
theorem addAll (partitions : load.Partitions values) (rest : List Json) :
    (load.addAll values.length rest).Partitions (values ++ rest) := by
  induction rest generalizing load values with
  | nil => rwa [List.append_nil]
  | cons value rest ih =>
    have next := ih (partitions.add value)
    rwa [List.length_append, List.length_singleton, List.append_assoc] at next

end Partitions

/-- Reading all values of a list divides them into cards that are taken and values that are rejected. -/
theorem ofList_partitions (values : List Json) : (ofList values).Partitions values := by
  have start : Partitions ⟨⟨[]⟩, []⟩ [] := {
    size := rfl
    distinct := .nil
    ordered := .nil
    taken := fun _ => by simp [Takes, Reads]
    rejects := fun _ => by simp [Rejects, Reads] }
  exact start.addAll values

/-- No two cards of a list are the first ones with one number. -/
theorem Takes.unique {other : CardTemplate} {last : Nat} (takes : Takes values index template)
    (also : Takes values last other) (same : template.id = other.id) : index = last ∧ template = other := by
  rcases Nat.lt_trichotomy index last with less | rfl | more
  · exact absurd ⟨index, less, template, takes.1, same⟩ also.2
  · obtain ⟨value, stored, read⟩ := takes.1
    obtain ⟨_, again, given⟩ := also.1
    obtain rfl := Option.some.inj (stored.symm.trans again)
    exact ⟨rfl, Except.ok.inj (read.symm.trans given)⟩
  · exact absurd ⟨last, more, other, also.1, same.symm⟩ takes.2

/-- A card of the catalog is the first one that is read with its number. -/
theorem Partitions.get?_iff {load : CatalogLoad} (partitions : load.Partitions values) :
    load.catalog.get? card = some template ↔ template.id = card ∧ ∃ index, Takes values index template := by
  rw [← partitions.taken]
  constructor
  · intro known
    exact (mem_of_get? known).symm
  · rintro ⟨rfl, listed⟩
    have stored : load.catalog.contains template.id = true := contains_iff_mem.mpr ⟨template, listed, rfl⟩
    obtain ⟨other, known⟩ := Option.isSome_iff_exists.mp stored
    obtain ⟨there, same⟩ := mem_of_get? known
    obtain ⟨_, takes⟩ := (partitions.taken template).mp listed
    obtain ⟨_, also⟩ := (partitions.taken other).mp there
    rw [known, (takes.unique also same.symm).2]

/-- Every card of a list is taken or rejected, and none is both. -/
theorem Partitions.divided {load : CatalogLoad} (partitions : load.Partitions values)
    (inside : index < values.length) : (∃ template, Takes values index template) ↔
      ¬∃ rejected ∈ load.rejected, rejected.index = index := by
  constructor
  · rintro ⟨template, ⟨value, stored, read⟩, first⟩ ⟨rejected, listed, rfl⟩
    rcases (partitions.rejects rejected).mp listed with ⟨_, again, failed⟩ | ⟨other, ⟨_, again, given⟩, before, _⟩
    · obtain rfl := Option.some.inj (stored.symm.trans again)
      cases read.symm.trans failed
    · obtain rfl := Option.some.inj (stored.symm.trans again)
      obtain rfl := Except.ok.inj (read.symm.trans given)
      exact first before
  · intro kept
    have stored := List.getElem?_eq_getElem inside
    cases result : CardTemplate.read index values[index] with
    | error rejected =>
      obtain rfl := CardTemplate.index_rejected result
      exact absurd ⟨rejected, (partitions.rejects _).mpr (.inl ⟨_, stored, result⟩), rfl⟩ kept
    | ok template =>
      refine ⟨template, ⟨_, stored, result⟩, fun before => kept ⟨.duplicate template.id index, ?_, rfl⟩⟩
      exact (partitions.rejects _).mpr (.inr ⟨template, ⟨_, stored, result⟩, before, rfl⟩)

end CatalogLoad

/-! Cards that are rejected -/

/-- This is the rejection of the same card one place later. -/
def RejectedCard.later (rejected : RejectedCard) : RejectedCard := { rejected with index := rejected.index + 1 }

/-- A card that is taken is taken at the next place too. -/
theorem CardTemplate.read_succ_ok {index : Nat} {value : Json} {template : CardTemplate}
    (taken : read index value = .ok template) : read (index + 1) value = .ok template := by
  rw [read] at taken ⊢
  generalize (Located.root value).card.value? = given at taken ⊢
  generalize (Located.root value).card.issues = told at taken ⊢
  cases given <;> cases told <;> cases taken
  rfl

/-- A card that is rejected is rejected for the same reasons one place later. -/
theorem CardTemplate.read_succ_error {index : Nat} {value : Json} {rejected : RejectedCard}
    (failed : read index value = .error rejected) : read (index + 1) value = .error rejected.later := by
  rw [read] at failed ⊢
  generalize (Located.root value).card.value? = given at failed ⊢
  generalize (Located.root value).card.issues = told at failed ⊢
  cases given <;> cases told <;> cases failed <;> rfl

namespace CatalogLoad

/-- This is the result of reading the same cards one place later. -/
def later (load : CatalogLoad) : CatalogLoad := ⟨load.catalog, load.rejected.map RejectedCard.later⟩

/-- A card that comes one place later is added alike, with the places of the rejected ones moved. -/
theorem add_later (load : CatalogLoad) (index : Nat) (value : Json) :
    load.later.add (index + 1) value = (load.add index value).later := by
  rw [add, add]
  cases result : CardTemplate.read index value with
  | error rejected => simp [later, CardTemplate.read_succ_error result]
  | ok template =>
    by_cases stored : load.catalog.contains template.id = true <;>
      simp [later, CardTemplate.read_succ_ok result, stored, RejectedCard.later, RejectedCard.duplicate]

/-- Cards that come one place later are added alike. -/
theorem addAll_later (load : CatalogLoad) (index : Nat) (values : List Json) :
    load.later.addAll (index + 1) values = (load.addAll index values).later := by
  induction values generalizing load index with
  | nil => rfl
  | cons value rest ih => rw [addAll, addAll, add_later, ih]

/-- This is a result before which cards were rejected. -/
def rejectedBefore (rejected : List RejectedCard) (load : CatalogLoad) : CatalogLoad :=
  ⟨load.catalog, rejected ++ load.rejected⟩

/-- What was rejected before does not change how a card is added. -/
theorem add_rejectedBefore (rejected : List RejectedCard) (load : CatalogLoad) (index : Nat) (value : Json) :
    (load.rejectedBefore rejected).add index value = (load.add index value).rejectedBefore rejected := by
  rw [add, add]
  cases CardTemplate.read index value with
  | error failed => simp [rejectedBefore]
  | ok template =>
    by_cases stored : load.catalog.contains template.id = true <;> simp [rejectedBefore, stored]

/-- Cards that were rejected have no influence on those that follow. -/
theorem addAll_rejectedBefore (rejected : List RejectedCard) (load : CatalogLoad) (index : Nat)
    (values : List Json) :
    (load.rejectedBefore rejected).addAll index values = (load.addAll index values).rejectedBefore rejected := by
  induction values generalizing load index with
  | nil => rfl
  | cons value rest ih => rw [addAll, addAll, add_rejectedBefore, ih]

/-- A list of cards is added part by part. -/
theorem addAll_append (load : CatalogLoad) (index : Nat) (first second : List Json) :
    load.addAll index (first ++ second) = (load.addAll index first).addAll (index + first.length) second := by
  induction first generalizing load index with
  | nil => rfl
  | cons value rest ih =>
    rw [List.cons_append, addAll, addAll, ih, List.length_cons, Nat.add_assoc, Nat.add_comm 1]

/-- A card that is not read is rejected; apart from that it makes no difference but to the places of the others. -/
theorem ofList_broken (before after : List Json) {broken : Json} {rejected : RejectedCard}
    (failed : CardTemplate.read before.length broken = .error rejected) :
    ∃ first last, ofList (before ++ after) = ⟨(ofList (before ++ after)).catalog, first ++ last⟩ ∧
      (∀ other ∈ first, other.index < before.length) ∧
      ofList (before ++ broken :: after) =
        ⟨(ofList (before ++ after)).catalog, first ++ rejected :: last.map RejectedCard.later⟩ := by
  have start (rejections : List RejectedCard) : CatalogLoad.mk (ofList before).catalog rejections =
      rejectedBefore rejections ⟨(ofList before).catalog, []⟩ := by
    rw [rejectedBefore, List.append_nil]
  have without : ofList (before ++ after) = rejectedBefore (ofList before).rejected
      (addAll ⟨(ofList before).catalog, []⟩ before.length after) := by
    rw [ofList, addAll_append, ← addAll_rejectedBefore, ← start, Nat.zero_add]
    rfl
  have added : (ofList before).add before.length broken =
      rejectedBefore ((ofList before).rejected ++ [rejected]) ⟨(ofList before).catalog, []⟩ := by
    rw [add, failed, ← start]
  have along : ofList (before ++ broken :: after) = rejectedBefore ((ofList before).rejected ++ [rejected])
      (addAll ⟨(ofList before).catalog, []⟩ before.length after).later := by
    rw [ofList, addAll_append, Nat.zero_add, addAll, ← addAll_later, ← addAll_rejectedBefore]
    exact congrArg (addAll · (before.length + 1) after) added
  refine ⟨(ofList before).rejected, (addAll ⟨(ofList before).catalog, []⟩ before.length after).rejected,
    ?_, ?_, ?_⟩
  · rw [without]
    rfl
  · intro other member
    exact (((ofList_partitions before).rejects other).mp member).lt
  · rw [along, without, rejectedBefore, rejectedBefore, List.append_assoc]
    rfl

/--
A text with an array is read into a catalog and rejections that divide its cards. There are as many of both as
cards, the rejections are in order, and each card is either taken or rejected. The catalog has with each number the
first card that is read with it; a card is rejected for what is reported of it or, if it is read, for nothing but a
number that a card before it was read with. A card that is not read makes no difference to the others: without it
they are taken and rejected alike, those after it one place earlier.
-/
theorem parse_divides {text : String} (array : Json.parse? text = some (.array values)) :
    ∃ load, parse text = .ok load ∧
      load.catalog.size + load.rejected.length = values.length ∧
      (load.catalog.templates.map CardTemplate.id).Nodup ∧
      load.rejected.Pairwise (fun first second => first.index < second.index) ∧
      (∀ card template, load.catalog.get? card = some template ↔
        template.id = card ∧ ∃ index, Takes values index template) ∧
      (∀ rejected, rejected ∈ load.rejected ↔ Rejects values rejected) ∧
      (∀ index, index < values.length →
        ((∃ template, Takes values index template) ↔ ¬∃ rejected ∈ load.rejected, rejected.index = index)) ∧
      ∀ before broken after rejected, values = before ++ broken :: after →
        CardTemplate.read before.length broken = .error rejected →
        ∃ first last, (ofList (before ++ after)).rejected = first ++ last ∧
          (∀ other ∈ first, other.index < before.length) ∧
          load = ⟨(ofList (before ++ after)).catalog, first ++ rejected :: last.map RejectedCard.later⟩ := by
  have partitions := ofList_partitions values
  refine ⟨ofList values, by rw [parse, array], partitions.size, partitions.distinct, partitions.ordered,
    fun _ _ => partitions.get?_iff, partitions.rejects, fun _ inside => partitions.divided inside, ?_⟩
  rintro before broken after rejected rfl failed
  obtain ⟨first, last, without, earlier, along⟩ := ofList_broken before after failed
  exact ⟨first, last, congrArg CatalogLoad.rejected without, earlier, along⟩

/-- This is the text of a catalog of four spells with two numbers, the first of which has no name. -/
def acesText : String :=
  "[\x7b\"id\":1,\"kind\":\"spell\"\x7d,\x7b\"id\":1,\"kind\":\"spell\",\"name\":\"Ace\"\x7d," ++
  "\x7b\"id\":1,\"kind\":\"spell\",\"name\":\"Copy\"\x7d," ++
  "\x7b\"id\":2,\"kind\":\"spell\",\"name\":\"Deuce\"\x7d]"

/-- The nameless ace does not keep the first one with a name from being taken; its copy is rejected. -/
theorem aces_divide : ∃ values load, Json.parse? acesText = some (.array values) ∧
    parse acesText = .ok load ∧ load.catalog.templates.map CardTemplate.name = ["Ace", "Deuce"] ∧
    load.rejected.map (fun rejected => (rejected.index, rejected.issues)) =
      [(0, [⟨[], .missingField "name"⟩]), (2, [⟨[.key "id"], .duplicateId ⟨1⟩⟩])] ∧
    load.catalog.size + load.rejected.length = values.length := by
  have read : (parse acesText).toOption.any (fun load =>
      decide (load.catalog.templates.map CardTemplate.name = ["Ace", "Deuce"] ∧
        load.rejected.map (fun rejected => (rejected.index, rejected.issues)) =
          [(0, [⟨[], .missingField "name"⟩]), (2, [⟨[.key "id"], .duplicateId ⟨1⟩⟩])])) = true := by
    decide +kernel
  obtain ⟨load, parsed, facts⟩ := any_toOption_iff.mp read
  obtain ⟨values, array⟩ : ∃ values, Json.parse? acesText = some (.array values) := by
    rw [parse] at parsed
    split at parsed
    · cases parsed
    · next values array => exact ⟨values, array⟩
    · cases parsed
  obtain ⟨other, same, size, _⟩ := parse_divides array
  obtain rfl := Except.ok.inj (parsed.symm.trans same)
  exact ⟨values, load, array, parsed, (of_decide_eq_true facts).1, (of_decide_eq_true facts).2, size⟩

end CatalogLoad

end CardDuel
