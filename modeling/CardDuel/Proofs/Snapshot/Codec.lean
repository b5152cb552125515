/-
This file shows that codecs read exactly what they write. What a codec reads from the front of some bytes is a
value that the format can hold, and the bytes before the rest are those that the codec writes for this value.
-/

import CardDuel.Snapshot.Codec
import Mathlib.Data.List.Nodup
import Mathlib.Data.Nat.Digits.Defs

namespace CardDuel

namespace Codec

variable {α β : Type} {codec : Codec α} {fits : α → Prop}

/--
This tells that a codec reads a value from bytes if and only if the value fits into the format and the bytes
begin with what the codec writes for it.
-/
def Exact (codec : Codec α) (fits : α → Prop) : Prop :=
  ∀ bytes value rest,
    codec.decode bytes = some (value, rest) ↔ fits value ∧ bytes = codec.encode value ++ rest

namespace Exact

theorem congr {other : α → Prop} (exact : codec.Exact fits)
    (same : ∀ value, fits value ↔ other value) : codec.Exact other := by
  intro bytes value rest
  rw [exact, same]

/-- Values are read as they were written, and what follows them is left. -/
theorem decode_encode (exact : codec.Exact fits) {value : α} (suited : fits value)
    (rest : List UInt8) : codec.decode (codec.encode value ++ rest) = some (value, rest) :=
  (exact _ value rest).mpr ⟨suited, rfl⟩

end Exact

theorem byte_exact : byte.Exact fun _ => True := by
  intro bytes value rest
  cases bytes with
  | nil => simp [byte]
  | cons head tail => simp [byte]

/-- A codec can be refined to what packs. -/
theorem refine_exact (exact : codec.Exact fits) {pack : α → Option β} {unpack : β → α}
    (packs : ∀ content value, fits content → (pack content = some value ↔ unpack value = content)) :
    (codec.refine pack unpack).Exact fun value => fits (unpack value) := by
  intro bytes value rest
  simp only [refine, bind, pure, Option.bind_eq_some_iff, Option.some.injEq, Prod.mk.injEq,
    Prod.exists, exact _ _ _]
  constructor
  · rintro ⟨content, left, ⟨suited, rfl⟩, other, packed, rfl, rfl⟩
    obtain rfl := (packs content other suited).mp packed
    exact ⟨suited, rfl⟩
  · rintro ⟨suited, rfl⟩
    exact ⟨unpack value, rest, ⟨suited, rfl⟩, value, (packs _ value suited).mpr rfl, rfl, rfl⟩

theorem map_exact (exact : codec.Exact fits) {pack : α → β} {unpack : β → α}
    (packs : ∀ content value, fits content → (pack content = value ↔ unpack value = content)) :
    (codec.map pack unpack).Exact fun value => fits (unpack value) := by
  intro bytes value rest
  simp only [map, Option.map_eq_some_iff, Prod.mk.injEq, Prod.exists, exact _ _ _]
  constructor
  · rintro ⟨content, left, ⟨suited, rfl⟩, packed, rfl⟩
    obtain rfl := (packs content value suited).mp packed
    exact ⟨suited, rfl⟩
  · rintro ⟨suited, rfl⟩
    exact ⟨unpack value, rest, ⟨suited, rfl⟩, (packs _ value suited).mpr rfl, rfl⟩

/-- A record is written as the tuple of its fields. -/
theorem record_exact (exact : codec.Exact fits) {pack : α → β} {unpack : β → α}
    (packed : ∀ value, pack (unpack value) = value) (unpacked : ∀ content, unpack (pack content) = content) :
    (codec.map pack unpack).Exact fun value => fits (unpack value) :=
  map_exact exact fun content value _ =>
    ⟨fun same => same ▸ unpacked content, fun same => same ▸ packed value⟩

/-- The codec of a pair is exact if both parts are. -/
theorem pair_exact {second : Codec β} {suits : β → Prop} (left : codec.Exact fits)
    (right : second.Exact suits) :
    (codec.pair second).Exact fun value => fits value.1 ∧ suits value.2 := by
  rintro bytes ⟨first, last⟩ rest
  simp only [pair, bind, pure, Option.bind_eq_some_iff, Option.some.injEq, Prod.mk.injEq,
    Prod.exists, left _ _ _, right _ _ _]
  constructor
  · rintro ⟨_, _, ⟨suited, rfl⟩, _, _, ⟨suitedToo, rfl⟩, ⟨rfl, rfl⟩, rfl⟩
    exact ⟨⟨suited, suitedToo⟩, by rw [List.append_assoc]⟩
  · rintro ⟨⟨suited, suitedToo⟩, rfl⟩
    exact ⟨first, second.encode last ++ rest, ⟨suited, by rw [List.append_assoc]⟩, last, rest,
      ⟨suitedToo, rfl⟩, ⟨rfl, rfl⟩, rfl⟩

/-! Numbers -/

/-- Digits are read back as they are written, and nothing else is read. -/
theorem readDigits_eq_some_iff {width : Nat} {bytes rest : List UInt8} {value : Nat} :
    readDigits width bytes = some (value, rest) ↔
      value < 256 ^ width ∧ bytes = digits width value ++ rest := by
  induction width generalizing bytes value rest with
  | zero => simp [readDigits, digits, eq_comm]
  | succ width ih =>
    cases bytes with
    | nil => simp [readDigits, digits]
    | cons low tail =>
      simp only [readDigits, digits, bind, pure, Option.bind_eq_some_iff, Option.some.injEq,
        Prod.mk.injEq, Prod.exists, ih, List.cons_append, List.cons.injEq, Nat.pow_succ]
      have bound := low.toNat_lt
      constructor
      · rintro ⟨high, _, ⟨small, rfl⟩, rfl, rfl⟩
        have upper : (low.toNat + 256 * high) / 256 = high := by omega
        have lower : (low.toNat + 256 * high).toUInt8 = low := by
          apply UInt8.toNat_inj.mp
          simp
        exact ⟨by omega, lower.symm, by rw [upper]⟩
      · rintro ⟨small, rfl, rfl⟩
        refine ⟨value / 256, rest, ⟨by omega, rfl⟩, ?_, rfl⟩
        simp
        omega

theorem number_exact (width : Nat) : (number width).Exact (· < 256 ^ width) :=
  fun _ _ _ => readDigits_eq_some_iff

theorem word32_exact : word32.Exact fun _ => True := by
  refine (map_exact (number_exact 4) ?_).congr ?_
  · intro content value small
    constructor
    · rintro rfl
      simpa using Nat.mod_eq_of_lt small
    · rintro rfl
      simp
  · intro value
    simpa using value.toNat_lt

theorem word64_exact : word64.Exact fun _ => True := by
  refine (map_exact (number_exact 8) ?_).congr ?_
  · intro content value small
    constructor
    · rintro rfl
      simpa using Nat.mod_eq_of_lt small
    · rintro rfl
      simp
  · intro value
    simpa using value.toNat_lt

theorem signed32_exact : signed32.Exact fun _ => True :=
  record_exact word32_exact (fun value => by simp) fun content => by simp

theorem size_exact : size.Exact (· < UInt64.size) := number_exact 8

theorem bool_exact : bool.Exact fun _ => True := by
  apply refine_exact byte_exact
  intro tag value _
  by_cases zero : tag = 0
  · subst zero
    cases value <;> simp [Bool.toUInt8]
  · by_cases one : tag = 1
    · subst one
      cases value <;> simp [Bool.toUInt8]
    · cases value <;> simp [Bool.toUInt8, zero, one, Ne.symm zero, Ne.symm one]

/-! Lists and texts -/

/-- The codec of an optional value is exact if its content is. -/
theorem option_exact (exact : codec.Exact fits) :
    codec.option.Exact fun content => ∀ value ∈ content, fits value := by
  intro bytes content rest
  simp only [option, bind, pure, Option.bind_eq_some_iff, Prod.exists, bool_exact _ _ _, true_and]
  constructor
  · rintro ⟨present, tail, rfl, read⟩
    cases present with
    | false =>
      obtain ⟨rfl, rfl⟩ := by simpa using read
      simp [bool, byte, refine, Bool.toUInt8]
    | true =>
      simp only [if_true, Option.bind_eq_some_iff, Prod.exists, exact _ _ _, Option.some.injEq,
        Prod.mk.injEq] at read
      obtain ⟨value, _, ⟨suited, rfl⟩, rfl, rfl⟩ := read
      simpa [bool, byte, refine, Bool.toUInt8] using suited
  · rintro ⟨suited, rfl⟩
    cases content with
    | none => exact ⟨false, rest, rfl, rfl⟩
    | some value =>
      refine ⟨true, codec.encode value ++ rest, rfl, ?_⟩
      simp [exact.decode_encode (suited value rfl)]

/-- Items are read back one after the other. -/
theorem readMany_eq_some_iff (exact : codec.Exact fits) {count : Nat} {bytes rest : List UInt8}
    {values : List α} :
    codec.readMany count bytes = some (values, rest) ↔
      values.length = count ∧ (∀ value ∈ values, fits value) ∧
        bytes = values.flatMap codec.encode ++ rest := by
  -- Each item takes exactly its own bytes, so what it leaves is read by the items after it.
  induction count generalizing bytes values rest with
  | zero =>
    simp only [readMany, Option.some.injEq, Prod.mk.injEq, List.length_eq_zero_iff]
    constructor
    · rintro ⟨rfl, rfl⟩
      simp
    · rintro ⟨rfl, _, rfl⟩
      simp
  | succ count ih =>
    simp only [readMany, bind, pure, Option.bind_eq_some_iff, Option.some.injEq, Prod.mk.injEq,
      Prod.exists, exact _ _ _, ih]
    constructor
    · rintro ⟨value, _, ⟨suited, rfl⟩, others, _, ⟨rfl, all, rfl⟩, rfl, rfl⟩
      exact ⟨rfl, List.forall_mem_cons.mpr ⟨suited, all⟩, by simp⟩
    · rintro ⟨counted, all, rfl⟩
      cases values with
      | nil => simp at counted
      | cons value others =>
        obtain ⟨suited, all⟩ := List.forall_mem_cons.mp all
        exact ⟨value, others.flatMap codec.encode ++ rest, ⟨suited, by simp⟩, others, rest,
          ⟨by simpa using counted, all, rfl⟩, rfl, rfl⟩

/-- This tells that the length of a list has 64 bits and that all of its values fit. -/
def FitsAll (fits : α → Prop) (values : List α) : Prop :=
  values.length < UInt64.size ∧ ∀ value ∈ values, fits value

theorem fitsAll_true {values : List α} :
    FitsAll (fun _ => True) values ↔ values.length < UInt64.size := by
  simp [FitsAll]

/-- The codec of a list is exact if its items are, as long as its length fits. -/
theorem list_exact (exact : codec.Exact fits) : codec.list.Exact (FitsAll fits) := by
  intro bytes values rest
  simp only [list, bind, Option.bind_eq_some_iff, Prod.exists, size_exact _ _ _,
    readMany_eq_some_iff exact]
  constructor
  · rintro ⟨_, _, ⟨small, rfl⟩, rfl, all, rfl⟩
    exact ⟨⟨small, all⟩, by rw [List.append_assoc]⟩
  · rintro ⟨⟨small, all⟩, rfl⟩
    exact ⟨values.length, values.flatMap codec.encode ++ rest, ⟨small, by rw [List.append_assoc]⟩, rfl,
      all, rfl⟩

theorem toList_loop (bytes : ByteArray) (place : Nat) (taken : List UInt8) :
    ByteArray.toList.loop bytes place taken = taken.reverse ++ bytes.data.toList.drop place := by
  fun_induction ByteArray.toList.loop bytes place taken with
  | case1 place taken inside ih =>
    have within : place < bytes.data.toList.length := inside
    have there : bytes.get! place = bytes.data.toList[place] := by
      simp [ByteArray.get!, getElem!_pos bytes.data place inside]
    rw [ih, there, List.reverse_cons, List.append_assoc, List.singleton_append,
      List.getElem_cons_drop]
  | case2 place taken outside =>
    have past : bytes.data.toList.length ≤ place := Nat.le_of_not_lt outside
    rw [List.drop_eq_nil_of_le past, List.append_nil]

theorem toList_bytes (bytes : ByteArray) : bytes.toList = bytes.data.toList :=
  (toList_loop bytes 0 []).trans (by simp)

theorem text_exact : text.Exact fun text => text.utf8ByteSize < UInt64.size := by
  refine (refine_exact (list_exact byte_exact) ?_).congr ?_
  · intro content value _
    rw [String.fromUTF8?, toList_bytes]
    constructor
    · intro read
      split at read
      · obtain rfl := Option.some.inj read
        rfl
      · simp at read
    · rintro rfl
      exact dif_pos value.isValidUTF8
  · intro value
    simp [toList_bytes, fitsAll_true]

/-- The codec of a finite sort is exact if all its values are listed once. -/
theorem oneOf_exact [DecidableEq α] {values : List α} (distinct : values.Nodup)
    (complete : ∀ value, value ∈ values) (few : values.length < 256 ^ 4) :
    (oneOf values).Exact fun _ => True := by
  refine (refine_exact (number_exact 4) ?_).congr ?_
  · intro place value _
    constructor
    · intro found
      obtain ⟨inside, rfl⟩ := List.getElem?_eq_some_iff.mp found
      exact List.Nodup.idxOf_getElem distinct place inside
    · rintro rfl
      exact List.getElem?_idxOf (complete value)
  · intro value
    simpa using Nat.lt_trans (List.idxOf_lt_length_iff.mpr (complete value)) few

/-! Alternatives -/

namespace Case

variable {tag : α → Nat} {place : Nat} {alternative : Case α} {cases : List (Case α)}

/--
This tells that an alternative is the one for the values with a place: it writes these and no others, and
it reads exactly what it writes.
-/
structure Exact (tag : α → Nat) (fits : α → Prop) (place : Nat) (alternative : Case α) : Prop where
  writes : ∀ value, (alternative.encode? value).isSome = true ↔ tag value = place
  reads : ∀ bytes value rest, alternative.decode bytes = some (value, rest) ↔
    fits value ∧ ∃ content, alternative.encode? value = some content ∧ bytes = content ++ rest

/-- This tells that alternatives, one after the other, are those for the values with places from one on. -/
inductive AllExact (tag : α → Nat) (fits : α → Prop) : Nat → List (Case α) → Prop where
  | nil {place : Nat} : AllExact tag fits place []
  | cons {place : Nat} {alternative : Case α} {cases : List (Case α)}
      (exact : alternative.Exact tag fits place) (others : AllExact tag fits (place + 1) cases) :
      AllExact tag fits place (alternative :: cases)

namespace AllExact

theorem append {more : List (Case α)} (exact : AllExact tag fits place cases)
    (others : AllExact tag fits (place + cases.length) more) :
    AllExact tag fits place (cases ++ more) := by
  induction exact with
  | nil => exact others
  | cons exact _ ih =>
    refine .cons exact (ih ?_)
    rwa [List.length_cons, Nat.add_comm _ 1, ← Nat.add_assoc] at others

theorem at_place (exact : AllExact tag fits place cases) {offset : Nat}
    (there : cases[offset]? = some alternative) :
    alternative.Exact tag fits (place + offset) := by
  induction exact generalizing offset with
  | nil => simp at there
  | cons exact _ ih =>
    cases offset with
    | zero =>
      obtain rfl := Option.some.inj there
      exact exact
    | succ offset =>
      rw [← Nat.add_assoc, Nat.add_right_comm]
      exact ih there

/-- A value is written by the alternative for its place. -/
theorem findCase?_eq (exact : AllExact tag fits place cases) {value : α} {content : List UInt8}
    {offset : Nat} (there : cases[offset]? = some alternative)
    (written : alternative.encode? value = some content) :
    findCase? value cases place = some (place + offset, content) := by
  induction exact generalizing offset with
  | nil => simp at there
  | @cons place head others exact rest ih =>
    have placed := ((AllExact.cons exact rest).at_place there).writes value
    rw [written, Option.isSome_some] at placed
    cases offset with
    | zero =>
      obtain rfl := Option.some.inj there
      rw [findCase?, written]
      rfl
    | succ offset =>
      have silent : head.encode? value = none := by
        rw [← Option.not_isSome_iff_eq_none, exact.writes value, placed.mp rfl]
        omega
      rw [findCase?, silent]
      simp only
      rw [ih there]
      congr 2
      omega

end AllExact

end Case

open Case

/-- A choice is exact if each of its cases is. -/
theorem choice_exact (tag : α → Nat) {cases : List (Case α)} (exact : AllExact tag fits 0 cases)
    (complete : ∀ value, tag value < cases.length) (few : cases.length < 256 ^ 4) :
    (choice cases).Exact fits := by
  intro bytes value rest
  simp only [choice, bind, Option.bind_eq_some_iff, Prod.exists, number_exact 4 _ _ _]
  constructor
  · rintro ⟨place, _, ⟨_, rfl⟩, alternative, there, read⟩
    obtain ⟨suited, content, written, rfl⟩ := ((exact.at_place there).reads _ _ _).mp read
    rw [exact.findCase?_eq there written, Nat.zero_add, List.append_assoc]
    exact ⟨suited, rfl⟩
  · rintro ⟨suited, rfl⟩
    have there := List.getElem?_eq_getElem (complete value)
    have alternative := exact.at_place there
    obtain ⟨content, written⟩ := Option.isSome_iff_exists.mp
      ((alternative.writes value).mpr (Nat.zero_add _).symm)
    rw [exact.findCase?_eq there written]
    exact ⟨tag value, content ++ rest,
      ⟨Nat.lt_trans (complete value) few, by rw [Nat.zero_add, List.append_assoc]⟩, _, there,
      (alternative.reads _ _ _).mpr ⟨suited, content, written, rfl⟩⟩

/-- An alternative with a content is exact if it takes apart what it builds. -/
theorem case_exact {tag : α → Nat} {place : Nat} {content : Codec β} {suits : β → Prop}
    {build : β → α} {content? : α → Option β} (exact : content.Exact suits)
    (built : ∀ value, (content? value).map build = if tag value = place then some value else none)
    (taken : ∀ value, content? (build value) = some value)
    (same : ∀ value, fits (build value) ↔ suits value) :
    (case content build content?).Exact tag fits place := by
  constructor
  · intro value
    have part := congrArg Option.isSome (built value)
    rw [Option.isSome_map] at part
    simp only [case, Option.isSome_map, part]
    split <;> simp_all
  · intro bytes value rest
    simp only [case, Option.map_eq_some_iff, Prod.mk.injEq, Prod.exists, exact _ _ _]
    constructor
    · rintro ⟨part, _, ⟨suited, rfl⟩, rfl, rfl⟩
      exact ⟨(same part).mpr suited, content.encode part, ⟨part, taken part, rfl⟩, rfl⟩
    · rintro ⟨suited, _, ⟨part, held, rfl⟩, rfl⟩
      have whole := built value
      rw [held, Option.map_some] at whole
      split at whole
      · obtain rfl := Option.some.inj whole
        exact ⟨part, rest, ⟨(same part).mp suited, rfl⟩, rfl, rfl⟩
      · simp at whole

theorem constant_exact [DecidableEq α] {tag : α → Nat} {place : Nat} {value : α}
    (placed : ∀ other, other = value ↔ tag other = place) (suited : fits value) :
    (constant value).Exact tag fits place := by
  constructor
  · intro other
    rw [← placed other]
    by_cases same : other = value <;> simp [constant, same]
  · intro bytes other rest
    simp only [constant, Option.some.injEq, Prod.mk.injEq]
    constructor
    · rintro ⟨rfl, rfl⟩
      exact ⟨suited, [], by simp⟩
    · rintro ⟨_, content, written, rfl⟩
      split at written
      · next same =>
        obtain rfl := Option.some.inj written
        exact ⟨same.symm, rfl⟩
      · simp at written

end Codec

end CardDuel
