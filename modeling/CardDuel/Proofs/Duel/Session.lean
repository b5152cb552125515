/-
This file follows a duel and the cache of its legal actions through everything that can be done with them. If
the cache is emptied after each return to a stored state, every lookup gives the actions of the present state.
-/

import CardDuel.Duel.Cache
import CardDuel.Duel.Snapshot
import CardDuel.Proofs.Duel.Version
import Mathlib.Data.List.Induction

namespace CardDuel

/-- This is something that is done with a duel and its cache. -/
inductive Call where
  /-- This asks something of the duel, which may refuse it. -/
  | serve (request : Request)
  | lookup (player : Seat)
  | invalidate
  /-- This goes back to a stored state, if the bytes hold one. -/
  | restore (bytes : List UInt8)
deriving DecidableEq

namespace Call

def isLookup : Call → Bool
  | lookup _ => true
  | _ => false

/-- This tells that after each return to a stored state the cache is emptied before the next lookup. -/
def Careful (calls : List Call) : Prop :=
  ∀ (early : List Call) (bytes : List UInt8) (between : List Call) (player : Seat) (late : List Call),
    calls = early ++ restore bytes :: (between ++ lookup player :: late) →
      (GameState.ofBytes? bytes).isSome → invalidate ∈ between

/-- This tells that the cache was emptied after each return to a stored state. -/
def Refreshed (calls : List Call) : Prop :=
  ∀ (early : List Call) (bytes : List UInt8) (late : List Call),
    calls = early ++ restore bytes :: late → (GameState.ofBytes? bytes).isSome → invalidate ∈ late

variable {calls : List Call}

/-- Careful calls have emptied the cache of stored states before each lookup. -/
theorem Careful.refreshed {early late : List Call} {player : Seat} (careful : Careful calls)
    (split : calls = early ++ lookup player :: late) : Refreshed early := by
  rintro before bytes between rfl stored
  exact careful before bytes between player late (by simp [split]) stored

/-- A last call that does not empty the cache leaves earlier returns as they were. -/
theorem Refreshed.init {call : Call} (refreshed : Refreshed (calls ++ [call]))
    (other : call ≠ invalidate) : Refreshed calls := by
  rintro early bytes late rfl stored
  have member : invalidate ∈ late ++ [call] :=
    refreshed early bytes (late ++ [call]) (by simp) stored
  apply (List.mem_append.mp member).resolve_right
  intro last
  exact other (List.mem_singleton.mp last).symm

end Call

/-- This is a duel with the cache of its legal actions. -/
structure Session where
  duel : Duel
  cache : LegalActionCache
  /-- This counts the requests that were served since the cache was last emptied. -/
  served : Nat

namespace Session

def start (duel : Duel) : Session := ⟨duel, .empty, 0⟩

/-- This makes a call. What is refused changes nothing. -/
def call (session : Session) : Call → Session
  | .serve request =>
    match session.duel.serve request with
    | .ok (_, next) => { session with duel := next, served := session.served + 1 }
    | .error _ => session
  | .lookup player => { session with cache := (session.cache.lookup session.duel player).2 }
  | .invalidate => { session with cache := session.cache.invalidate, served := 0 }
  | .restore bytes => { session with duel := (session.duel.restore? bytes).getD session.duel }

def after (session : Session) (calls : List Call) : Session := calls.foldl call session

/-- This is the list that a lookup gives now. -/
def answer (session : Session) (player : Seat) : List Action :=
  (session.cache.lookup session.duel player).1

theorem after_concat (session : Session) (calls : List Call) (last : Call) :
    session.after (calls ++ [last]) = (session.after calls).call last := by
  simp [after]

/--
This tells that every stored list is that of a state since which a number of requests was served, and that it
is still the present list if that number is zero.
-/
def Timely (session : Session) : Prop :=
  ∀ player version actions, session.cache.entries.get player = some (version, actions) →
    ∃ passed ≤ session.served, session.duel.state.version = version + .ofNat passed ∧
      (passed = 0 → actions = session.duel.legalActions player)

variable {session : Session}

/-- Nothing is stored in an empty cache. -/
theorem timely_of_empty (empty : session.cache.entries = .replicate none) : session.Timely := by
  intro player version actions stored
  rw [empty, PerSeat.get_replicate] at stored
  cases stored

theorem stored?_eq_some {cache : LegalActionCache} {version : UInt64} {player : Seat}
    {actions : List Action} : cache.stored? version player = some actions ↔
      cache.entries.get player = some (version, actions) := by
  rw [LegalActionCache.stored?, Option.bind_eq_some_iff]
  constructor
  · rintro ⟨⟨stamp, list⟩, stored, given⟩
    obtain ⟨rfl, same⟩ := Option.ite_none_right_eq_some.mp given
    obtain rfl := Option.some.inj same
    exact stored
  · exact fun stored => ⟨_, stored, by simp⟩

/-- The version comes round only after as many requests as there are versions. -/
theorem Timely.answer_eq (timely : session.Timely) (player : Seat) :
    session.answer player = session.duel.legalActions player ∨ UInt64.size ≤ session.served := by
  rw [answer, LegalActionCache.lookup]
  split
  · next actions stored =>
    obtain ⟨passed, within, version, present⟩ :=
      timely player _ actions (stored?_eq_some.mp stored)
    have round : passed % UInt64.size = 0 := by
      have none : UInt64.ofNat passed = 0 := by simpa using version
      simpa [UInt64.toNat_ofNat'] using congrArg UInt64.toNat none
    rcases Nat.eq_zero_or_pos passed with zero | some
    · exact .inl (present zero)
    · exact .inr (Nat.le_trans (Nat.le_of_dvd some (Nat.dvd_of_mod_eq_zero round)) within)
  · exact .inl rfl

/-- Whatever is done but a return to a stored state keeps the cache timely. -/
theorem Timely.call (timely : session.Timely) {call : Call}
    (other : ∀ bytes, call = .restore bytes → GameState.ofBytes? bytes = none) :
    (session.call call).Timely := by
  cases call with
  | serve request =>
    rw [Session.call]
    split
    · next report next served =>
      intro player version actions stored
      obtain ⟨passed, within, stamp, _⟩ := timely player version actions stored
      refine ⟨passed + 1, Nat.succ_le_succ within, ?_, fun none => by cases none⟩
      rw [(Duel.serve_version served).1, stamp, UInt64.ofNat_add, UInt64.add_assoc]
      rfl
    · exact timely
  | lookup player =>
    rw [Session.call, LegalActionCache.lookup]
    split
    · exact timely
    · intro seat version actions stored
      rw [PerSeat.get_set] at stored
      split at stored
      · next same =>
        obtain ⟨rfl, rfl⟩ := Prod.mk.inj (Option.some.inj stored)
        exact ⟨0, Nat.zero_le _, by simp, fun _ => by rw [same]⟩
      · exact timely seat version actions stored
  | invalidate => exact timely_of_empty rfl
  | restore bytes =>
    have same : session.call (.restore bytes) = session := by
      rw [Session.call, Duel.restore?, other bytes rfl]
      rfl
    rw [same]
    exact timely

/-- The cache is timely whenever it was emptied after each return to a stored state. -/
theorem start_timely (duel : Duel) {calls : List Call} (refreshed : Call.Refreshed calls) :
    ((start duel).after calls).Timely := by
  induction calls using List.reverseRecOn with
  | nil => exact timely_of_empty rfl
  | append_singleton calls last ih =>
    rw [after_concat]
    by_cases emptied : last = .invalidate
    · rw [emptied]
      exact timely_of_empty rfl
    · apply (ih (refreshed.init emptied)).call
      intro bytes returned
      by_contra stored
      have member := refreshed calls bytes [] (by rw [returned]) (Option.isSome_iff_ne_none.mpr stored)
      cases member

/-- This tells that the cache has counted a number of lookups, each of them as a hit or as a miss. -/
def Counted (session : Session) (lookups : Nat) : Prop :=
  ∃ hits misses, session.cache.hits = .ofNat hits ∧ session.cache.misses = .ofNat misses ∧
    hits + misses = lookups

/-- Every lookup is a hit or a miss. -/
theorem Counted.call {lookups : Nat} (counted : session.Counted lookups) (call : Call) :
    (session.call call).Counted (lookups + if call.isLookup then 1 else 0) := by
  cases call with
  | serve request =>
    rw [Session.call]
    split
    · exact counted
    · exact counted
  | lookup player =>
    obtain ⟨hits, misses, hit, missed, rfl⟩ := counted
    rw [Session.call, LegalActionCache.lookup]
    split
    · refine ⟨hits + 1, misses, ?_, missed, Nat.add_right_comm hits 1 misses⟩
      rw [hit, UInt64.ofNat_add]
      rfl
    · refine ⟨hits, misses + 1, hit, ?_, rfl⟩
      rw [missed, UInt64.ofNat_add]
      rfl
  | invalidate => exact counted
  | restore bytes => exact counted

/-- Each lookup is counted once, as a hit or as a miss. -/
theorem start_counted (duel : Duel) (calls : List Call) :
    ((start duel).after calls).Counted (calls.countP Call.isLookup) := by
  induction calls using List.reverseRecOn with
  | nil => exact ⟨0, 0, rfl, rfl, rfl⟩
  | append_singleton calls last ih =>
    rw [after_concat, List.countP_append, List.countP_singleton]
    exact ih.call last

/-- The counts add up to the lookups until these are more than a count can hold. -/
theorem Counted.sum_eq {lookups : Nat} (counted : session.Counted lookups) :
    session.cache.hits.toNat + session.cache.misses.toNat = lookups ∨ UInt64.size ≤ lookups := by
  obtain ⟨hits, misses, hit, missed, rfl⟩ := counted
  rw [hit, missed]
  by_cases few : hits + misses < UInt64.size
  · left
    rw [UInt64.toNat_ofNat_of_lt' (Nat.lt_of_le_of_lt (Nat.le_add_right ..) few),
      UInt64.toNat_ofNat_of_lt' (Nat.lt_of_le_of_lt (Nat.le_add_left ..) few)]
  · exact .inr (Nat.le_of_not_lt few)

/-- A request that is served adds one to the version, and one that is refused changes nothing. -/
theorem call_serve (session : Session) (request : Request) :
    match session.duel.serve request with
    | .ok (report, next) => (session.call (.serve request)).duel = next ∧
        next.state.version = session.duel.state.version + 1 ∧ report.version = next.state.version
    | .error _ => session.call (.serve request) = session := by
  rw [Session.call]
  split
  · next served => exact ⟨rfl, Duel.serve_version served⟩
  · rfl

/--
Take a duel in any state with an unused cache, and any sequence of calls in which the cache is emptied after
each return to a stored state. Every lookup gives exactly the legal actions of the state at that time, unless
the version has come round, for which there are as many requests served since the cache was emptied as there
are versions. Every request that is served adds one to the version, every other one changes nothing, and hits
and misses add up to the lookups, unless there are as many lookups as a count has values.
-/
theorem lookups_exact (duel : Duel) {calls : List Call} (careful : Call.Careful calls) :
    (∀ early player late, calls = early ++ .lookup player :: late →
      ((start duel).after early).answer player =
          ((start duel).after early).duel.legalActions player ∨
        UInt64.size ≤ ((start duel).after early).served) ∧
    (∀ early request late, calls = early ++ .serve request :: late →
      match ((start duel).after early).duel.serve request with
      | .ok (report, next) =>
        (((start duel).after early).call (.serve request)).duel = next ∧
          next.state.version = ((start duel).after early).duel.state.version + 1 ∧
          report.version = next.state.version
      | .error _ => ((start duel).after early).call (.serve request) = (start duel).after early) ∧
    (((start duel).after calls).cache.hits.toNat + ((start duel).after calls).cache.misses.toNat =
        calls.countP Call.isLookup ∨
      UInt64.size ≤ calls.countP Call.isLookup) := by
  refine ⟨?_, ?_, ?_⟩
  · intro early player late split
    exact (start_timely duel (careful.refreshed split)).answer_eq player
  · intro early request late split
    exact call_serve _ request
  · exact (start_counted duel calls).sum_eq

/-- These calls begin a duel, of which the first request is refused, and go back to its beginning. -/
def returning (duel : Duel) : List Call :=
  [.lookup .first, .serve (.act .second .endTurn), .lookup .first, .serve (.act .first .endTurn),
    .restore duel.snapshot, .invalidate, .lookup .first]

theorem careful_returning (duel : Duel) : Call.Careful (returning duel) := by
  intro early bytes between player late split _
  obtain ⟨-, -, rest⟩ : early = (returning duel).take 4 ∧ bytes = duel.snapshot ∧
      between ++ .lookup player :: late = [.invalidate, .lookup .first] := by
    simpa [returning, List.cons_eq_append_iff] using split
  cases between with
  | nil => cases rest
  | cons head _ =>
    obtain rfl : head = .invalidate := (List.cons.inj rest).1
    exact List.mem_cons_self ..

/-- Back at the beginning of a duel of sentries, a lookup gives what can be done then. -/
theorem sentries_lookups_exact :
    ∃ duel, DuelSetup.sentries.build = .ok duel ∧ Call.Careful (returning duel) ∧
      ((start duel).after ((returning duel).take 6)).answer .first = duel.legalActions .first ∧
      duel.legalActions .first ≠ [] ∧
      ((start duel).after (returning duel)).cache.hits = 1 ∧
      ((start duel).after (returning duel)).cache.misses = 2 := by
  have built : DuelSetup.sentries.build.toOption.any (fun duel =>
      decide (duel.legalActions .first ≠ [] ∧
        ((start duel).after ((returning duel).take 6)).duel.legalActions .first =
          duel.legalActions .first ∧
        ((start duel).after (returning duel)).cache.hits = 1)) = true := by
    decide +kernel
  obtain ⟨duel, given, facts⟩ := (Option.any_eq_true _ _).mp built
  obtain ⟨some, back, hits⟩ := of_decide_eq_true facts
  obtain ⟨exact, _, counts⟩ := lookups_exact duel (careful_returning duel)
  have counted : (returning duel).countP Call.isLookup = 3 := rfl
  have sum := counts.resolve_right (by rw [counted]; decide)
  rw [counted, hits] at sum
  have missed : ((start duel).after (returning duel)).cache.misses = 2 :=
    UInt64.toNat_inj.mp (Nat.add_left_cancel sum)
  refine ⟨duel, toOption_eq_some.mp given, careful_returning duel, ?_, some, hits, missed⟩
  rcases exact ((returning duel).take 6) .first [] rfl with same | many
  · exact same.trans back
  · have emptied : ((start duel).after ((returning duel).take 6)).served = 0 := rfl
    rw [emptied] at many
    exact absurd many (by decide)

end Session

end CardDuel
