import SessionLedger.Proofs.Store.Distinct
import SessionLedger.Proofs.Store.Timed
import SessionLedger.Proofs.World.Exchanges

/-! The key-value store is a timed map. It keeps dead entries, which a lookup or a removal drops at
one time or another, and it knows no history; but no answer tells the difference. Whatever happens
to a store that was empty, it answers as the timed map does to which the same happens. -/
namespace SessionLedger
open Session Store

namespace World
variable {w w' : World} {t : Timed} {key : String}

/-- A call to the key-value store is answered if the answer takes no longer than a limit that it may
have, and given up at the limit otherwise. -/
theorem settle_store_limit (w : World) (c : Store.Call) (limit : Option Nat) :
    w.settle none (.remote (.store c) limit) =
      if limit.all (w.store.latency ≤ ·) then
        (((w.advance w.store.latency).answerRemote (.store c)).1,
          some (some ((w.advance w.store.latency).answerRemote (.store c)).2))
      else (w.advance (limit.getD 0), some none) := by
  cases limit with
  | some limit => simpa using w.settle_store c limit
  | none =>
    have hawait : w.await (.store c) none none = (w.advance w.store.latency, .answered) := by
      have hlatency : w.latency (.store c) = w.store.latency := rfl
      by_cases hzero : w.store.latency = 0
      · simp [await, hlatency, hzero, advance]
      · simp [await, hlatency, hzero, arrival, notAfter, advanceTo_eq]
    simp [settle, hawait]

/-- Carries out an act on the store of some surroundings, where nothing else is going on. -/
def act (w : World) : (a : Act) → World × a.Answer
  | .call c limit => match w.settle none (.remote (.store c) limit) with
    | (w', reply) => (w', reply.getD none)
  | .contains key => (w, w.store.contains w.clock key)
  | .peek key => (w, w.store.peek? w.clock key)
  | .remaining key => (w, w.store.remaining? w.clock key)
  | .liveKeys start => (w, w.store.liveKeys w.clock start)
  | .advance millis => (w.advance millis, ())
  | .setAvailable isAvailable => ({ w with store := { w.store with isAvailable } }, ())
  | .setLatency latency => ({ w with store := { w.store with latency } }, ())
  | .failSets failingPrefix => ({ w with store := { w.store with failingPrefix } }, ())
  | .failDeletes deletesFail => ({ w with store := { w.store with deletesFail } }, ())

end World

/-- The entry of a value that has been kept. -/
def Store.Stay.entry (x : Stay) : Entry :=
  ⟨x.value, State.expiryAt x.since x.lifetime⟩

theorem Store.Stay.isLive_entry (x : Stay) (now : Nat) : x.entry.isLive now = x.isLive now := by
  rw [Bool.eq_iff_iff, Stay.entry, State.isLive_expiryAt_iff, Stay.isLive, Bool.or_eq_true,
    decide_eq_true_eq, decide_eq_true_eq]

theorem Store.Stay.filter_map_entry (o : Option Stay) (now : Nat) :
    (o.map entry).filter (·.isLive now) = (o.filter (·.isLive now)).map entry := by
  cases o with
  | none => rfl
  | some x => by_cases hlive : x.isLive now = true <;> simp [Option.filter, isLive_entry, hlive]

/-- A store without entries that has the faults of a timed map. -/
def Store.Timed.faults (t : Timed) : State where
  isAvailable := t.isAvailable
  latency := t.latency
  failingPrefix := t.failingPrefix
  deletesFail := t.deletesFail

namespace World
variable {w w' : World} {t : Timed} {key : String}

/-- The store of some surroundings stands for a timed map: they have the same time and the same
faults, and now and later the store has the live entries that the history of the map tells. -/
structure Refines (w : World) (t : Timed) : Prop where
  clock : w.clock = t.clock
  faults : { w.store with entries := [] } = t.faults
  distinct : w.store.entries.IsDistinct
  live : ∀ key later, t.clock ≤ later →
    w.store.live? later key = ((stay? key t.history).filter (·.isLive later)).map Stay.entry

/-! ## What is seen -/

theorem Refines.live?_eq (h : w.Refines t) (key : String) :
    w.store.live? w.clock key = (t.live? key).map Stay.entry := by
  rw [h.live key w.clock (Nat.le_of_eq h.clock.symm), h.clock, Timed.live?]

theorem Refines.contains_eq (h : w.Refines t) (key : String) :
    w.store.contains w.clock key = t.isLive key := by
  rw [State.contains, h.live?_eq, Option.isSome_map, Timed.isLive]

theorem Refines.peek?_eq (h : w.Refines t) (key : String) :
    w.store.peek? w.clock key = (t.live? key).map (·.value) := by
  rw [State.peek?, h.live?_eq, Option.map_map]
  rfl

theorem Refines.remaining?_eq (h : w.Refines t) (key : String) :
    w.store.remaining? w.clock key = (t.live? key).bind (·.remaining? t.clock) := by
  rw [State.remaining?, h.live?_eq, Option.bind_map, h.clock]
  refine congrArg (Option.bind _) (funext fun x => ?_)
  by_cases hzero : x.lifetime = 0 <;>
    simp [Stay.remaining?, Stay.entry, State.expiryAt, hzero]

/-- Lists of texts with the same members, each once, are the same in order. -/
theorem mergeSort_eq_of_mem_iff {l l' : List String} (h : l.Nodup) (h' : l'.Nodup)
    (hmem : ∀ key, key ∈ l ↔ key ∈ l') : l.mergeSort (· ≤ ·) = l'.mergeSort (· ≤ ·) := by
  have hsorted : ∀ l : List String, (l.mergeSort (· ≤ ·)).Pairwise (· ≤ ·) := by
    intro l
    have hle : (l.mergeSort (· ≤ ·)).Pairwise fun a b => decide (a ≤ b) = true :=
      List.pairwise_mergeSort (by simpa using fun a b c => String.le_trans)
        (by simpa using String.le_total) l
    exact hle.imp (by simp)
  have hperm : (l.mergeSort (· ≤ ·)).Perm (l'.mergeSort (· ≤ ·)) :=
    (List.mergeSort_perm l _).trans
      (((List.perm_ext_iff_of_nodup h h').mpr hmem).trans (List.mergeSort_perm l' _).symm)
  exact hperm.eq_of_pairwise (fun a b _ _ => String.le_antisymm) (hsorted l) (hsorted l')

theorem Refines.liveKeys_eq (h : w.Refines t) (start : String) :
    w.store.liveKeys w.clock start =
      ((t.history.filterMap Deed.key?).dedup.filter fun key =>
        key.startsWith start && t.isLive key).mergeSort (· ≤ ·) := by
  refine mergeSort_eq_of_mem_iff ?_ ((List.nodup_dedup _).filter _) fun key => ?_
  · exact h.distinct.sublist (List.filter_sublist.map _)
  · have hlive : (∃ e, (key, e) ∈ w.store.entries ∧ e.isLive w.clock = true) ↔
        t.isLive key = true := by
      rw [← h.contains_eq, State.contains, Option.isSome_iff_exists]
      refine exists_congr fun e => ?_
      rw [State.live?_eq_some_iff, h.distinct.find?_eq_some_iff]
    have hkey : t.isLive key = true → key ∈ t.history.filterMap Deed.key? := by
      intro hlive
      obtain ⟨x, hx⟩ := Option.isSome_iff_exists.mp hlive
      exact mem_keys_of_stay? (Option.filter_eq_some_iff.mp hx).1
    simp only [List.mem_map, List.mem_filter, Bool.and_eq_true, List.mem_dedup, Prod.exists,
      exists_and_right, exists_eq_right]
    rw [← hlive]
    constructor
    · rintro ⟨e, hmem, hstart, he⟩
      exact ⟨hkey (hlive.mp ⟨e, hmem, he⟩), hstart, e, hmem, he⟩
    · rintro ⟨-, hstart, e, hmem, he⟩
      exact ⟨e, hmem, hstart, he⟩

/-! ## What is done -/

section
variable (h : w.Refines t)
include h

theorem Refines.isAvailable_eq : w.store.isAvailable = t.isAvailable :=
  congrArg State.isAvailable h.faults

theorem Refines.latency_eq : w.store.latency = t.latency :=
  congrArg State.latency h.faults

theorem Refines.failingPrefix_eq : w.store.failingPrefix = t.failingPrefix :=
  congrArg State.failingPrefix h.faults

theorem Refines.deletesFail_eq : w.store.deletesFail = t.deletesFail :=
  congrArg State.deletesFail h.faults

theorem Refines.advance (millis : Nat) : (w.advance millis).Refines (t.advance millis) :=
  { h with
    clock := by rw [World.advance, Timed.advance, h.clock]
    live := fun key later hlater => h.live key later (Nat.le_trans (Nat.le_add_right _ _) hlater) }

/-- After an answer the store stands for a map with the same faults that tells what is live then. -/
theorem Refines.answered {c : Store.Call} {t' : Timed} (hclock : t'.clock = t.clock)
    (hfaults : t'.faults = t.faults)
    (hlive : ∀ key later, w.clock ≤ later → (w.store.answer w.clock c).1.live? later key =
      ((stay? key t'.history).filter (·.isLive later)).map Stay.entry) :
    (w.answerRemote (.store c)).1.Refines t' where
  clock := h.clock.trans hclock.symm
  faults := by
    change { (w.store.answer w.clock c).1 with entries := [] } = t'.faults
    rw [State.answer_eq, hfaults]
    exact h.faults
  distinct := State.isDistinct_answer h.distinct c
  live key later hlater := hlive key later (by rwa [h.clock, ← hclock])

/-- An answer that makes no difference to what is live is none to a deed. -/
theorem Refines.kept {c : Store.Call}
    (hlive : ∀ key later, w.clock ≤ later →
      (w.store.answer w.clock c).1.live? later key = w.store.live? later key) :
    (w.answerRemote (.store c)).1.Refines t :=
  h.answered rfl rfl fun key later hlater => by
    rw [hlive key later hlater, h.live key later (h.clock ▸ hlater)]

theorem Refines.kept_of_error {c : Store.Call} {r : Refusal}
    (hr : (w.store.answer w.clock c).2 = .error r) : (w.answerRemote (.store c)).1.Refines t :=
  h.kept fun key later _ => by rw [State.answer_error hr]

/-- A write that succeeds is a deed. -/
theorem Refines.set {key value : String} {lifetime : Nat}
    (hok : (w.store.answer w.clock (.set key value lifetime)).2 = .ok ()) :
    (w.answerRemote (.store (.set key value lifetime))).1.Refines
      (t.record (.set key ⟨value, lifetime, t.clock⟩)) := by
  refine h.answered rfl rfl fun key' later hlater => ?_
  rw [State.live?, State.answer_set hok, Store.Table.find?_insert, Timed.record, stay?]
  by_cases hkey : key' = key
  · subst hkey
    rw [if_pos rfl, if_pos rfl, ← h.clock]
    exact Stay.filter_map_entry (some ⟨value, lifetime, w.clock⟩) later
  · rw [if_neg hkey, if_neg (Ne.symm hkey), ← h.live key' later (h.clock ▸ hlater)]
    rfl

/-- So is a removal. It counts what the map counts. -/
theorem Refines.delete {keys : List String} {n : Nat}
    (hok : (w.store.answer w.clock (.delete keys)).2 = .ok n) :
    (w.answerRemote (.store (.delete keys))).1.Refines (t.record (.delete keys)) ∧
      n = (keys.filter t.isLive).dedup.length := by
  constructor
  · refine h.answered rfl rfl fun key later hlater => ?_
    rw [State.live?_delete hok, Timed.record, stay?]
    by_cases hkey : key ∈ keys
    · rw [if_pos hkey, if_pos hkey]
      rfl
    · rw [if_neg hkey, if_neg hkey, h.live key later (h.clock ▸ hlater)]
  · rw [State.count_of_answer_delete hok]
    exact congrArg (List.length ∘ List.dedup) (List.filter_congr fun key _ => h.contains_eq key)

/-- The store gives the answer of the map, and goes on standing for it. -/
theorem Refines.answer (c : Store.Call) :
    (w.answerRemote (.store c)).2 = (t.answer c).2 ∧
      (w.answerRemote (.store c)).1.Refines (t.answer c).1 := by
  have hreply : (w.answerRemote (.store c)).2 = (w.store.answer w.clock c).2 := rfl
  rw [hreply]
  cases c with
  | set key value lifetime =>
    cases hr : (w.store.answer w.clock (.set key value lifetime)).2 with
    | ok a =>
      obtain ⟨havailable, hprefix, hlifetime⟩ := State.answer_set_eq_ok_iff.mp hr
      rw [h.isAvailable_eq] at havailable
      rw [h.failingPrefix_eq] at hprefix
      have hdeed := h.set hr
      simp only [Timed.answer, havailable, hprefix, Nat.not_lt.mpr hlifetime, Bool.not_true,
        Bool.false_eq_true, if_false]
      exact ⟨trivial, hdeed⟩
    | error r =>
      have hsame := h.kept_of_error hr
      simp only [State.answer, h.isAvailable_eq, h.failingPrefix_eq] at hr
      simp only [Timed.answer]
      repeat' split at hr
      all_goals simp_all
  | get key =>
    refine ⟨?_, h.kept fun key' later hlater => State.live?_answer_get hlater⟩
    rw [Timed.answer, ← h.isAvailable_eq, ← h.peek?_eq]
    by_cases havailable : w.store.isAvailable = true
    · rw [State.answer_get_of_available havailable]
      simp [havailable]
    · simp [State.answer, havailable]
  | delete keys =>
    cases hr : (w.store.answer w.clock (.delete keys)).2 with
    | ok n =>
      obtain ⟨hdeed, rfl⟩ := h.delete hr
      simp only [State.answer, h.isAvailable_eq, h.deletesFail_eq] at hr
      simp only [Timed.answer]
      repeat' split at hr
      all_goals simp_all
    | error r =>
      have hsame := h.kept_of_error hr
      simp only [State.answer, h.isAvailable_eq, h.deletesFail_eq] at hr
      simp only [Timed.answer]
      repeat' split at hr
      all_goals simp_all
  | ping =>
    refine ⟨?_, h.kept fun key later _ => rfl⟩
    rw [State.answer, h.isAvailable_eq, Timed.answer]

/-- One act on a store and the same act on the map it stands for are answered alike. -/
theorem Refines.act (a : Act) :
    (w.act a).2 = (t.act a).2 ∧ (w.act a).1.Refines (t.act a).1 := by
  cases a with
  | call c limit =>
    simp only [World.act, Timed.act, settle_store_limit, h.latency_eq]
    by_cases hlimit : limit.all (t.latency ≤ ·) = true
    · obtain ⟨hreply, hnext⟩ := (h.advance t.latency).answer c
      rw [if_pos hlimit, if_pos hlimit]
      exact ⟨congrArg some hreply, hnext⟩
    · rw [if_neg hlimit, if_neg hlimit]
      exact ⟨rfl, h.advance _⟩
  | contains key => exact ⟨h.contains_eq key, h⟩
  | peek key => exact ⟨h.peek?_eq key, h⟩
  | remaining key => exact ⟨h.remaining?_eq key, h⟩
  | liveKeys start => exact ⟨h.liveKeys_eq start, h⟩
  | advance millis => exact ⟨rfl, h.advance millis⟩
  | setAvailable isAvailable =>
    exact ⟨rfl, { h with faults := congrArg (fun m => { m with isAvailable }) h.faults }⟩
  | setLatency latency =>
    exact ⟨rfl, { h with faults := congrArg (fun m => { m with latency }) h.faults }⟩
  | failSets failingPrefix =>
    exact ⟨rfl, { h with faults := congrArg (fun m => { m with failingPrefix }) h.faults }⟩
  | failDeletes deletesFail =>
    exact ⟨rfl, { h with faults := congrArg (fun m => { m with deletesFail }) h.faults }⟩

/-- So are all acts one after another. -/
theorem Refines.acted (acts : List Act) :
    (acted World.act w acts).2 = (Store.acted Timed.act t acts).2 ∧
      (Store.acted World.act w acts).1.Refines (Store.acted Timed.act t acts).1 :=
  acted_of_lockstep (fun _ _ a hrefines => hrefines.act a) h acts

end

/-! ## What follows for the store -/

/-- What happens to the store of some surroundings keeps to the times and the outcomes of calls. -/
structure KeepsTime (w : World) : Prop where
  /-- A removal that succeeds counts the live keys among those it names, each once, and leaves none
  of them live. -/
  removed : ∀ keys limit n w', w.act (.call (.delete keys) limit) = (w', some (.ok n)) →
    n = (keys.filter (w.store.contains w'.clock)).dedup.length ∧
      ∀ key ∈ keys, ∀ later, w'.store.contains later key = false
  /-- A call that fails or is given up changes nothing. -/
  failed : ∀ c limit w' reply, w.act (.call c limit) = (w', reply) →
    (∀ a, reply ≠ some (.ok a)) → w'.store = w.store
  /-- After a lookup everything is answered as if only its time had passed. -/
  looked : ∀ key limit w' reply, w.act (.call (.get key) limit) = (w', reply) → ∀ acts,
    (acted World.act w' acts).2 = (acted World.act (w.advance (w'.clock - w.clock)) acts).2
  /-- A key that is dead stays dead until it is written. -/
  dead : ∀ key, w.store.contains w.clock key = false → ∀ acts,
    (∀ x ∈ (acted World.act w acts).2, ¬ Act.Sets key x) →
    (acted World.act w acts).1.store.contains (acted World.act w acts).1.clock key = false
  /-- After a write the value lives for the lifetime of this write, or for good, whatever was there
  before. -/
  written : ∀ key value lifetime limit w',
    w.act (.call (.set key value lifetime) limit) = (w', some (.ok ())) → ∀ later,
    w'.store.peek? later key =
      if lifetime = 0 ∨ later < w'.clock + 1000 * lifetime then some value else none

theorem act_call (w : World) (c : Store.Call) (limit : Option Nat) :
    w.act (.call c limit) = if limit.all (w.store.latency ≤ ·) then
        (((w.advance w.store.latency).answerRemote (.store c)).1,
          some ((w.advance w.store.latency).answerRemote (.store c)).2)
      else (w.advance (limit.getD 0), none) := by
  simp only [act, settle_store_limit]
  split <;> rfl

theorem answer_of_act {c : Store.Call} {limit : Option Nat} {reply : Except Refusal c.Answer}
    (h : w.act (.call c limit) = (w', some reply)) :
    w'.store = (w.store.answer w'.clock c).1 ∧ reply = (w.store.answer w'.clock c).2 := by
  rw [act_call] at h
  split at h
  · cases h
    exact ⟨rfl, rfl⟩
  · cases h

theorem store_of_act_eq_none {c : Store.Call} {limit : Option Nat}
    (h : w.act (.call c limit) = (w', none)) : w'.store = w.store := by
  rw [act_call] at h
  split at h
  · cases h
  · cases h
    rfl

theorem Refines.keepsTime (h : w.Refines t) : w.KeepsTime where
  removed keys limit n w' hact := by
    obtain ⟨hstore, hreply⟩ := answer_of_act hact
    refine ⟨State.count_of_answer_delete hreply.symm, fun key hkey later => ?_⟩
    rw [State.contains, hstore, State.live?_delete hreply.symm, if_pos hkey]
    rfl
  failed c limit w' reply hact hfailed := by
    cases reply with
    | none => exact store_of_act_eq_none hact
    | some reply =>
      obtain ⟨hstore, hreply⟩ := answer_of_act hact
      cases reply with
      | ok a => exact absurd rfl (hfailed a)
      | error r => rw [hstore, State.answer_error hreply.symm]
  looked key limit w' reply hact acts := by
    -- The map only lets time pass.
    have hmap : ∃ millis, (t.act (.call (.get key) limit)).1 = t.advance millis := by
      simp only [Timed.act]
      split <;> exact ⟨_, rfl⟩
    obtain ⟨millis, hmillis⟩ := hmap
    have hw' : w'.Refines (t.advance millis) := by
      have hnext := (h.act (.call (.get key) limit)).2
      rwa [hact, hmillis] at hnext
    have hclock : w'.clock - w.clock = millis := by
      rw [hw'.clock, h.clock, Timed.advance, Nat.add_sub_cancel_left]
    rw [hclock, (hw'.acted acts).1, ((h.advance millis).acted acts).1]
  dead key hdead acts hset := by
    obtain ⟨hanswers, hlast⟩ := h.acted acts
    rw [h.contains_eq] at hdead
    rw [hanswers] at hset
    rw [hlast.contains_eq]
    exact Timed.isLive_acted_of_dead hdead hset
  written key value lifetime limit w' hact later := by
    obtain ⟨hstore, hreply⟩ := answer_of_act hact
    rw [State.peek?, State.live?, hstore, State.answer_set hreply.symm, Table.find?_insert,
      if_pos rfl]
    have hentry : (⟨value, State.expiryAt w'.clock lifetime⟩ : Entry).isLive later = true ↔
        lifetime = 0 ∨ later < w'.clock + 1000 * lifetime := State.isLive_expiryAt_iff
    by_cases hlive : lifetime = 0 ∨ later < w'.clock + 1000 * lifetime
    · rw [if_pos hlive]
      simp [Option.filter, hentry.mpr hlive]
    · rw [if_neg hlive]
      simp [Option.filter, mt hentry.mp hlive]

/-- Surroundings with a new store. -/
def renewed (w : World) : World :=
  { w with store := {} }

theorem refines_renewed (w : World) : w.renewed.Refines { clock := w.clock } where
  clock := rfl
  faults := rfl
  distinct := List.nodup_nil
  live _ _ _ := rfl

/-- The key-value store is a timed map. Whatever happens to a new store and whenever, every answer
is that of the map to which the same happens; there a key is live just if its last write was not
followed by a removal and its lifetime is not over. -/
theorem store_refines_timedMap (w : World) (acts : List Act) :
    (acted World.act w.renewed acts).2 = (acted Timed.act { clock := w.clock } acts).2 ∧
      (∀ key, (acted World.act w.renewed acts).1.store.contains
          (acted World.act w.renewed acts).1.clock key = true ↔
        ∃ newer x older, (acted Timed.act { clock := w.clock } acts).1.history =
            newer ++ .set key x :: older ∧ (∀ d ∈ newer, ¬ d.Touches key) ∧
          (x.lifetime = 0 ∨
            (acted World.act w.renewed acts).1.clock < x.since + 1000 * x.lifetime)) ∧
      (acted World.act w.renewed acts).1.KeepsTime := by
  obtain ⟨hanswers, hlast⟩ := w.refines_renewed.acted acts
  refine ⟨hanswers, fun key => ?_, hlast.keepsTime⟩
  rw [hlast.contains_eq, hlast.clock]
  exact Timed.isLive_iff

end World

end SessionLedger
