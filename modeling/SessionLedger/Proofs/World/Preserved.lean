import SessionLedger.Proofs.Store.Answer
import SessionLedger.Proofs.World.Lone

/-! What a program that runs alone leaves of the ledger. Calls that neither write nor remove certain
keys preserve what is live under them, and a store that does not respond within the limit of a
service is left as it is, whatever it is asked. -/
namespace SessionLedger
open Session

/-- The store answers within the limit of a service. -/
structure World.Responds (s : Issuer) (w : World) : Prop where
  available : w.store.isAvailable = true
  inLimit : w.store.latency ≤ s.cacheLimit

/-- From some surroundings others have come about in which the key-value store has the faults and
the latency that it had, no identifier has been drawn, and certain keys hold what they held for as
long as that lives. -/
structure World.Preserves (s : Issuer) (kept : String → Prop) (w w' : World) : Prop where
  clock : w.clock ≤ w'.clock
  supply : w'.supply = w.supply
  drawn : w'.drawn = w.drawn
  faults : w'.store = { w.store with entries := w'.store.entries }
  live : ∀ key, kept key → ∀ later, w'.clock ≤ later →
    w'.store.live? later key = w.store.live? later key
  unresponsive : ¬ w.Responds s → w'.store.entries = w.store.entries

/-- The call neither draws an identifier nor writes or removes certain keys; if it goes to the
key-value store, it has the limit of a service. -/
def Effect.Call.Preserves (s : Issuer) (kept : String → Prop) : Effect.Call → Prop
  | .uuid => False
  | .remote (.store c) limit => limit = some s.cacheLimit ∧ match c with
    | .set key _ _ => ¬ kept key
    | .delete keys => ∀ key ∈ keys, ¬ kept key
    | .get _ | .ping => True
  | _ => True

namespace World
variable {s : Issuer} {kept kept' : String → Prop} {w w' w'' : World} {α : Type}

theorem Preserves.refl (w : World) : w.Preserves s kept w where
  clock := Nat.le_refl _
  supply := rfl
  drawn := rfl
  faults := rfl
  live _ _ _ _ := rfl
  unresponsive _ := rfl

theorem Preserves.responds_iff (h : w.Preserves s kept w') : w'.Responds s ↔ w.Responds s := by
  constructor
  · rintro ⟨havailable, hlimit⟩
    rw [h.faults] at havailable hlimit
    exact ⟨havailable, hlimit⟩
  · rintro ⟨havailable, hlimit⟩
    constructor <;> rw [h.faults]
    · exact havailable
    · exact hlimit

theorem Preserves.deletesFail (h : w.Preserves s kept w') :
    w'.store.deletesFail = w.store.deletesFail := by
  rw [h.faults]

theorem Preserves.trans (h : w.Preserves s kept w') (h' : w'.Preserves s kept w'') :
    w.Preserves s kept w'' where
  clock := Nat.le_trans h.clock h'.clock
  supply := h'.supply.trans h.supply
  drawn := h'.drawn.trans h.drawn
  faults := by
    rw [h'.faults, h.faults]
  live key hkey later hlater := by
    rw [h'.live key hkey later hlater, h.live key hkey later (Nat.le_trans h'.clock hlater)]
  unresponsive hno := by
    rw [h'.unresponsive (fun hresponds => hno (h.responds_iff.mp hresponds)), h.unresponsive hno]

theorem Preserves.imp (h : w.Preserves s kept w') (hkept : ∀ key, kept' key → kept key) :
    w.Preserves s kept' w' :=
  { h with live := fun key hkey => h.live key (hkept key hkey) }

/-- Where everything is preserved of a key that is not live, it is not live later on either. -/
theorem Preserves.live?_eq_none {key : String} {later : Nat} (h : w.Preserves s kept w')
    (hkey : kept key) (hnone : w.store.live? w.clock key = none) (hle : w'.clock ≤ later) :
    w'.store.live? later key = none := by
  rw [h.live key hkey later hle]
  exact Store.State.live?_eq_none_of_le hnone (Nat.le_trans h.clock hle)

/-! ## Calls -/

theorem preserves_advance (w : World) (millis : Nat) : w.Preserves s kept (w.advance millis) where
  clock := Nat.le_add_right _ _
  supply := rfl
  drawn := rfl
  faults := rfl
  live _ _ _ _ := rfl
  unresponsive _ := rfl

/-- A lone call without a deadline waits for its answer up to its limit. -/
theorem await_limit (w : World) (c : Remote.Call) (limit : Nat) :
    w.await c (some limit) none =
      if w.latency c ≤ limit then (w.advance (w.latency c), .answered)
      else (w.advance limit, .missed) := by
  by_cases hzero : w.latency c = 0
  · simp [await, hzero, advance]
  · simp only [await, hzero, if_false, arrival, notAfter, Option.map_some, Option.all_some,
      Option.all_none, Bool.and_true, decide_eq_true_eq, Nat.add_le_add_iff_left]
    split <;> simp [advanceTo_eq]

/-- A call to the key-value store is answered if the answer takes no longer than the limit, and
given up at the limit otherwise. -/
theorem settle_store (w : World) (c : Store.Call) (limit : Nat) :
    w.settle none (.remote (.store c) (some limit)) =
      if w.store.latency ≤ limit then
        (((w.advance w.store.latency).answerRemote (.store c)).1,
          some (some ((w.advance w.store.latency).answerRemote (.store c)).2))
      else (w.advance limit, some none) := by
  have hlatency : w.latency (.store c) = w.store.latency := rfl
  by_cases hlimit : w.store.latency ≤ limit
  · simp only [settle, await_limit, hlatency, if_pos hlimit]
  · simp only [settle, await_limit, hlatency, if_neg hlimit]

theorem preserves_answerUsers (c : User.Directory.Call) :
    w.Preserves s kept (w.answerRemote (.users c)).1 :=
  { Preserves.refl w with }

theorem preserves_answerRemote {c : Store.Call}
    (hc : Effect.Call.Preserves s kept (.remote (.store c) (some s.cacheLimit)))
    (hlimit : w.store.latency ≤ s.cacheLimit) :
    w.Preserves s kept (w.answerRemote (.store c)).1 where
  clock := Nat.le_refl _
  supply := rfl
  drawn := rfl
  faults := w.store.answer_eq w.clock c
  live key hkey later hlater := by
    refine Store.State.live?_answer (fun v l hset => ?_) (fun ks hdelete hmem => ?_) hlater
    · subst hset
      exact hc.2 hkey
    · subst hdelete
      exact hc.2 key hmem hkey
  unresponsive hno := by
    -- An answer in time comes from a store that is offline.
    have hoffline : w.store.isAvailable = false := by
      rw [Bool.eq_false_iff]
      exact fun havailable => hno ⟨havailable, hlimit⟩
    cases c <;> simp [answerRemote, Store.State.answer, hoffline]

theorem settle_preserves {c : Effect.Call} {reply : Option c.Reply} (hc : c.Preserves s kept)
    (h : w.settle none c = (w', reply)) : w.Preserves s kept w' := by
  match c, hc with
  | .clock, _ =>
    cases h
    exact .refl w
  | .compare c, _ =>
    cases h
    exact .refl w
  | .remote (.users c) limit, _ =>
    simp only [settle] at h
    split at h
    all_goals
      obtain ⟨⟨millis, rfl⟩, -⟩ := await_cases ‹_›
      cases h
    · exact (w.preserves_advance millis).trans (preserves_answerUsers c)
    · exact w.preserves_advance millis
    · exact w.preserves_advance millis
  | .remote (.store c) limit, hc =>
    obtain ⟨rfl, -⟩ := id hc
    rw [settle_store] at h
    split at h
    next hlimit =>
      cases h
      exact (w.preserves_advance _).trans (preserves_answerRemote hc hlimit)
    next =>
      cases h
      exact w.preserves_advance _

/-- A program preserves what all of its calls preserve. -/
theorem ends_of_only {p : Task α} (hp : p.Only (Effect.Call.Preserves s kept)) :
    Ends p w fun w' _ => w.Preserves s kept w' := by
  induction p generalizing w with
  | done a => exact ends_done.mpr (.refl w)
  | halt => exact ends_halt.mpr trivial
  | call c next ih =>
    refine ends_call.mpr fun U reply hsettle => ?_
    have hU := settle_preserves hp.1 hsettle
    exact (ih reply (hp.2 reply)).imp fun w' _ => hU.trans

/-- What has been preserved so far a program goes on preserving. -/
theorem Preserves.ends {U : World} {p : Task α} (h : w.Preserves s kept U)
    (hp : p.Only (Effect.Call.Preserves s kept)) :
    Ends p U fun w' _ => w.Preserves s kept w' :=
  (ends_of_only hp).imp fun _ _ => h.trans

end World

end SessionLedger
