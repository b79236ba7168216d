import SessionLedger.Proofs.Ledger.Spent
import SessionLedger.Proofs.Traffic.Performed

/-! What a login or a refresh leaves behind that is dropped at its deadline. Wherever else it fails
it removes the pair that it does not hand out, but after the deadline nothing of it runs: what it
has written by then and not removed stays in the ledger for its lifetime. -/
namespace SessionLedger
open Session Token Text

/-- An entry is left from a write of an operation: its key has not been removed since, and its
lifetime is not over. -/
def LeftFrom (s : Issuer) (w : World) (log : List Event) (T : Traffic) (i : Nat) (key : String)
    (x : Store.Entry) : Prop :=
  ∃ A lifetime limit B U,
    log = A ++ .called i (.remote (.store (.set key x.value lifetime)) limit) (some (.ok ())) :: B ∧
    Traffic.Run s w A U ∧
    Traffic.Steps s U
      (.called i (.remote (.store (.set key x.value lifetime)) limit) (some (.ok ())) :: B) T ∧
    x.expiry = Store.State.expiryAt U.world.clock lifetime ∧ x.isLive T.world.clock = true ∧
    ∀ e ∈ B, ¬ e.Removes key

namespace Traffic
variable {s : Issuer} {w : World} {T : Traffic} {log : List Event} {i : Nat} {uuid : String}
variable {kind : Kind} {x : Store.Entry} {op : Operation} {late : op.Result} {pair : Pair}

/-- What is live under an identifier that was not registered at the start is left from a write of
the operation that has drawn it. -/
theorem Steps.live?_eq_some_iff_leftFrom (hs : s.PrefixesApart) (hdistinct : (uuidsOf log).Nodup)
    (h : Run s w log T) (huuid : uuid ∈ drawn (diary log i))
    (hnew : w.store.entries.find? (s.tokenKey kind uuid) = none) :
    T.live? (s.tokenKey kind uuid) = some x ↔ LeftFrom s w log T i (s.tokenKey kind uuid) x := by
  constructor
  · intro hx
    obtain ⟨hheld, hlive⟩ := live?_eq_some_iff.mp hx
    obtain ⟨A, j, lifetime, limit, B, U, rfl, hA, hB, hexpiry⟩ := h.write_of_held hnew hheld
    obtain ⟨op, pair, hreg, -⟩ := h.registration hs (s.isTokenKey_tokenKey kind uuid)
    obtain rfl := drawer_unique hdistinct huuid
      ((drawn_mono (diary_mono (List.prefix_append A _) j)).subset (hreg.fresh hs).1)
    refine ⟨A, lifetime, limit, B, U, rfl, hA, hB, hexpiry, hlive, fun e he hremoves => ?_⟩
    -- A removal after the only write would have left nothing.
    have hwrites : ∀ e' ∈ B, ∀ value, ¬ e'.Writes (s.tokenKey kind uuid) value := fun e' he' =>
      h.not_writes_again hs hdistinct ⟨i, lifetime, limit, rfl⟩ he'
    obtain ⟨mid, rest, rfl⟩ := List.append_of_mem he
    rw [← List.cons_append, ← List.append_assoc] at h
    have hgone := h.held?_of_removes hremoves fun e' he' => hwrites e' (by simp [he'])
    rw [hheld] at hgone
    cases hgone
  · rintro ⟨A, lifetime, limit, B, U, rfl, -, hB, hexpiry, hlive, hkept⟩
    obtain ⟨V, hwrite, hrest⟩ := hB.head
    have hwritten : V.held? (s.tokenKey kind uuid) = some x := by
      rw [hwrite.set_ok, ← hexpiry]
    exact live?_eq_some_iff.mpr ⟨hrest.held?_of_isLive hwritten hlive
      (fun e he => h.not_writes_again hs hdistinct ⟨i, lifetime, limit, rfl⟩ he) hkept, hlive⟩

/-- No pair is handed out by an operation that has been dropped at its deadline. -/
theorem Steps.not_handedOut_of_expired (hdistinct : (uuidsOf log).Nodup) (h : Run s w log T)
    (hexpired : .expired i op late ∈ log) (huuid : uuid ∈ drawn (diary log i))
    (hpair : HandedOut s log pair) : uuid ∉ [pair.accessUuid, pair.refreshUuid] := by
  intro hmem
  obtain ⟨early, j, op', result, hearly, hreturned, hdrawn, -⟩ := h.registers_of_handedOut hpair
  rw [← hdrawn] at hmem
  obtain rfl := drawer_unique hdistinct huuid ((drawn_mono (diary_mono hearly j)).subset hmem)
  cases h.end_unique hexpired hreturned rfl rfl

/-- Whatever an operation draws that is dropped at its deadline is never handed out, and its entries
stand in the ledger as its own writes have left them: one is live as long as its lifetime lasts and
nobody removes it. -/
theorem Steps.left_behind (hs : s.PrefixesApart) (hdistinct : (uuidsOf log).Nodup)
    (h : Run s w log T) (hexpired : .expired i op late ∈ log) (huuid : uuid ∈ drawn (diary log i))
    (hnew : ∀ kind, w.store.entries.find? (s.tokenKey kind uuid) = none) :
    (∀ pair, HandedOut s log pair → uuid ∉ [pair.accessUuid, pair.refreshUuid]) ∧
      ∀ kind x, T.live? (s.tokenKey kind uuid) = some x ↔
        LeftFrom s w log T i (s.tokenKey kind uuid) x :=
  ⟨fun _ => h.not_handedOut_of_expired hdistinct hexpired huuid,
    fun kind _ => h.live?_eq_some_iff_leftFrom hs hdistinct huuid (hnew kind)⟩

end Traffic

/-! ## A login that is dropped between its two writes -/

/-- A service whose deadline passes while the second identifier of a pair is written. -/
def hastyIssuer : Issuer :=
  { sampleIssuer with requestLimit := 150 }

/-- Surroundings with one user whose store is sound but slow. -/
def slowWorld : World :=
  { sampleWorld 7 with store := { latency := 100 } }

/-- The program has been dropped. -/
def Ending.isExpired {α : Type} : Ending α → Bool
  | .expired => true
  | _ => false

theorem Ending.eq_expired {α : Type} {ending : Ending α} (h : ending.isExpired = true) :
    ending = .expired := by
  cases ending with
  | expired => rfl
  | _ => cases h

/-- The surroundings after the login was dropped. -/
abbrev afterHasty : World :=
  (World.run (some 150) (sampleLogin.task hastyIssuer) slowWorld).1

theorem run_hastyLogin :
    World.run (some 150) (sampleLogin.task hastyIssuer) slowWorld = (afterHasty, .expired) :=
  Prod.ext rfl (Ending.eq_expired (by decide +kernel))

/-- The access identifier has been written when the deadline passes. -/
theorem live?_afterHasty : afterHasty.store.live? afterHasty.clock
    (hastyIssuer.tokenKey .access (slowWorld.supply 0)) = some ⟨"7", some 900100⟩ := by
  decide +kernel

/-- The deadline leaves an identifier registered that was not handed out, on a store that is
available and does remove what it is asked to. -/
theorem World.perform_leaves_identifier :
    slowWorld.perform hastyIssuer sampleLogin = (afterHasty, some (.error .deadlineExceeded)) ∧
      (slowWorld.store.isAvailable = true ∧ slowWorld.store.deletesFail = false) ∧
      (slowWorld.drawn = 0 ∧ afterHasty.drawn = 2) ∧
      afterHasty.store.live? afterHasty.clock
        (hastyIssuer.tokenKey .access (slowWorld.supply 0)) = some ⟨"7", some 900100⟩ :=
  ⟨World.perform_of_expired rfl run_hastyLogin, ⟨rfl, rfl⟩, ⟨rfl, by decide +kernel⟩,
    live?_afterHasty⟩

/-- What happens in that login. -/
abbrev hastyLog : List Event :=
  .started 0 sampleLogin :: World.passage 0 (some 150) (sampleLogin.task hastyIssuer) slowWorld ++
    [.expired 0 sampleLogin (.error .deadlineExceeded)]

/-- The entry that the deadline leaves is left from the first write of the login. -/
theorem Traffic.Steps.left_behind_of_login : ∃ log T,
    Traffic.Run hastyIssuer slowWorld log T ∧
      .expired 0 sampleLogin (.error .deadlineExceeded) ∈ log ∧
      LeftFrom hastyIssuer slowWorld log T 0
        (hastyIssuer.tokenKey .access (slowWorld.supply 0)) ⟨"7", some 900100⟩ := by
  have hop : sampleLogin.IsSession := trivial
  obtain ⟨hrun, -⟩ := Traffic.Steps.lapses (s := hastyIssuer) (T := .idle slowWorld) hop rfl
    run_hastyLogin
  have hapart : hastyIssuer.PrefixesApart := by
    constructor <;> decide
  have hdrawn : slowWorld.supply 0 ∈ drawn (diary hastyLog 0) := by
    decide +kernel
  have hdistinct : (uuidsOf hastyLog).Nodup := by
    decide +kernel
  have hexpired : .expired 0 sampleLogin (.error .deadlineExceeded) ∈ hastyLog := by
    simp
  obtain ⟨-, hleft⟩ := Traffic.Steps.left_behind hapart hdistinct hrun hexpired hdrawn
    fun kind => rfl
  exact ⟨_, _, hrun, hexpired, (hleft .access _).mp live?_afterHasty⟩

end SessionLedger
