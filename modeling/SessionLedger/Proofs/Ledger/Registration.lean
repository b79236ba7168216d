import SessionLedger.Proofs.Session.Lifecycle
import SessionLedger.Proofs.Traffic.Alone
import SessionLedger.Proofs.Traffic.Entry

/-! Which operation of a run writes a key of a token. Where no prefix of keys is a prefix of
another, every such write registers an identifier of the pair that the writing operation has
minted; where the identifiers that are drawn are distinct, a key has one writer, which writes it
once. -/
namespace SessionLedger
open Session Token Text

/-- The identifiers that have been drawn in a run, in order. -/
def uuidsOf (log : List Event) : List String :=
  log.filterMap fun
    | .called _ .uuid uuid => some uuid
    | _ => none

/-- A write of an operation registers an identifier of a pair that the operation has minted: first
the access identifier, then the refresh identifier. -/
structure Registration (s : Issuer) (log : List Event) (i : Nat) (op : Operation) (pair : Pair)
    (key : String) : Prop where
  started : .started i op ∈ log
  mints : Mints s (diary log i) op pair
  order : (key = s.tokenKey .access pair.accessUuid ∧ written (diary log i) = []) ∨
    (key = s.tokenKey .refresh pair.refreshUuid ∧
      Registered s (diary log i) pair .access pair.accessUuid ∧
      written (diary log i) = [s.tokenKey .access pair.accessUuid])

/-- Both identifiers of a pair have been written by the operation that has drawn them. -/
def Settled (s : Issuer) (log : List Event) (a r : String) : Prop :=
  ∃ i, [a, r] <+: drawn (diary log i) ∧
    ∀ key ∈ s.pairKeys a r, key ∈ written (diary log i)

/-- Why an operation removes the keys of two identifiers: it has minted them itself, its refresh
token names them, or the identity that it logs out. -/
inductive Removal (s : Issuer) (d : Diary) (op : Operation) : String → String → Prop
  | discard {pair} (h : Mints s d op pair) : Removal s d op pair.accessUuid pair.refreshUuid
  | retire {token claims} (hop : op = .refresh token) (h : Accepted s d token .refresh claims) :
      Removal s d op claims.accessUuid claims.refreshUuid
  | revoke {identity} (hop : op = .logout identity) :
      Removal s d op identity.accessUuid identity.refreshUuid

/-- An operation has minted a pair in a run. -/
def MintedIn (s : Issuer) (log : List Event) (pair : Pair) : Prop :=
  ∃ i now, [pair.accessUuid, pair.refreshUuid] <+: drawn (diary log i) ∧
    s.pairAt? now ⟨pair.user, pair.accessUuid, pair.refreshUuid⟩ = some pair

variable {log log' log₁ log₂ : List Event} {i j : Nat} {uuid a r key value : String}

/-! ## Drawn identifiers -/

theorem mem_drawn {d : Diary} : uuid ∈ drawn d ↔ ⟨.uuid, uuid⟩ ∈ d := by
  simp only [drawn, List.mem_filterMap]
  constructor
  · rintro ⟨⟨c, reply⟩, hmem, heq⟩
    cases c with
    | uuid =>
      cases heq
      exact hmem
    | _ => cases heq
  · intro h
    exact ⟨_, h, rfl⟩

theorem mem_drawn_diary : uuid ∈ drawn (diary log i) ↔ .called i .uuid uuid ∈ log :=
  mem_drawn.trans mem_diary

theorem mem_uuidsOf_of_called (h : .called i .uuid uuid ∈ log) : uuid ∈ uuidsOf log :=
  List.mem_filterMap.mpr ⟨_, h, rfl⟩

theorem nodup_uuidsOf_left (h : (uuidsOf (log ++ log')).Nodup) : (uuidsOf log).Nodup :=
  h.sublist ((List.sublist_append_left log log').filterMap _)

@[simp] theorem uuidsOf_append (log log' : List Event) :
    uuidsOf (log ++ log') = uuidsOf log ++ uuidsOf log' :=
  List.filterMap_append

/-- An operation that runs alone draws what is in its diary. -/
theorem uuidsOf_aloneLog {s : Issuer} {T : Traffic} {op : Operation} {result : op.Result} :
    uuidsOf (T.aloneLog s op result) = drawn (T.world.trace (op.task s)).1 := by
  have hevents : ∀ d : Diary, uuidsOf (eventsOf T.count d) = drawn d := by
    intro d
    induction d with
    | nil => rfl
    | cons x d ih =>
      obtain ⟨c, reply⟩ := x
      cases c with
      | uuid => exact congrArg (reply :: ·) ih
      | clock => exact ih
      | compare c => exact ih
      | remote c limit => exact ih
  rw [Traffic.aloneLog, uuidsOf, List.filterMap_cons, ← uuidsOf, uuidsOf_append, hevents]
  exact List.append_nil _

/-- An identifier is drawn by one operation. -/
theorem drawer_unique (h : (uuidsOf log).Nodup) (hi : uuid ∈ drawn (diary log i))
    (hj : uuid ∈ drawn (diary log j)) : i = j := by
  rw [mem_drawn_diary] at hi hj
  induction log with
  | nil => cases hi
  | cons e log ih =>
    have htail : (uuidsOf log).Nodup := h.sublist ((List.sublist_cons_self e log).filterMap _)
    rcases List.mem_cons.mp hi with rfl | hi'
    · rcases List.mem_cons.mp hj with heq | hj'
      · cases heq
        rfl
      · exact absurd (mem_uuidsOf_of_called hj') (List.nodup_cons.mp h).1
    · rcases List.mem_cons.mp hj with rfl | hj'
      · exact absurd (mem_uuidsOf_of_called hi') (List.nodup_cons.mp h).1
      · exact ih htail hi' hj'

/-- Two pairs that have been drawn and share a key are one. -/
theorem drawn_pair_unique {s : Issuer} (hs : s.PrefixesApart) {a' r' : String}
    (h : (uuidsOf log).Nodup) (hi : [a, r] <+: drawn (diary log i))
    (hj : [a', r'] <+: drawn (diary log j)) (hkey : key ∈ s.pairKeys a r)
    (hkey' : key ∈ s.pairKeys a' r') : a = a' ∧ r = r' := by
  obtain ⟨kind, uuid, huuid, rfl⟩ := Issuer.exists_of_mem_pairKeys hkey
  obtain ⟨kind', uuid', huuid', heq⟩ := Issuer.exists_of_mem_pairKeys hkey'
  obtain ⟨-, rfl⟩ := hs.tokenKey_inj.mp heq
  obtain rfl := drawer_unique h (hi.subset huuid) (hj.subset huuid')
  have heq := (List.prefix_of_prefix_length_le hi hj (Nat.le_refl _)).eq_of_length rfl
  simpa using heq

theorem mem_written_diary {lifetime : Nat} {limit : Option Nat}
    {reply : Option (Except Store.Refusal Unit)}
    (h : .called i (.remote (.store (.set key value lifetime)) limit) reply ∈ log) :
    key ∈ written (diary log i) :=
  List.mem_filterMap.mpr ⟨_, mem_diary.mpr h, rfl⟩

theorem mem_removed_diary {keys : List String} {limit : Option Nat} {n : Nat}
    (h : .called i (.remote (.store (.delete keys)) limit) (some (.ok n)) ∈ log) :
    (keys, n) ∈ removed (diary log i) :=
  List.mem_filterMap.mpr ⟨_, mem_diary.mpr h, rfl⟩

/-- Where one write has been asked for, it is the same wherever it stands. -/
theorem write_unique {d : Diary} {value value' : String} {lifetime lifetime' : Nat}
    {limit limit' : Option Nat} {reply reply' : Option (Except Store.Refusal Unit)}
    (h : written d = [key])
    (hx : ⟨.remote (.store (.set key value lifetime)) limit, reply⟩ ∈ d)
    (hx' : ⟨.remote (.store (.set key value' lifetime')) limit', reply'⟩ ∈ d) :
    value = value' ∧ lifetime = lifetime' := by
  obtain ⟨front, x, back, rfl, hfront, -, hback⟩ := List.filterMap_eq_cons_iff.mp h
  have hone : ∀ {v l m a}, ⟨.remote (.store (.set key v l)) m, a⟩ ∈ front ++ x :: back →
      x = ⟨.remote (.store (.set key v l)) m, a⟩ := by
    intro v l m a hmem
    rcases List.mem_append.mp hmem with hmem | hmem
    · cases hfront _ hmem
    · rcases List.mem_cons.mp hmem with heq | hmem
      · exact heq.symm
      · cases List.filterMap_eq_nil_iff.mp hback _ hmem
  cases (hone hx).symm.trans (hone hx')
  exact ⟨rfl, rfl⟩

theorem stored_diary {c : Store.Call} {answer : c.Answer} :
    Stored (diary log i) c answer ↔
      ∃ limit, .called i (.remote (.store c) limit) (some (.ok answer)) ∈ log :=
  exists_congr fun _ => mem_diary

theorem diary_mono (h : log <+: log') (i : Nat) : diary log i <+: diary log' i := by
  obtain ⟨rest, rfl⟩ := h
  rw [diary_append]
  exact List.prefix_append _ _

theorem drawn_mono {d d' : Diary} (h : d <+: d') : drawn d <+: drawn d' := by
  obtain ⟨rest, rfl⟩ := h
  rw [drawn_append]
  exact List.prefix_append _ _

theorem written_mono {d d' : Diary} (h : d <+: d') : written d <+: written d' := by
  obtain ⟨rest, rfl⟩ := h
  rw [written_append]
  exact List.prefix_append _ _

theorem Settled.mono {s : Issuer} (h : Settled s log a r) (hlog : log <+: log') :
    Settled s log' a r := by
  obtain ⟨i, hdrawn, hwritten⟩ := h
  have hdiary := diary_mono hlog i
  exact ⟨i, hdrawn.trans (drawn_mono hdiary), fun key hmem =>
    (written_mono hdiary).subset (hwritten key hmem)⟩

/-- An identifier is written by the operation that has drawn it, which has not written it yet. -/
theorem Registration.fresh {s : Issuer} (hs : s.PrefixesApart) {op : Operation} {pair : Pair}
    {kind : Kind} (h : Registration s log i op pair (s.tokenKey kind uuid)) :
    uuid ∈ drawn (diary log i) ∧ s.tokenKey kind uuid ∉ written (diary log i) := by
  rw [h.mints.drawn]
  rcases h.order with ⟨hkey, hnone⟩ | ⟨hkey, -, hone⟩
  · obtain ⟨-, rfl⟩ := hs.tokenKey_inj.mp hkey
    simp [hnone]
  · obtain ⟨rfl, rfl⟩ := hs.tokenKey_inj.mp hkey
    simp [hone, hs.tokenKey_inj]

/-- After the write of a refresh identifier both identifiers of its pair have been written. -/
theorem Registration.settled {s : Issuer} (hs : s.PrefixesApart) {pair : Pair} {op : Operation}
    {lifetime : Nat} {limit : Option Nat} {reply : Option (Except Store.Refusal Unit)}
    (h : Registration s log i op pair (s.tokenKey .refresh r)) :
    Settled s (log ++ [.called i (.remote (.store (.set (s.tokenKey .refresh r) value lifetime))
      limit) reply]) pair.accessUuid r := by
  rcases h.order with ⟨hkey, -⟩ | ⟨hkey, -, hwritten⟩
  · cases (hs.tokenKey_inj.mp hkey).1
  · -- The access identifier was written before, and the refresh identifier is now.
    obtain rfl := (hs.tokenKey_inj.mp hkey).2
    refine ⟨i, ?_, fun key hmem => ?_⟩
    · rw [← h.mints.drawn]
      exact drawn_mono (diary_mono (List.prefix_append _ _) i)
    · rcases Issuer.mem_pairKeys.mp hmem with rfl | rfl
      · refine (written_mono (diary_mono (List.prefix_append _ _) i)).subset ?_
        rw [hwritten]
        exact List.mem_singleton.mpr rfl
      · exact mem_written_diary (List.mem_append_right _ (List.mem_singleton.mpr rfl))

/-- A registration is about an identifier of the pair that its operation has drawn. -/
theorem Registration.mem_pairKeys {s : Issuer} {op : Operation} {pair : Pair}
    (h : Registration s log i op pair key) (hlog : log <+: log')
    (hdrawn : drawn (diary log' i) = [a, r]) : key ∈ s.pairKeys a r := by
  -- The operation had drawn both identifiers by then, so they are all that it ever draws.
  have hlater := drawn_mono (diary_mono hlog i)
  rw [hdrawn, h.mints.drawn] at hlater
  obtain ⟨rfl, rfl⟩ : pair.accessUuid = a ∧ pair.refreshUuid = r := by
    simpa using hlater.eq_of_length rfl
  rcases h.order with ⟨rfl, -⟩ | ⟨rfl, -, -⟩
  · exact Issuer.mem_pairKeys.mpr (.inl rfl)
  · exact Issuer.mem_pairKeys.mpr (.inr rfl)

namespace Traffic
variable {s : Issuer} {w : World} {T : Traffic}

/-! ## Writers -/

/-- Every write under a key of a token registers an identifier to the user of its pair. -/
theorem Steps.registration (hs : s.PrefixesApart) (hkey : s.IsTokenKey key) {lifetime : Nat}
    {limit : Option Nat} {reply : Option (Except Store.Refusal Unit)}
    (h : Run s w
      (log₁ ++ .called i (.remote (.store (.set key value lifetime)) limit) reply :: log₂) T) :
    ∃ op pair, Registration s log₁ i op pair key ∧ value = Decimal.ofInt64 pair.user := by
  obtain ⟨op, hstart, hmay⟩ := h.may
  cases hmay with
  | cacheProfile _ _ _ => exact absurd hkey (hs.not_isTokenKey_profileKey _)
  | registerAccess hmints hnew =>
    exact ⟨op, _, ⟨hstart, hmints, .inl ⟨rfl, hnew⟩⟩, rfl⟩
  | registerRefresh hmints haccess hnew =>
    exact ⟨op, _, ⟨hstart, hmints, .inr ⟨rfl, haccess.registered, hnew⟩⟩, rfl⟩

/-- A refresh identifier is registered after the access identifier of its pair. -/
theorem Steps.registeredFirst (hs : s.PrefixesApart) {lifetime : Nat} {limit : Option Nat}
    {reply : Option (Except Store.Refusal Unit)}
    (h : Run s w (log₁ ++ .called i
      (.remote (.store (.set (s.tokenKey .refresh r) value lifetime)) limit) reply :: log₂) T) :
    ∃ op pair, Registration s log₁ i op pair (s.tokenKey .refresh r) ∧ pair.refreshUuid = r ∧
      value = Decimal.ofInt64 pair.user ∧ RegisteredFirst s (diary log₁ i) pair lifetime ∧
      written (diary log₁ i) = [s.tokenKey .access pair.accessUuid] := by
  obtain ⟨op, hstart, hmay⟩ := h.may
  generalize hkey : s.tokenKey .refresh r = key at hmay
  cases hmay with
  | @cacheProfile user =>
    have htoken := s.isTokenKey_tokenKey .refresh r
    rw [hkey] at htoken
    exact absurd htoken (hs.not_isTokenKey_profileKey user)
  | registerAccess => cases (hs.tokenKey_inj.mp hkey).1
  | registerRefresh hmints hfirst hnew =>
    obtain ⟨-, rfl⟩ := hs.tokenKey_inj.mp hkey
    exact ⟨op, _, ⟨hstart, hmints, .inr ⟨rfl, hfirst.registered, hnew⟩⟩, rfl, rfl, hfirst, hnew⟩

/-- What is written under the key of a token is under an identifier that the writer has drawn. -/
theorem Steps.drawn_of_writes (hs : s.PrefixesApart) (hkey : s.IsTokenKey key) (h : Run s w log T)
    {e : Event} (he : e ∈ log) (hw : e.Writes key value) :
    ∃ i kind uuid, uuid ∈ drawn (diary log i) ∧ key = s.tokenKey kind uuid := by
  obtain ⟨i, lifetime, limit, rfl⟩ := hw
  obtain ⟨log₁, log₂, rfl⟩ := List.append_of_mem he
  obtain ⟨op, pair, hreg, -⟩ := h.registration hs hkey
  have hlater := diary_mono (List.prefix_append log₁ (.called i
    (.remote (.store (.set key value lifetime)) limit) (some (.ok ())) :: log₂)) i
  have hdrawn : ∀ uuid ∈ [pair.accessUuid, pair.refreshUuid], uuid ∈ drawn (diary _ i) :=
    fun uuid hmem => (drawn_mono hlater).subset (by rwa [hreg.mints.drawn])
  rcases hreg.order with ⟨hkey, -⟩ | ⟨hkey, -, -⟩
  · exact ⟨i, _, _, hdrawn _ (by simp), hkey⟩
  · exact ⟨i, _, _, hdrawn _ (by simp), hkey⟩

/-- Keys of tokens are removed in pairs. -/
theorem Steps.removal (hs : s.PrefixesApart) {keys : List String} {limit : Option Nat}
    {reply : Option (Except Store.Refusal Nat)}
    (h : Run s w (log₁ ++ .called i (.remote (.store (.delete keys)) limit) reply :: log₂) T)
    (hkey : s.IsTokenKey key) (hmem : key ∈ keys) :
    ∃ op a r, .started i op ∈ log₁ ∧ Removal s (diary log₁ i) op a r ∧ keys = s.pairKeys a r := by
  obtain ⟨op, hstart, hmay⟩ := h.may
  cases hmay with
  | dropProfile =>
    obtain rfl := List.mem_singleton.mp hmem
    exact absurd hkey (hs.not_isTokenKey_profileKey _)
  | discard _ hmints => exact ⟨op, _, _, hstart, .discard hmints, rfl⟩
  | retire _ hop haccepted => exact ⟨op, _, _, hstart, .retire hop haccepted, rfl⟩
  | revoke _ hop => exact ⟨op, _, _, hstart, .revoke hop, rfl⟩

/-- What is registered under a refresh identifier is part of a settled pair. -/
theorem Steps.settled_of_held (hs : s.PrefixesApart) (hempty : w.store.entries = [])
    (h : Run s w log T) {x : Store.Entry} (hx : T.held? (s.tokenKey .refresh r) = some x) :
    ∃ a, Settled s log a r := by
  rcases h.held?_eq_some hx with ⟨e, he, hwrites⟩ | hstart
  · obtain ⟨i, lifetime, limit, rfl⟩ := hwrites
    obtain ⟨log₁, log₂, rfl⟩ := List.append_of_mem he
    obtain ⟨op, pair, hreg, -⟩ := h.registration hs (s.isTokenKey_tokenKey .refresh r)
    rw [List.append_cons]
    exact ⟨pair.accessUuid, (hreg.settled hs).mono (List.prefix_append _ _)⟩
  · simp [held?, idle, hempty] at hstart

/-- Under the key of an identifier that has been written nothing more is written. -/
theorem Steps.not_writes_of_written (hs : s.PrefixesApart)
    (hdistinct : (uuidsOf (log₁ ++ log₂)).Nodup) (h : Run s w (log₁ ++ log₂) T) {kind : Kind}
    (hdrawn : uuid ∈ drawn (diary log₁ i))
    (hwritten : s.tokenKey kind uuid ∈ written (diary log₁ i)) {e : Event} (he : e ∈ log₂)
    (value : String) : ¬ e.Writes (s.tokenKey kind uuid) value := by
  rintro ⟨j, lifetime, limit, rfl⟩
  obtain ⟨mid, rest, rfl⟩ := List.append_of_mem he
  rw [← List.append_assoc] at h hdistinct
  obtain ⟨op, pair, hreg, -⟩ := h.registration hs (s.isTokenKey_tokenKey kind uuid)
  obtain ⟨hdrawn', hnew⟩ := hreg.fresh hs
  -- The writer has drawn the identifier, so it is the one that has written it before.
  have hearlier := diary_mono (List.prefix_append log₁ mid) i
  obtain rfl := drawer_unique (nodup_uuidsOf_left hdistinct)
    ((drawn_mono hearlier).subset hdrawn) hdrawn'
  exact hnew ((written_mono hearlier).subset hwritten)

/-- Under the key of a token nothing is written twice. -/
theorem Steps.not_writes_again (hs : s.PrefixesApart) {kind : Kind} {e e' : Event}
    (hdistinct : (uuidsOf (log₁ ++ e :: log₂)).Nodup) (h : Run s w (log₁ ++ e :: log₂) T)
    (he : e.Writes (s.tokenKey kind uuid) value) (he' : e' ∈ log₂) (value' : String) :
    ¬ e'.Writes (s.tokenKey kind uuid) value' := by
  obtain ⟨i, lifetime, limit, rfl⟩ := he
  obtain ⟨op, pair, hreg, -⟩ := h.registration hs (s.isTokenKey_tokenKey kind uuid)
  rw [List.append_cons] at h hdistinct
  refine h.not_writes_of_written hs hdistinct ?_
    (mem_written_diary (List.mem_append_right log₁ (List.mem_singleton_self _))) he' value'
  exact (drawn_mono (diary_mono (List.prefix_append _ _) i)).subset (hreg.fresh hs).1

/-- Under the keys of a settled pair nothing more is written. -/
theorem Steps.not_writes_of_settled (hs : s.PrefixesApart)
    (hdistinct : (uuidsOf (log₁ ++ log₂)).Nodup) (h : Run s w (log₁ ++ log₂) T)
    (hsettled : Settled s log₁ a r) (hkey : key ∈ s.pairKeys a r) {e : Event} (he : e ∈ log₂)
    (value : String) : ¬ e.Writes key value := by
  obtain ⟨i, hdrawn, hwritten⟩ := hsettled
  have hwritten := hwritten key hkey
  obtain ⟨kind, uuid, huuid, rfl⟩ := Issuer.exists_of_mem_pairKeys hkey
  exact h.not_writes_of_written hs hdistinct (hdrawn.subset huuid) hwritten he value

/-- A settled pair that has been removed is gone for good. -/
theorem Steps.gone_of_settled (hs : s.PrefixesApart) (hdistinct : (uuidsOf (log₁ ++ log₂)).Nodup)
    (h : Run s w (log₁ ++ log₂) T) (hsettled : Settled s log₁ a r) (hkey : key ∈ s.pairKeys a r)
    {e : Event} (he : e ∈ log₂) (hremoves : e.Removes key) : T.held? key = none := by
  have hwrites := fun e' he' => h.not_writes_of_settled hs hdistinct hsettled hkey (e := e') he'
  obtain ⟨mid, rest, rfl⟩ := List.append_of_mem he
  rw [← List.append_assoc] at h
  exact h.held?_of_removes hremoves fun e' he' => hwrites e' (by simp [he'])

end Traffic

end SessionLedger
