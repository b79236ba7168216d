import SessionLedger.Proofs.Ledger.Spent
import SessionLedger.Proofs.Token.Issued

/-! Refreshes with one refresh token that run at the same time, on any ledger that has the pair of
the token registered. Whatever the order of their calls, the removal of the pair that comes first
finds it, and its refresh is granted. All others find the pair gone, either at their check or at
their own removal, and in the latter case they remove the pair that they have registered. Other
operations may run meanwhile, as long as they leave these pairs alone. -/
namespace SessionLedger
open Session Token Text

/-- The event is of another operation than the refreshes with a token. -/
def Event.IsOther (log : List Event) (token : String) (e : Event) : Prop :=
  ∃ i op, e.flight? = some i ∧ .started i op ∈ log ∧ op ≠ .refresh token

/-- The key is of a pair, or of an identifier that a refresh with its refresh token has drawn. -/
def IsAtStake (s : Issuer) (log : List Event) (pair : Pair) (key : String) : Prop :=
  key ∈ s.pairKeys pair.accessUuid pair.refreshUuid ∨
    ∃ i kind, ∃ uuid ∈ drawn (diary log i),
      .started i (.refresh pair.refreshToken) ∈ log ∧ key = s.tokenKey kind uuid

/-- Refreshes with the refresh token of a registered pair have run to their ends, undisturbed. -/
structure Race (s : Issuer) (w : World) (log : List Event) (T : Traffic) (pair : Pair) : Prop where
  apart : s.PrefixesApart
  run : Traffic.Run s w log T
  nonempty : ∃ i, .started i (.refresh pair.refreshToken) ∈ log
  ended : ∀ {i}, .started i (.refresh pair.refreshToken) ∈ log →
    ∃ result, .returned i (.refresh pair.refreshToken) result ∈ log
  calm : ∀ {i}, .started i (.refresh pair.refreshToken) ∈ log → Calm (diary log i)
  others : ∀ {e key}, e ∈ log → e.IsOther log pair.refreshToken → IsAtStake s log pair key →
    ¬ e.Removes key
  /-- The pair has been minted. -/
  minted : ∃ now, s.pairAt? now ⟨pair.user, pair.accessUuid, pair.refreshUuid⟩ = some pair
  named : pair.accessUuid ≠ "" ∧ pair.refreshUuid ≠ ""
  /-- The pair is registered at the start, and it does not expire. -/
  registered : ∀ {key}, key ∈ s.pairKeys pair.accessUuid pair.refreshUuid →
    ∃ x : Store.Entry, w.store.entries.find? key = some x ∧
      x.value = Decimal.ofInt64 pair.user ∧ x.isLive T.world.clock = true
  unexpired : (T.world.clock / 1000 : Nat) ≤ pair.refreshExpiry.toInt
  /-- The identifiers that are drawn are new. -/
  distinct : (uuidsOf log).Nodup
  unused : ∀ {uuid}, uuid ∈ uuidsOf log → ∀ kind,
    w.store.entries.find? (s.tokenKey kind uuid) = none
  /-- What is registered meanwhile does not expire either. -/
  lasting : ∀ {log₁ log₂ U i key value lifetime limit},
    .started i (.refresh pair.refreshToken) ∈ log → s.IsTokenKey key →
    log = log₁ ++
      .called i (.remote (.store (.set key value lifetime)) limit) (some (.ok ())) :: log₂ →
    Traffic.Run s w log₁ U →
    (⟨value, Store.State.expiryAt U.world.clock lifetime⟩ : Store.Entry).isLive T.world.clock = true

/-- How a refresh in a race has ended. -/
inductive Outcome (s : Issuer) (old : Pair) : Diary → Except SessionError Grant → Prop
  | granted {d claims pair snapshot n} (h : Rotates s d old.refreshToken claims pair) :
      Outcome s old (d ++ [s.removal old.accessUuid old.refreshUuid (some (.ok (n + 1)))])
        (.ok (pair.grant snapshot))
  | late {d} (hdrawn : drawn d = []) (hkept : removed d = [])
      (habsent : Stored d (.get (s.tokenKey .refresh old.refreshUuid)) none) :
      Outcome s old d (.error (.refreshRejected .notRegistered))
  | outrun {d claims pair m} (h : Rotates s d old.refreshToken claims pair) :
      Outcome s old (d ++ [s.removal old.accessUuid old.refreshUuid (some (.ok 0)),
          s.removal pair.accessUuid pair.refreshUuid (some (.ok m))])
        (.error (.refreshRejected .notRegistered))

variable {s : Issuer} {w : World} {T U : Traffic} {log log₁ log₂ : List Event} {i j n : Nat}
variable {pair : Pair} {key uuid value : String} {e : Event} {op : Operation}

theorem Outcome.granted_or_not {d : Diary} {result : Except SessionError Grant}
    (h : Outcome s pair d result) :
    (∃ grant, result = .ok grant) ∨ result = .error (.refreshRejected .notRegistered) := by
  cases h with
  | granted => exact .inl ⟨_, rfl⟩
  | late => exact .inr rfl
  | outrun => exact .inr rfl

/-- A refresh in a race removes the keys of the old pair, and those of its own pair if it has found
the old pair gone. -/
theorem Outcome.of_removed {d : Diary} {result : Except SessionError Grant} {keys : List String}
    (h : Outcome s pair d result) (hmem : (keys, n) ∈ removed d) :
    (keys = s.pairKeys pair.accessUuid pair.refreshUuid ∧ (n = 0 ∨ ∃ grant, result = .ok grant)) ∨
      ∃ fresh : Pair, keys = s.pairKeys fresh.accessUuid fresh.refreshUuid ∧
        drawn d = [fresh.accessUuid, fresh.refreshUuid] ∧ Registers s d fresh ∧
        result = .error (.refreshRejected .notRegistered) := by
  cases h with
  | granted h =>
    rw [removed_append, h.kept] at hmem
    cases List.mem_singleton.mp hmem
    exact .inl ⟨rfl, .inr ⟨_, rfl⟩⟩
  | late _ hkept =>
    rw [hkept] at hmem
    cases hmem
  | outrun h =>
    rw [removed_append, h.kept] at hmem
    rcases List.mem_cons.mp hmem with heq | hmem
    · cases heq
      exact .inl ⟨rfl, .inl rfl⟩
    · cases List.mem_singleton.mp hmem
      refine .inr ⟨_, rfl, ?_, h.registers.mono (List.prefix_append _ _), rfl⟩
      rw [drawn_append, h.mints.drawn]
      rfl

namespace Race
variable (h : Race s w log T pair)
include h

/-! ## The pair -/

/-- The keys of the pair are not those of identifiers that are drawn. -/
theorem tokenKey_notMem_pairKeys (huuid : uuid ∈ drawn (diary log i)) (kind : Kind) :
    s.tokenKey kind uuid ∉ s.pairKeys pair.accessUuid pair.refreshUuid := by
  intro hmem
  obtain ⟨x, hx, -⟩ := h.registered hmem
  rw [h.unused (mem_uuidsOf_of_called (mem_drawn_diary.mp huuid)) kind] at hx
  cases hx

theorem notMem_pairKeys {a r : String} (hdrawn : drawn (diary log i) = [a, r])
    (hkey : key ∈ s.pairKeys a r) : key ∉ s.pairKeys pair.accessUuid pair.refreshUuid := by
  obtain ⟨kind, uuid, huuid, rfl⟩ := Issuer.exists_of_mem_pairKeys hkey
  exact h.tokenKey_notMem_pairKeys (hdrawn ▸ huuid) kind

/-- A key is of a pair that one refresh has drawn. -/
theorem drawer {a r a' r' : String} (hi : drawn (diary log i) = [a, r])
    (hkey : key ∈ s.pairKeys a r) (hj : drawn (diary log j) = [a', r'])
    (hkey' : key ∈ s.pairKeys a' r') : i = j := by
  obtain ⟨kind, uuid, huuid, rfl⟩ := Issuer.exists_of_mem_pairKeys hkey
  obtain ⟨kind', uuid', huuid', heq⟩ := Issuer.exists_of_mem_pairKeys hkey'
  obtain ⟨-, rfl⟩ := h.apart.tokenKey_inj.mp heq
  exact drawer_unique h.distinct (hi ▸ huuid) (hj ▸ huuid')

/-- Under the keys of the pair nothing is written. -/
theorem not_writes (hkey : key ∈ s.pairKeys pair.accessUuid pair.refreshUuid) (he : e ∈ log)
    (value : String) : ¬ e.Writes key value := by
  intro hw
  obtain ⟨i, kind, uuid, hdrawn, rfl⟩ :=
    h.run.drawn_of_writes h.apart (Issuer.isTokenKey_of_mem hkey) he hw
  exact h.tokenKey_notMem_pairKeys hdrawn kind hkey

/-- Until they are removed the keys of the pair are live. -/
theorem live_of_not_removes (hU : Traffic.Run s w log₁ U) (hrest : Traffic.Steps s U log₂ T)
    (hlog : log = log₁ ++ log₂) (hkey : key ∈ s.pairKeys pair.accessUuid pair.refreshUuid)
    (hr : ∀ e ∈ log₁, ¬ e.Removes key) : ∃ x, U.live? key = some x := by
  obtain ⟨x, hx, -, hlive⟩ := h.registered hkey
  have hlive := x.isLive_of_le hlive hrest.clock_le
  have hheld := hU.held?_of_isLive hx hlive
    (fun e he => h.not_writes hkey (hlog ▸ List.mem_append_left _ he)) hr
  exact ⟨x, Traffic.live?_eq_some_iff.mpr ⟨hheld, hlive⟩⟩

/-! ## The refresh token -/

/-- The refresh token is readable during the race. -/
theorem claimsOf_ne_error (huser : 0 < pair.user) {now : Nat} {fault : SignerFault}
    (hnow : ⟨.clock, now⟩ ∈ diary log i) :
    s.signer.claimsOf now pair.refreshToken .refresh ≠ .error fault := by
  obtain ⟨now₀, hminted⟩ := h.minted
  have hle := Nat.div_le_div_right (c := 1000) (h.run.le_clock (mem_diary.mp hnow))
  have hunexpired := h.unexpired
  have hread := (Issuer.claimsOf_token_eq_ok_iff hminted now .refresh).mpr
    ⟨rfl, by simp only [Pair.expiry]; omega, huser, h.named⟩
  intro hfault
  cases hread.symm.trans hfault

/-- The refresh token names the pair. -/
theorem claims_of_reads {d : Diary} {claims : Claims}
    (hread : Reads s d pair.refreshToken .refresh claims) :
    claims.user = pair.user ∧ claims.accessUuid = pair.accessUuid ∧
      claims.refreshUuid = pair.refreshUuid := by
  obtain ⟨now₀, hminted⟩ := h.minted
  obtain ⟨now, -, hread⟩ := hread
  obtain rfl := ((Issuer.claimsOf_token_eq_ok_iff hminted _ .refresh).mp hread).1
  exact ⟨rfl, rfl, rfl⟩

/-- The refresh token mints for the user of the pair. -/
theorem user_of_mints {d : Diary} {fresh : Pair}
    (hmints : Mints s d (.refresh pair.refreshToken) fresh) : fresh.user = pair.user := by
  have huser := hmints.user
  generalize fresh.user = user at huser
  cases huser with
  | refresh haccepted => exact (h.claims_of_reads haccepted.reads).1

/-- What is found under the keys of the pair names its user. -/
theorem owner_of_stored {owner : String}
    (hkey : key ∈ s.pairKeys pair.accessUuid pair.refreshUuid)
    (hstored : Stored (diary log i) (.get key) (some owner)) :
    Decimal.signed64? owner = some pair.user := by
  obtain ⟨limit, hmem⟩ := stored_diary.mp hstored
  obtain ⟨log₁, log₂, rfl⟩ := List.append_of_mem hmem
  obtain ⟨U, V, hU, he, -⟩ := h.run.at
  obtain ⟨x, hx, rfl⟩ := Option.map_eq_some_iff.mp he.get_ok.symm
  obtain ⟨x', hx', hvalue, -⟩ := h.registered hkey
  -- Nothing is written under the key, so the entry that is found was there at the start.
  rcases hU.held?_eq_some (Traffic.live?_eq_some_iff.mp hx).1 with ⟨e, he, hw⟩ | hstart
  · exact absurd hw (h.not_writes hkey (List.mem_append_left _ he) _)
  · obtain rfl : x' = x := Option.some.inj (hx'.symm.trans hstart)
    rw [hvalue, Decimal.signed64?_ofInt64]

/-- How each refresh of the race has ended. -/
theorem outcome (huser : 0 < pair.user) {result : Except SessionError Grant}
    (hmem : .returned i (.refresh pair.refreshToken) result ∈ log) :
    Outcome s pair (diary log i) result := by
  obtain ⟨hstart, htells⟩ := h.run.tells_of_mem hmem
  have hcalm := h.calm hstart
  obtain ⟨now₀, hminted⟩ := h.minted
  have hread : ∀ now fault, ⟨.clock, now⟩ ∈ diary log i →
      s.signer.claimsOf now pair.refreshToken .refresh ≠ .error fault :=
    fun now fault hnow => h.claimsOf_ne_error huser hnow
  have howner : ∀ owner, Stored (diary log i) (.get (s.tokenKey .refresh pair.refreshUuid))
      (some owner) → Decimal.signed64? owner = some pair.user :=
    fun owner => h.owner_of_stored (Issuer.mem_pairKeys.mpr (.inr rfl))
  generalize diary log i = d at *
  cases result with
  | ok grant =>
    obtain ⟨fresh, snapshot, claims, d, n, rfl, hrotates, rfl⟩ := htells
    obtain ⟨-, haccess, hrefresh⟩ := h.claims_of_reads hrotates.accepted.reads
    rw [haccess, hrefresh]
    exact .granted hrotates
  | error e =>
    cases htells with
    | blank hblank =>
      cases (Issuer.isAllBlank_token hminted .refresh).symm.trans hblank
    | unaccepted hun hdrawn hkept =>
      cases hun with
      | unreadable hnow hfault => exact absurd hfault (hread _ _ hnow)
      | absent hreads hstored =>
        obtain ⟨-, -, hrefresh⟩ := h.claims_of_reads hreads
        rw [Claims.uuid, hrefresh] at hstored
        exact .late hdrawn hkept hstored
      | foreign hreads hstored hne =>
        obtain ⟨huser', -, hrefresh⟩ := h.claims_of_reads hreads
        rw [Claims.uuid, hrefresh] at hstored
        rw [howner _ hstored, huser'] at hne
        exact absurd rfl hne
      | disturbed hdisturbed => exact absurd hcalm hdisturbed
    | @outrun d _ claims fresh reply hrotates =>
      obtain ⟨-, haccess, hrefresh⟩ := h.claims_of_reads hrotates.accepted.reads
      obtain ⟨m, rfl⟩ := hcalm.store
        (List.mem_append_right d (List.mem_cons_of_mem _ (List.mem_singleton.mpr rfl)))
      rw [haccess, hrefresh]
      exact .outrun hrotates
    | @incomplete d _ claims fresh snapshot reply cause hrotates hreply =>
      obtain ⟨m, rfl⟩ := hcalm.store (List.mem_append_right d (List.mem_singleton.mpr rfl))
      exact absurd rfl (hreply m)
    | disturbed hdisturbed => exact absurd hcalm hdisturbed

/-! ## Who removes what -/

/-- What the other operations leave alone is removed by refreshes of the race only. -/
theorem refresh_of_removes (huser : 0 < pair.user) (he : e ∈ log) (hr : e.Removes key)
    (hothers : ∀ e ∈ log, e.IsOther log pair.refreshToken → ¬ e.Removes key) :
    ∃ i keys limit n result, key ∈ keys ∧
      e = .called i (.remote (.store (.delete keys)) limit) (some (.ok n)) ∧
      .returned i (.refresh pair.refreshToken) result ∈ log ∧
      Outcome s pair (diary log i) result ∧ (keys, n) ∈ removed (diary log i) := by
  have hother := hothers e he
  obtain ⟨i, keys, limit, n, hkey, rfl⟩ := id hr
  obtain ⟨op, hstart⟩ := h.run.started_of_called he
  by_cases hop : op = .refresh pair.refreshToken
  · subst hop
    obtain ⟨result, hmem⟩ := h.ended hstart
    exact ⟨i, keys, limit, n, result, hkey, rfl, hmem, h.outcome huser hmem, mem_removed_diary he⟩
  · exact absurd hr (hother ⟨i, op, rfl, hstart, hop⟩)

/-- Somebody removes the pair. -/
theorem exists_removes (huser : 0 < pair.user) :
    ∃ e ∈ log, ∃ key ∈ s.pairKeys pair.accessUuid pair.refreshUuid, e.Removes key := by
  have hkey : s.tokenKey .refresh pair.refreshUuid ∈ s.pairKeys pair.accessUuid pair.refreshUuid :=
    Issuer.mem_pairKeys.mpr (.inr rfl)
  obtain ⟨i, hstart⟩ := h.nonempty
  obtain ⟨result, hmem⟩ := h.ended hstart
  have houtcome := h.outcome huser hmem
  generalize hd : diary log i = d at houtcome
  cases houtcome with
  | granted =>
    have hcalled := mem_diary.mp (hd ▸ List.mem_append_right _ (List.mem_cons_self ..))
    exact ⟨_, hcalled, _, hkey, Event.removes_removal hkey⟩
  | late hdrawn hkept habsent =>
    -- A refresh that removes nothing has found the pair gone: somebody has removed it before.
    refine Classical.byContradiction fun hnone => ?_
    obtain ⟨limit, hcalled⟩ := stored_diary.mp (hd ▸ habsent)
    obtain ⟨log₁, log₂, hlog⟩ := List.append_of_mem hcalled
    obtain ⟨U, V, hU, he, hrest⟩ := (hlog ▸ h.run).at
    obtain ⟨x, hlive⟩ := h.live_of_not_removes hU (hrest.cons he) hlog hkey fun e he hr =>
      hnone ⟨e, hlog ▸ List.mem_append_left _ he, _, hkey, hr⟩
    have hfound := he.get_ok
    rw [hlive] at hfound
    cases hfound
  | outrun =>
    have hcalled := mem_diary.mp (hd ▸ List.mem_append_right _ (List.mem_cons_self ..))
    exact ⟨_, hcalled, _, hkey, Event.removes_removal hkey⟩

/-- The refresh that removes the pair first is granted. -/
theorem exists_granted (huser : 0 < pair.user) :
    ∃ i grant, .returned i (.refresh pair.refreshToken) (.ok grant) ∈ log := by
  obtain ⟨log₁, e, log₂, hlog, ⟨key, hkey, hr⟩, hfirst⟩ := exists_first (h.exists_removes huser)
  have he : e ∈ log := hlog ▸ List.mem_append_right _ (List.mem_cons_self ..)
  obtain ⟨i, keys, limit, n, result, hmem, rfl, hreturned, houtcome, hremoved⟩ :=
    h.refresh_of_removes huser he hr fun e he hother => h.others he hother (.inl hkey)
  rcases houtcome.of_removed hremoved with ⟨rfl, rfl | ⟨grant, rfl⟩⟩ | ⟨fresh, rfl, hdrawn, -⟩
  · -- The keys are live, so that the removal has counted them.
    obtain ⟨U, V, hU, he, hrest⟩ := (hlog ▸ h.run).at
    obtain ⟨x, hlive⟩ := h.live_of_not_removes hU (hrest.cons he) hlog hkey fun e he hr =>
      hfirst e he ⟨key, hkey, hr⟩
    rw [he.delete_ok.2.mp rfl key hkey] at hlive
    cases hlive
  · exact ⟨i, grant, hreturned⟩
  · exact absurd hkey (h.notMem_pairKeys hdrawn hmem)

/-- Only one refresh is granted. -/
theorem granted_unique (huser : 0 < pair.user) {grant grant' : Grant}
    (hi : .returned i (.refresh pair.refreshToken) (.ok grant) ∈ log)
    (hj : .returned j (.refresh pair.refreshToken) (.ok grant') ∈ log) : i = j := by
  have hremoval : ∀ i grant, .returned i (.refresh pair.refreshToken) (.ok grant) ∈ log →
      ∃ A n B, log = A ++ .removal s i pair.accessUuid pair.refreshUuid (n + 1) :: B := by
    intro i grant hi
    have houtcome := h.outcome huser hi
    generalize hd : diary log i = d at houtcome
    cases houtcome with
    | granted =>
      obtain ⟨A, B, hlog, -⟩ := diary_eq_append_cons hd
      exact ⟨A, _, B, hlog⟩
  obtain ⟨A, n, B, hA⟩ := hremoval i grant hi
  obtain ⟨A', n', B', hA'⟩ := hremoval j grant' hj
  refine h.run.removal_unique hA (fun key hkey e he => h.not_writes hkey ?_)
    hA' fun key hkey e he => h.not_writes hkey ?_
  · exact hA ▸ List.mem_append_right _ (List.mem_cons_of_mem _ he)
  · exact hA' ▸ List.mem_append_right _ (List.mem_cons_of_mem _ he)

/-! ## The ledger at the end -/

/-- The pair of a refresh that was granted is registered at the end. -/
theorem live_of_granted (huser : 0 < pair.user) {grant : Grant} {fresh : Pair}
    (hi : .returned i (.refresh pair.refreshToken) (.ok grant) ∈ log)
    (hdrawn : drawn (diary log i) = [fresh.accessUuid, fresh.refreshUuid])
    (hregisters : Registers s (diary log i) fresh)
    (hkey : key ∈ s.pairKeys fresh.accessUuid fresh.refreshUuid) :
    ∃ x, T.live? key = some x ∧ x.value = Decimal.ofInt64 fresh.user := by
  obtain ⟨lifetime, hstored⟩ := hregisters.stored hkey
  obtain ⟨limit, hmem⟩ := stored_diary.mp hstored
  obtain ⟨A, B, hlog⟩ := List.append_of_mem hmem
  have hrun := hlog ▸ h.run
  obtain ⟨U, V, hU, he, hrest⟩ := hrun.at
  have htoken := Issuer.isTokenKey_of_mem hkey
  have hstart := (h.run.tells_of_mem hi).1
  have hstake : IsAtStake s log pair key := by
    obtain ⟨kind, uuid, huuid, heq⟩ := Issuer.exists_of_mem_pairKeys hkey
    exact .inr ⟨i, kind, uuid, hdrawn ▸ huuid, hstart, heq⟩
  have hlive := h.lasting hstart htoken hlog hU
  have hheld := hrest.held?_of_isLive he.set_ok hlive (fun e' he' value => ?_)
    fun e' he' hr => ?_
  · exact ⟨_, Traffic.live?_eq_some_iff.mpr ⟨hheld, hlive⟩, rfl⟩
  · -- An identifier is written once, by the operation that has drawn it.
    obtain ⟨op, pair', hreg, -⟩ := hrun.registration h.apart htoken
    obtain ⟨kind, uuid, -, rfl⟩ := Issuer.exists_of_mem_pairKeys hkey
    have hdistinct := h.distinct
    rw [hlog, List.append_cons] at hdistinct
    rw [List.append_cons] at hrun
    refine hrun.not_writes_of_written (i := i) h.apart hdistinct ?_ ?_ he' value
    · exact (drawn_mono (diary_mono (List.prefix_append _ _) i)).subset (hreg.fresh h.apart).1
    · exact mem_written_diary (List.mem_append_right _ (List.mem_singleton.mpr rfl))
  · have hmem : e' ∈ log := hlog ▸ List.mem_append_right _ (List.mem_cons_of_mem _ he')
    obtain ⟨j, keys, limit, n, result, hmem, -, hj, houtcome, hremoved⟩ :=
      h.refresh_of_removes huser hmem hr fun e he hother => h.others he hother hstake
    rcases houtcome.of_removed hremoved with ⟨rfl, -⟩ | ⟨fresh', rfl, hdrawn', -, rfl⟩
    · exact h.notMem_pairKeys hdrawn hkey hmem
    · -- The remover has drawn the same identifier, so it is the one that was granted.
      obtain rfl := h.drawer hdrawn hkey hdrawn' hmem
      cases h.run.result_unique hi hj

/-- The pair of a refresh that was outrun is gone at the end. -/
theorem held?_of_outrun {d : Diary} {claims : Claims} {fresh : Pair}
    (hrotates : Rotates s d pair.refreshToken claims fresh)
    (hdiary : diary log i = d ++ [s.removal pair.accessUuid pair.refreshUuid (some (.ok 0)),
      s.removal fresh.accessUuid fresh.refreshUuid (some (.ok n))])
    (hkey : key ∈ s.pairKeys fresh.accessUuid fresh.refreshUuid) : T.held? key = none := by
  rw [List.append_cons] at hdiary
  obtain ⟨A, B, hlog, hA, -⟩ := diary_eq_append_cons hdiary
  have hrun := hlog ▸ h.run
  refine hrun.held?_of_removes (Event.removes_removal hkey) fun e he value => ?_
  obtain ⟨kind, uuid, huuid, rfl⟩ := Issuer.exists_of_mem_pairKeys hkey
  refine hrun.not_writes_of_written (i := i) h.apart (hlog ▸ h.distinct) ?_ ?_
    (List.mem_cons_of_mem _ he) value
  · rw [hA, drawn_append, hrotates.mints.drawn]
    exact List.mem_append_left _ huuid
  · rw [hA, written_append]
    exact List.mem_append_left _ (hrotates.registers.mem_written hkey)

/-- Apart from the old pair and the new one the ledger is as time has left it, as far as the other
operations have. -/
theorem live?_of_other (huser : 0 < pair.user) {grant : Grant} {a r : String}
    (hi : .returned i (.refresh pair.refreshToken) (.ok grant) ∈ log)
    (hdrawn : drawn (diary log i) = [a, r]) (htoken : s.IsTokenKey key)
    (hold : key ∉ s.pairKeys pair.accessUuid pair.refreshUuid) (hnew : key ∉ s.pairKeys a r)
    (hothers : ∀ e ∈ log, e.IsOther log pair.refreshToken →
      ¬ e.Removes key ∧ ∀ value, ¬ e.Writes key value) :
    T.live? key = w.store.live? T.world.clock key := by
  by_cases hwritten : ∃ e ∈ log, ∃ value, e.Writes key value
  · obtain ⟨e, he, value, hw⟩ := hwritten
    have hother := fun hother => (hothers e he hother).2 value hw
    obtain ⟨j, lifetime, limit, rfl⟩ := hw
    obtain ⟨A, B, hlog⟩ := List.append_of_mem he
    obtain ⟨op, pair', hreg, -⟩ := (hlog ▸ h.run).registration h.apart htoken
    have hA : A <+: log := hlog ▸ List.prefix_append A _
    have hstart := hA.subset hreg.started
    by_cases hop : op = .refresh pair.refreshToken
    · subst hop
      obtain ⟨result, hmem⟩ := h.ended hstart
      have houtcome := h.outcome huser hmem
      generalize hd : diary log j = d at houtcome
      cases houtcome with
      | granted hrotates =>
        obtain rfl := h.granted_unique huser hi hmem
        exact absurd (hreg.mem_pairKeys hA hdrawn) hnew
      | late hnone =>
        -- A refresh that was late has drawn nothing, so it has written nothing.
        have hlater := drawn_mono (diary_mono hA j)
        rw [hd, hnone, hreg.mints.drawn] at hlater
        cases List.prefix_nil.mp hlater
      | @outrun d claims fresh m hrotates =>
        -- What a refresh that was outrun has written is gone, as it was at the start.
        have hdrawn' : drawn (diary log j) = [fresh.accessUuid, fresh.refreshUuid] := by
          rw [hd, drawn_append, hrotates.mints.drawn]
          rfl
        have hkey := hreg.mem_pairKeys hA hdrawn'
        obtain ⟨kind, uuid, huuid, rfl⟩ := Issuer.exists_of_mem_pairKeys hkey
        have hmem := mem_uuidsOf_of_called (mem_drawn_diary.mp (hdrawn' ▸ huuid))
        rw [Traffic.live?_eq_none_of_held? (h.held?_of_outrun hrotates hd hkey), eq_comm,
          Store.State.live?_eq_none_iff, h.unused hmem kind]
        simp
    · exact absurd ⟨j, op, rfl, hstart, hop⟩ hother
  · refine h.run.live?_of_quiet (fun e he value hw => hwritten ⟨e, he, value, hw⟩) fun e he hr => ?_
    obtain ⟨j, keys, limit, n, result, hmem, -, hj, houtcome, hremoved⟩ :=
      h.refresh_of_removes huser he hr fun e he hother => (hothers e he hother).1
    rcases houtcome.of_removed hremoved with ⟨rfl, -⟩ | ⟨fresh, rfl, -, hregisters, -⟩
    · exact hold hmem
    · -- A refresh that removes its own pair has written it.
      obtain ⟨lifetime, hstored⟩ := hregisters.stored hmem
      obtain ⟨limit, hcalled⟩ := stored_diary.mp hstored
      exact hwritten ⟨_, hcalled, _, j, lifetime, limit, rfl⟩

/-- Of the refreshes of a race one is granted, and all others find the pair gone. At the end the
granted pair is registered to the user of the old pair, the old pair is not registered, and apart
from these two the ledger is what time and the other operations have left of it. -/
theorem one_winner (huser : 0 < pair.user) :
    ∃ i fresh snapshot now,
      .returned i (.refresh pair.refreshToken) (.ok (fresh.grant snapshot)) ∈ log ∧
      s.pairAt? now ⟨pair.user, fresh.accessUuid, fresh.refreshUuid⟩ = some fresh ∧
      (∀ j, .started j (.refresh pair.refreshToken) ∈ log → j ≠ i →
        .returned j (.refresh pair.refreshToken) (.error (.refreshRejected .notRegistered)) ∈ log) ∧
      (∀ key ∈ s.pairKeys pair.accessUuid pair.refreshUuid, T.live? key = none) ∧
      (∀ key ∈ s.pairKeys fresh.accessUuid fresh.refreshUuid,
        ∃ x, T.live? key = some x ∧ x.value = Decimal.ofInt64 pair.user) ∧
      ∀ key, s.IsTokenKey key → key ∉ s.pairKeys pair.accessUuid pair.refreshUuid →
        key ∉ s.pairKeys fresh.accessUuid fresh.refreshUuid →
        (∀ e ∈ log, e.IsOther log pair.refreshToken →
          ¬ e.Removes key ∧ ∀ value, ¬ e.Writes key value) →
        T.live? key = w.store.live? T.world.clock key := by
  obtain ⟨i, grant, hi⟩ := h.exists_granted huser
  have houtcome := h.outcome huser hi
  generalize hd : diary log i = d at houtcome
  cases houtcome with
  | @granted d claims fresh snapshot n hrotates =>
    have hcontinues := continues_removal (s := s) (d := d) pair.accessUuid pair.refreshUuid
      (some (.ok (n + 1)))
    obtain ⟨now, -, hfresh⟩ := hrotates.mints.minted
    have huser' := h.user_of_mints hrotates.mints
    have hregisters := hrotates.registers.mono hcontinues.isPrefix
    have hdrawn := hcontinues.drawn.trans hrotates.mints.drawn
    rw [← hd] at hregisters hdrawn
    rw [huser'] at hfresh
    refine ⟨i, fresh, snapshot, now, hi, hfresh, fun j hstart hne => ?_, fun key hkey => ?_,
      fun key hkey => ?_, fun key htoken hold hnew hothers => ?_⟩
    · obtain ⟨result, hj⟩ := h.ended hstart
      rcases (h.outcome huser hj).granted_or_not with ⟨grant, rfl⟩ | rfl
      · exact absurd (h.granted_unique huser hj hi) hne
      · exact hj
    · obtain ⟨A, B, hlog, -⟩ := diary_eq_append_cons hd
      refine Traffic.live?_eq_none_of_held? ((hlog ▸ h.run).held?_of_removes
        (Event.removes_removal hkey) fun e he => h.not_writes hkey ?_)
      exact hlog ▸ List.mem_append_right _ (List.mem_cons_of_mem _ he)
    · rw [← huser']
      exact h.live_of_granted huser hi hdrawn hregisters hkey
    · exact h.live?_of_other huser hi hdrawn htoken hold hnew hothers

/-! ## Users without a positive identifier -/

/-- No token of such a user is complete. -/
theorem claimsOf_of_nonpos (huser : pair.user ≤ 0) {now : Nat}
    (hnow : ⟨.clock, now⟩ ∈ diary log i) :
    s.signer.claimsOf now pair.refreshToken .refresh = .error (.malformed .missingUser) := by
  obtain ⟨now₀, hminted⟩ := h.minted
  have hle := Nat.div_le_div_right (c := 1000) (h.run.le_clock (mem_diary.mp hnow))
  have hunexpired := h.unexpired
  have hexpiry : 0 ≤ pair.refreshExpiry.toInt ∧
      (now / 1000 : Nat) ≤ pair.refreshExpiry.toInt := by
    omega
  have hread : s.signer.claimsOf now (sign (s.signer.secret .refresh) (pair.claims now₀ .refresh))
      .refresh = .error (.malformed (if pair.user ≤ 0 then .missingUser else .missingUuid)) :=
    Signer.claimsOf_sign_of_incomplete hexpiry.1 hexpiry.2 rfl (.inl huser)
  rw [if_pos huser] at hread
  show s.signer.claimsOf now (pair.token .refresh) .refresh = _
  rw [Issuer.pairAt?_token hminted .refresh, hread]

/-- So all refreshes of the race are refused. -/
theorem refused (huser : pair.user ≤ 0) {result : Except SessionError Grant}
    (hmem : .returned i (.refresh pair.refreshToken) result ∈ log) :
    result = .error (.refreshRejected .malformed) := by
  obtain ⟨hstart, htells⟩ := h.run.tells_of_mem hmem
  have hcalm := h.calm hstart
  obtain ⟨now₀, hminted⟩ := h.minted
  have hfault : ∀ now, ⟨.clock, now⟩ ∈ diary log i →
      s.signer.claimsOf now pair.refreshToken .refresh = .error (.malformed .missingUser) :=
    fun now hnow => h.claimsOf_of_nonpos huser hnow
  generalize diary log i = d at *
  have hunread : ∀ claims, ¬ Reads s d pair.refreshToken .refresh claims := by
    rintro claims ⟨now, hnow, hread⟩
    cases (hfault now hnow).symm.trans hread
  cases result with
  | ok grant =>
    obtain ⟨claims, haccepted⟩ := htells.accepted .refresh
    exact absurd haccepted.reads (hunread claims)
  | error e =>
    cases htells with
    | blank hblank => cases (Issuer.isAllBlank_token hminted .refresh).symm.trans hblank
    | unaccepted hun =>
      cases hun with
      | @unreadable now fault hnow hread =>
        obtain rfl := Except.error.inj ((hfault now hnow).symm.trans hread)
        rfl
      | absent hreads => exact absurd hreads (hunread _)
      | foreign hreads => exact absurd hreads (hunread _)
      | disturbed hdisturbed => exact absurd hcalm hdisturbed
    | outrun hrotates =>
      exact absurd (hrotates.accepted.mono (List.prefix_append _ _)).reads (hunread _)
    | incomplete hrotates =>
      exact absurd (hrotates.accepted.mono (List.prefix_append _ _)).reads (hunread _)
    | disturbed hdisturbed => exact absurd hcalm hdisturbed

end Race

/-! ## Races in no time -/

theorem calm_of_served {d : Diary} (h : ∀ x ∈ d, isServed x = true) : Calm d := by
  constructor
  · intro c limit reply hmem
    match reply, h _ hmem with
    | some (.ok a), _ => exact ⟨a, rfl⟩
  · intro c limit reply hmem
    match reply, h _ hmem with
    | some (.ok a), _ => exact ⟨a, rfl⟩

/-- Refreshes that run without faults and to their ends while no time passes are a race. -/
theorem Race.of_still (hs : s.PrefixesApart) (hrun : Traffic.Run s w log T)
    (hclock : T.world.clock = w.clock)
    (hnonempty : ∃ i, .started i (.refresh pair.refreshToken) ∈ log)
    (hstarted : ∀ i op, .started i op ∈ log → op = .refresh pair.refreshToken ∧
      ∃ result, .returned i (.refresh pair.refreshToken) result ∈ log)
    (hserved : ∀ i c reply, .called i c reply ∈ log → isServed ⟨c, reply⟩ = true)
    (hminted : ∃ now, s.pairAt? now ⟨pair.user, pair.accessUuid, pair.refreshUuid⟩ = some pair)
    (hnamed : pair.accessUuid ≠ "" ∧ pair.refreshUuid ≠ "")
    (hregistered : ∀ key ∈ s.pairKeys pair.accessUuid pair.refreshUuid,
      ∃ x : Store.Entry, w.store.entries.find? key = some x ∧
        x.value = Decimal.ofInt64 pair.user ∧ x.isLive w.clock = true)
    (hunexpired : (w.clock / 1000 : Nat) ≤ pair.refreshExpiry.toInt)
    (hdistinct : (uuidsOf log).Nodup)
    (hunused : ∀ uuid ∈ uuidsOf log, ∀ kind, w.store.entries.find? (s.tokenKey kind uuid) = none) :
    Race s w log T pair := by
  constructor
  case apart => exact hs
  case run => exact hrun
  case nonempty => exact hnonempty
  case ended =>
    intro i hmem
    exact (hstarted i _ hmem).2
  case others =>
    rintro e key - ⟨i, op, -, hstart, hop⟩
    exact absurd (hstarted i op hstart).1 hop
  case calm =>
    intro i _
    exact calm_of_served fun x hx => hserved i x.1 x.2 (mem_diary.mp hx)
  case minted => exact hminted
  case named => exact hnamed
  case registered =>
    rw [hclock]
    exact hregistered _
  case unexpired =>
    rw [hclock]
    exact hunexpired
  case distinct => exact hdistinct
  case unused => exact fun hmem => hunused _ hmem
  case lasting =>
    intro log₁ log₂ U i key value lifetime limit _ _ _ hU
    rw [hclock]
    exact Store.Entry.isLive_of_le (Store.State.isLive_expiryAt value U.world.clock lifetime)
      hU.clock_le

/-- The pair is registered. -/
theorem pairedWorld_registered (id : Int64) (hkey : key ∈ sampleIssuer.pairKeys "a" "r") :
    ∃ x : Store.Entry, (pairedWorld id).store.entries.find? key = some x ∧
      x.value = Decimal.ofInt64 id ∧ x.isLive 0 = true := by
  rcases Issuer.mem_pairKeys.mp hkey with rfl | rfl
  · exact ⟨⟨Decimal.ofInt64 id, some 900000⟩, rfl, rfl, rfl⟩
  · exact ⟨⟨Decimal.ofInt64 id, some 604800000⟩, rfl, rfl, rfl⟩

/-- What happens in two refreshes, one after the other. -/
abbrev twoRefreshes (grant : Grant) : List Event :=
  Traffic.aloneLog sampleIssuer (.idle (pairedWorld 7)) (pairedRefresh 7) (.ok grant) ++
    Traffic.aloneLog sampleIssuer afterPaired (pairedRefresh 7)
      (.error (.refreshRejected .notRegistered))

/-- Two refreshes, one after the other, are a race. -/
theorem Race.of_twoRefreshes : ∃ grant, Race sampleIssuer (pairedWorld 7) (twoRefreshes grant)
    (afterPaired.alone sampleIssuer (pairedRefresh 7)) (samplePair 7 "a" "r") := by
  obtain ⟨grant, hfirst⟩ := run_pairedRefresh
  have hserved : ((pairedWorld 7).trace ((pairedRefresh 7).task sampleIssuer)).1.all isServed := by
    rw [trace_pairedRefresh]
    decide +kernel
  have hserved' : (afterPaired.world.trace ((pairedRefresh 7).task sampleIssuer)).1.all
      isServed := by
    rw [trace_pairedRefresh_again]
    rfl
  have huuids : uuidsOf (twoRefreshes grant) = [Uuid.numbered 1, Uuid.numbered 2] := by
    rw [uuidsOf_append, uuidsOf_aloneLog, uuidsOf_aloneLog, trace_pairedRefresh_again,
      Traffic.idle, trace_pairedRefresh]
    decide +kernel
  refine ⟨grant, Race.of_still sampleIssuer_prefixesApart (hfirst.trans steps_pairedRefresh)
    ((Traffic.alone_clock ..).trans (Traffic.alone_clock ..))
    ⟨0, List.mem_append_left _ Traffic.started_mem_aloneLog⟩ (fun i op hmem => ?_)
    (fun i c reply hmem => ?_) ⟨0, pairAt?_samplePair 7 "a" "r"⟩ (by decide)
    (fun key => pairedWorld_registered 7) (by decide) ?_ fun uuid hmem kind => ?_⟩
  · rcases List.mem_append.mp hmem with hmem | hmem
    · obtain ⟨rfl, rfl⟩ := Traffic.started_of_mem_aloneLog hmem
      exact ⟨rfl, _, List.mem_append_left _ Traffic.returned_mem_aloneLog⟩
    · obtain ⟨rfl, rfl⟩ := Traffic.started_of_mem_aloneLog hmem
      exact ⟨rfl, _, List.mem_append_right _ Traffic.returned_mem_aloneLog⟩
  · rcases List.mem_append.mp hmem with hmem | hmem
    · have hexchange := Traffic.mem_trace_of_mem_aloneLog hmem
      exact List.all_eq_true.mp hserved _ hexchange
    · have hexchange := Traffic.mem_trace_of_mem_aloneLog hmem
      exact List.all_eq_true.mp hserved' _ hexchange
  · rw [huuids]
    decide
  · rw [huuids] at hmem
    revert uuid
    cases kind <;> decide +kernel

/-- Of two refreshes one is granted, and the other finds the pair gone. -/
theorem Race.one_winner_of_two : ∃ log T i j fresh snapshot,
    Race sampleIssuer (pairedWorld 7) log T (samplePair 7 "a" "r") ∧ i ≠ j ∧
      .returned i (pairedRefresh 7) (.ok (Pair.grant fresh snapshot)) ∈ log ∧
      .returned j (pairedRefresh 7) (.error (.refreshRejected .notRegistered)) ∈ log ∧
      ∀ key ∈ sampleIssuer.pairKeys "a" "r", T.live? key = none := by
  obtain ⟨grant, hrace⟩ := Race.of_twoRefreshes
  obtain ⟨i, fresh, snapshot, -, hi, -, hothers, hgone, -⟩ := Race.one_winner hrace (by decide)
  have hstarted : .started 0 (pairedRefresh 7) ∈ twoRefreshes grant :=
    List.mem_append_left _ Traffic.started_mem_aloneLog
  have hstarted' : .started 1 (pairedRefresh 7) ∈ twoRefreshes grant :=
    List.mem_append_right _ Traffic.started_mem_aloneLog
  by_cases hzero : i = 0
  · have hne : 1 ≠ i := by omega
    exact ⟨_, _, i, 1, fresh, snapshot, hrace, hne.symm, hi, hothers 1 hstarted' hne, hgone⟩
  · exact ⟨_, _, i, 0, fresh, snapshot, hrace, hzero, hi, hothers 0 hstarted (Ne.symm hzero),
      hgone⟩

/-- For a user without a positive identifier nobody wins: no token of theirs is complete. -/
theorem Race.no_winner_of_zero : ∃ log T,
    Race sampleIssuer (pairedWorld 0) log T (samplePair 0 "a" "r") ∧
      ∀ i grant, .returned i (pairedRefresh 0) (.ok grant) ∉ log := by
  have hminted := pairAt?_samplePair 0 "a" "r"
  have hread : sampleIssuer.signer.claimsOf 0 (samplePair 0 "a" "r").refreshToken .refresh =
      .error (.malformed .missingUser) :=
    (Signer.claimsOf_sign sampleIssuer.signer 0 .refresh _).trans rfl
  have htrace : (pairedWorld 0).trace ((pairedRefresh 0).task sampleIssuer) = _ :=
    World.trace_refresh_of_error (Issuer.isAllBlank_token hminted .refresh) hread
  have hserved : ((pairedWorld 0).trace ((pairedRefresh 0).task sampleIssuer)).1.all isServed := by
    rw [htrace]
    rfl
  have huuids : uuidsOf (Traffic.aloneLog sampleIssuer (.idle (pairedWorld 0)) (pairedRefresh 0)
      (.error (.refreshRejected .malformed))) = [] := by
    rw [uuidsOf_aloneLog, Traffic.idle, htrace]
    rfl
  have hrun : Traffic.Run sampleIssuer (pairedWorld 0) (Traffic.aloneLog sampleIssuer
      (.idle (pairedWorld 0)) (pairedRefresh 0) (.error (.refreshRejected .malformed)))
      ((Traffic.idle (pairedWorld 0)).alone sampleIssuer (pairedRefresh 0)) := by
    refine .alone trivial ?_
    rw [Traffic.idle, htrace]
    rfl
  have hrace : Race sampleIssuer (pairedWorld 0) (Traffic.aloneLog sampleIssuer
      (.idle (pairedWorld 0)) (pairedRefresh 0) (.error (.refreshRejected .malformed)))
      ((Traffic.idle (pairedWorld 0)).alone sampleIssuer (pairedRefresh 0))
      (samplePair 0 "a" "r") := by
    refine Race.of_still sampleIssuer_prefixesApart hrun
      (Traffic.alone_clock ..) ⟨0, Traffic.started_mem_aloneLog⟩ (fun i op hmem => ?_)
      (fun i c reply hmem => ?_) ⟨0, hminted⟩ (by decide) (fun key => pairedWorld_registered 0)
      (by decide) ?_ fun uuid hmem => ?_
    · obtain ⟨rfl, rfl⟩ := Traffic.started_of_mem_aloneLog hmem
      exact ⟨rfl, _, Traffic.returned_mem_aloneLog⟩
    · have hexchange := Traffic.mem_trace_of_mem_aloneLog hmem
      exact List.all_eq_true.mp hserved _ hexchange
    · rw [huuids]
      exact .nil
    · rw [huuids] at hmem
      cases hmem
  refine ⟨_, _, hrace, fun i grant hmem => ?_⟩
  cases hrace.refused (by decide) hmem

end SessionLedger
