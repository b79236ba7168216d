import SessionLedger.Proofs.Ledger.Registration

/-! Sessions are independent. An operation touches the keys of identifiers that it has drawn itself,
those of the pair that its refresh token or its identity names, and the key of the snapshot of the
one user concerned. Whatever it ends with, and even if it is cut, it leaves every other entry to
itself: the value and the instant of expiry stay, and only time makes the entry die. -/
namespace SessionLedger
open Session Token

/-- The call writes a key or removes it, if it is carried out. -/
def Effect.Call.Touches (key : String) : Effect.Call → Prop
  | .remote (.store (.set k _ _)) _ => k = key
  | .remote (.store (.delete keys)) _ => key ∈ keys
  | _ => False

/-- The keys that an operation may touch. -/
inductive Footprint (s : Issuer) (d : Diary) (op : Operation) : String → Prop
  | drawn {uuid} (kind : Kind) (h : uuid ∈ drawn d) : Footprint s d op (s.tokenKey kind uuid)
  | presented {token claims key} (hop : op = .refresh token)
      (h : Reads s d token .refresh claims)
      (hkey : key ∈ s.pairKeys claims.accessUuid claims.refreshUuid) : Footprint s d op key
  | named {identity key} (hop : op = .logout identity)
      (hkey : key ∈ s.pairKeys identity.accessUuid identity.refreshUuid) : Footprint s d op key
  | profile {user} (h : Concerned s d op user) : Footprint s d op (s.profileKey user)

/-- The operation neither opens nor ends a session. -/
def Session.Operation.IsInquiry : Operation → Prop
  | .verify _ | .profile _ | .dropProfile _ => True
  | _ => False

variable {s : Issuer} {w : World} {log : List Event} {d d' : Diary} {op : Operation}
variable {c : Effect.Call} {key : String} {pair : Pair}

theorem Footprint.mono (h : Footprint s d op key) (hd : d <+: d') : Footprint s d' op key := by
  cases h with
  | drawn kind h => exact .drawn kind ((drawn_mono hd).subset h)
  | presented hop h hkey => exact .presented hop (h.mono hd) hkey
  | named hop hkey => exact .named hop hkey
  | profile h => exact .profile (h.mono hd)

/-- The keys of a pair that an operation has minted are those of identifiers that it has drawn. -/
theorem Mints.footprint (h : Mints s d op pair)
    (hkey : key ∈ s.pairKeys pair.accessUuid pair.refreshUuid) : Footprint s d op key := by
  obtain ⟨kind, uuid, huuid, rfl⟩ := Issuer.exists_of_mem_pairKeys hkey
  exact .drawn kind (h.drawn ▸ huuid)

/-- No call touches a key outside the footprint. -/
theorem May.footprint (h : May s op d c) (hc : c.Touches key) : Footprint s d op key := by
  cases h with
  | clock => exact hc.elim
  | uuid => exact hc.elim
  | compare => exact hc.elim
  | users => exact hc.elim
  | get => exact hc.elim
  | cacheProfile snapshot limit h =>
    obtain rfl : s.profileKey _ = key := hc
    exact .profile h
  | registerAccess h =>
    obtain rfl : s.tokenKey .access _ = key := hc
    exact h.footprint (Issuer.mem_pairKeys.mpr (.inl rfl))
  | registerRefresh h =>
    obtain rfl : s.tokenKey .refresh _ = key := hc
    exact h.footprint (Issuer.mem_pairKeys.mpr (.inr rfl))
  | dropProfile limit h =>
    obtain rfl : key = s.profileKey _ := List.mem_singleton.mp hc
    exact .profile h
  | discard limit h => exact h.footprint hc
  | retire limit hop h => exact .presented hop h.reads hc
  | revoke limit hop => exact .named hop hc

/-- An inquiry mints nothing. -/
theorem Authenticated.not_isInquiry {user : Int64} (h : Authenticated s d op user) :
    ¬ op.IsInquiry := by
  intro hop
  cases h with
  | login => exact hop
  | refresh => exact hop

/-- An inquiry touches no key of a token. -/
theorem May.not_touches_of_isInquiry (hs : s.PrefixesApart) (h : May s op d c)
    (hop : op.IsInquiry) (hkey : s.IsTokenKey key) : ¬ c.Touches key := by
  intro hc
  cases h with
  | clock => exact hc
  | uuid => exact hc
  | compare => exact hc
  | users => exact hc
  | get => exact hc
  | cacheProfile =>
    obtain rfl : s.profileKey _ = key := hc
    exact hs.not_isTokenKey_profileKey _ hkey
  | dropProfile =>
    obtain rfl : key = s.profileKey _ := List.mem_singleton.mp hc
    exact hs.not_isTokenKey_profileKey _ hkey
  | registerAccess h => exact h.user.not_isInquiry hop
  | registerRefresh h => exact h.user.not_isInquiry hop
  | discard limit h => exact h.user.not_isInquiry hop
  | retire limit heq =>
    subst heq
    exact hop
  | revoke limit heq =>
    subst heq
    exact hop

namespace Traffic
variable {T : Traffic}

/-- Where no operation of a run may touch a key, time alone tells whether its entry is live. -/
theorem Steps.live?_of_untouched (h : Run s w log T)
    (hmay : ∀ i op d c, .started i op ∈ log → d <+: diary log i → May s op d c →
      ¬ c.Touches key) :
    T.live? key = w.store.live? T.world.clock key := by
  have hquiet : ∀ i (c : Effect.Call) (reply : c.Reply), .called i c reply ∈ log →
      ¬ c.Touches key := by
    intro i c reply hmem
    obtain ⟨log₁, log₂, rfl⟩ := List.append_of_mem hmem
    obtain ⟨op, hstart, hcall⟩ := h.may
    exact hmay i op _ c (List.mem_append_left _ hstart) (diary_mono (List.prefix_append _ _) i)
      hcall
  refine h.live?_of_quiet ?_ ?_
  · rintro e he value ⟨i, lifetime, limit, rfl⟩
    exact hquiet i _ _ he rfl
  · rintro e he ⟨i, keys, limit, n, hkey, rfl⟩
    exact hquiet i _ _ he hkey

/-- An entry that lies in the footprint of no operation keeps its value and its instant of expiry.
Each operation is concerned with one user. Inquiries change no entry of a token, and logins none
that was there before, unless its identifier is drawn again. -/
theorem Steps.independent (hs : s.PrefixesApart) (h : Run s w log T) :
    (∀ key, (∀ i op, .started i op ∈ log → ¬ Footprint s (diary log i) op key) →
        T.live? key = w.store.live? T.world.clock key) ∧
      (∀ i op user user', .started i op ∈ log → Concerned s (diary log i) op user →
        Concerned s (diary log i) op user' → user = user') ∧
      (∀ key, s.IsTokenKey key → (∀ i op, .started i op ∈ log → op.IsInquiry) →
        T.live? key = w.store.live? T.world.clock key) ∧
      ∀ key x, s.IsTokenKey key → w.store.live? w.clock key = some x →
        (∀ i op, .started i op ∈ log → ∃ email password, op = .login email password) →
        (∀ uuid ∈ uuidsOf log, ∀ kind, w.store.live? w.clock (s.tokenKey kind uuid) = none) →
        T.live? key = w.store.live? T.world.clock key := by
  have hframe : ∀ key, (∀ i op, .started i op ∈ log → ¬ Footprint s (diary log i) op key) →
      T.live? key = w.store.live? T.world.clock key := by
    intro key hout
    refine h.live?_of_untouched fun i op d c hstart hd hmay hc => ?_
    exact hout i op hstart ((hmay.footprint hc).mono hd)
  refine ⟨hframe, fun i op user user' _ => Concerned.unique, fun key hkey hops => ?_,
    fun key x hkey hx hops hfresh => hframe key fun i op hstart hfoot => ?_⟩
  · refine h.live?_of_untouched fun i op d c hstart _ hmay => ?_
    exact hmay.not_touches_of_isInquiry hs (hops i op hstart) hkey
  · obtain ⟨email, password, rfl⟩ := hops i op hstart
    cases hfoot with
    | drawn kind huuid =>
      rw [hfresh _ (mem_uuidsOf_of_called (mem_drawn_diary.mp huuid)) kind] at hx
      cases hx
    | profile huser => exact hs.not_isTokenKey_profileKey _ hkey
    | presented hop => cases hop
    | named hop => cases hop

/-- A login leaves a pair that is registered already as it is. -/
theorem Steps.independent_of_login : ∃ log T grant, Run sampleIssuer (pairedWorld 7) log T ∧
    .returned 0 sampleLogin (.ok grant) ∈ log ∧
      T.live? "access:a" = some ⟨"7", some 900000⟩ := by
  have hgranted : ((pairedWorld 7).trace (sampleLogin.task sampleIssuer)).2.2.any Except.isOk := by
    decide +kernel
  obtain ⟨grant, hgrant⟩ := exists_ok hgranted
  have hrun : Run sampleIssuer (pairedWorld 7)
      (aloneLog sampleIssuer (.idle (pairedWorld 7)) sampleLogin (.ok grant)) _ :=
    .alone trivial hgrant
  have hdrawn : uuidsOf (aloneLog sampleIssuer (.idle (pairedWorld 7)) sampleLogin (.ok grant)) =
      [Uuid.numbered 1, Uuid.numbered 2] := by
    rw [uuidsOf_aloneLog]
    decide +kernel
  obtain ⟨-, -, -, hlogins⟩ := Steps.independent sampleIssuer_prefixesApart hrun
  have hkept := hlogins "access:a" ⟨"7", some 900000⟩ ⟨.access, by decide⟩ (by decide +kernel)
    (fun i op hstart => ⟨_, _, (started_of_mem_aloneLog hstart).2⟩) (by
      rw [hdrawn]
      intro uuid huuid kind
      simp only [List.mem_cons, List.not_mem_nil, or_false] at huuid
      rcases huuid with rfl | rfl <;> cases kind <;> decide +kernel)
  refine ⟨_, _, grant, hrun, returned_mem_aloneLog, hkept.trans ?_⟩
  rw [alone_clock]
  decide +kernel

/-- Surroundings in which another user is registered under the next identifier. -/
def occupiedWorld : World :=
  { sampleWorld 7 with
    store := { entries := [(sampleIssuer.tokenKey .access (Uuid.numbered 1), ⟨"9", none⟩)] } }

/-- A login that draws an identifier of somebody else takes its entry over. -/
theorem Steps.login_overwrites : ∃ log T, Run sampleIssuer occupiedWorld log T ∧
    (∀ i op, .started i op ∈ log → op = sampleLogin) ∧
      occupiedWorld.store.live? occupiedWorld.clock
          (sampleIssuer.tokenKey .access (Uuid.numbered 1)) = some ⟨"9", none⟩ ∧
      T.live? (sampleIssuer.tokenKey .access (Uuid.numbered 1)) = some ⟨"7", some 900000⟩ := by
  have hgranted : (occupiedWorld.trace (sampleLogin.task sampleIssuer)).2.2.any Except.isOk := by
    decide +kernel
  obtain ⟨grant, hgrant⟩ := exists_ok hgranted
  have hrun : Run sampleIssuer occupiedWorld
      (aloneLog sampleIssuer (.idle occupiedWorld) sampleLogin (.ok grant)) _ :=
    .alone trivial hgrant
  refine ⟨_, _, hrun, fun i op hstart => (started_of_mem_aloneLog hstart).2, by decide +kernel, ?_⟩
  decide +kernel

end Traffic

end SessionLedger
