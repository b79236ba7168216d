import SessionLedger.Proofs.Session.Conduct
import SessionLedger.Proofs.Session.Minted

/-! Session operations do only what they may, whatever they are told. Each step of an operation is
treated once: it may be taken, and it leaves a diary from which the next step may be taken, one
premise for its success and one for its failure. -/
namespace SessionLedger
open Session Token User Text

variable {s : Issuer} {op : Operation} {d : Diary} {pair : Pair} {user : Int64}

/-! ## Calls -/

theorem not_calm_store {c : Store.Call} {limit : Option Nat}
    {reply : Option (Except Store.Refusal c.Answer)} (h : ∀ a, reply ≠ some (.ok a)) :
    ¬ Calm (d ++ [⟨.remote (.store c) limit, reply⟩]) := by
  intro hcalm
  obtain ⟨a, ha⟩ := hcalm.store (List.mem_append_right d (List.mem_singleton.mpr rfl))
  exact h a ha

theorem not_calm_users {c : Directory.Call} {limit : Option Nat}
    {reply : Option (Except DirectoryError c.Answer)} (h : ∀ a, reply ≠ some (.ok a)) :
    ¬ Calm (d ++ [⟨.remote (.users c) limit, reply⟩]) := by
  intro hcalm
  obtain ⟨a, ha⟩ := hcalm.users (List.mem_append_right d (List.mem_singleton.mpr rfl))
  exact h a ha

namespace Session

/-- No refusal of the store is an absent value. -/
theorem Cache.refused_ne_notFound (refusal : Store.Refusal) :
    Cache.refused refusal ≠ some .notFound := by
  cases refusal <;> simp [Cache.refused]

theorem keeps_ask {limit : Option Nat} {c : Store.Call} {may : Diary → Effect.Call → Prop}
    {ends : Diary → Except CacheFault c.Answer → Prop} (hmay : may d (.remote (.store c) limit))
    (hok : ∀ a, ends (d ++ [⟨.remote (.store c) limit, some (.ok a)⟩]) (.ok a))
    (herr : ∀ reply e, (∀ a, reply ≠ some (.ok a)) → e ≠ .notFound →
      ends (d ++ [⟨.remote (.store c) limit, reply⟩]) (.error e)) :
    (Cache.ask limit c).Keeps may ends d := by
  refine ⟨hmay, fun reply => ?_⟩
  match reply with
  | some (.ok a) => exact hok a
  | some (.error refusal) =>
    show Program.Keeps may ends
      ((Program.orHalt (Cache.refused refusal)).bind fun fault => .done (.error fault)) _
    rw [Program.keeps_bind, Program.keeps_orHalt]
    intro fault hfault
    refine herr (some (.error refusal)) fault (by simp) ?_
    rintro rfl
    exact Cache.refused_ne_notFound refusal hfault
  | none => exact herr none .timeout (by simp) (by simp)

theorem keeps_get {limit : Nat} {key : String} {may : Diary → Effect.Call → Prop}
    {ends : Diary → Except CacheFault String → Prop}
    (hmay : may d (.remote (.store (.get key)) (some limit)))
    (hfound : ∀ v, ends (d ++ [⟨.remote (.store (.get key)) (some limit), some (.ok (some v))⟩])
      (.ok v))
    (habsent : ends (d ++ [⟨.remote (.store (.get key)) (some limit), some (.ok none)⟩])
      (.error .notFound))
    (herr : ∀ reply e, (∀ a, reply ≠ some (.ok a)) → e ≠ .notFound →
      ends (d ++ [⟨.remote (.store (.get key)) (some limit), reply⟩]) (.error e)) :
    (Cache.get limit key).Keeps may ends d := by
  simp only [Cache.get, Program.bind_eq, Program.keeps_bind]
  refine keeps_ask hmay (fun found => ?_) fun reply e hreply he => ?_
  · cases found with
    | some v => exact hfound v
    | none => exact habsent
  · exact herr reply e hreply he

theorem keeps_askUsers {c : Directory.Call} {may : Diary → Effect.Call → Prop}
    {ends : Diary → Except DirectoryError c.Answer → Prop}
    (hmay : may d (.remote (.users c) (some s.usersLimit)))
    (hok : ∀ a, ends (d ++ [⟨.remote (.users c) (some s.usersLimit), some (.ok a)⟩]) (.ok a))
    (herr : ∀ reply e, (∀ a, reply ≠ some (.ok a)) → (e ≠ .timeout → reply = some (.error e)) →
      ends (d ++ [⟨.remote (.users c) (some s.usersLimit), reply⟩]) (.error e)) :
    (s.askUsers c).Keeps may ends d := by
  refine ⟨hmay, fun reply => ?_⟩
  match reply with
  | some (.ok a) => exact hok a
  | some (.error e) => exact herr (some (.error e)) e (by simp) fun _ => rfl
  | none => exact herr none .timeout (by simp) fun h => absurd rfl h

/-- A check of a password fails because the comparison could not be carried out, or because the
password does not fit. -/
theorem eq_of_admission_eq_error {outcome : Except String Password.Verdict} {e : SessionError}
    (h : admission outcome = .error e) :
    (∃ text, outcome = .error text ∧ e = .internal text) ∨
      ∃ verdict, outcome = .ok verdict ∧ verdict ≠ .fits ∧ e = .wrongPassword := by
  match outcome with
  | .error text =>
    cases h
    exact .inl ⟨text, rfl, rfl⟩
  | .ok .fits => cases h
  | .ok .differs =>
    cases h
    exact .inr ⟨.differs, rfl, nofun, rfl⟩
  | .ok .unusable =>
    cases h
    exact .inr ⟨.unusable, rfl, nofun, rfl⟩

theorem keeps_checkPassword {password hash : String} {may : Diary → Effect.Call → Prop}
    {ends : Diary → Except SessionError Unit → Prop}
    (hmay : may d (.compare (.genuine password hash)))
    (hok : ends (d ++ [⟨.compare (.genuine password hash), .ok .fits⟩]) (.ok ()))
    (herr : ∀ (outcome : Except String Password.Verdict) (e : SessionError),
      admission outcome = .error e →
      ends (d ++ [⟨.compare (.genuine password hash), outcome⟩]) (.error e)) :
    (checkPassword password hash).Keeps may ends d := by
  refine ⟨hmay, fun outcome => ?_⟩
  match outcome with
  | .ok .fits => exact hok
  | .ok .differs => exact herr (.ok .differs) _ rfl
  | .ok .unusable => exact herr (.ok .unusable) _ rfl
  | .error text => exact herr (.error text) _ rfl

theorem keeps_revoke {a r : String} {may : Diary → Effect.Call → Prop}
    {ends : Diary → Except CacheFault Nat → Prop}
    (hmay : ∀ limit, may d (.remote (.store (.delete (s.pairKeys a r))) limit))
    (hok : ∀ n, ends (d ++ [s.removal a r (some (.ok n))]) (.ok n))
    (herr : ∀ reply e, (∀ n, reply ≠ some (.ok n)) →
      ends (d ++ [s.removal a r reply]) (.error e)) :
    (s.revoke a r).Keeps may ends d :=
  keeps_ask (hmay _) hok fun reply e hreply _ => herr reply e hreply

theorem keeps_clock {α : Type} {f : Nat → Task α} {may : Diary → Effect.Call → Prop}
    {ends : Diary → α → Prop} (hmay : may d .clock)
    (h : ∀ now, (f now).Keeps may ends (d ++ [⟨.clock, now⟩])) :
    (Task.clock.bind f).Keeps may ends d :=
  ⟨hmay, h⟩

theorem keeps_uuid {α : Type} {f : String → Task α} {may : Diary → Effect.Call → Prop}
    {ends : Diary → α → Prop} (hmay : may d .uuid)
    (h : ∀ uuid, (f uuid).Keeps may ends (d ++ [⟨.uuid, uuid⟩])) :
    (Task.uuid.bind f).Keeps may ends d :=
  ⟨hmay, h⟩

/-! ## Snapshots -/

theorem keeps_dropProfile {ends : Diary → Except SessionError Unit → Prop}
    (huser : Concerned s d op user) (h : ∀ d' result, Continues d d' → ends d' result) :
    (s.dropProfile user).Keeps (May s op) ends d := by
  simp only [Issuer.dropProfile, Program.bind_eq, Program.keeps_bind]
  refine keeps_ask (.dropProfile _ huser) (fun n => ?_) fun reply e _ _ => ?_
  · exact h _ _ (continues_append rfl)
  · exact h _ _ (continues_append rfl)

theorem keeps_rebuildProfile {ends : Diary → Except SessionError Snapshot → Prop}
    (huser : Concerned s d op user)
    (hok : ∀ d' snapshot, Continues d d' → removed d' = removed d → ends d' (.ok snapshot))
    (herr : ∀ d' e, Continues d d' → removed d' = removed d → ¬ Calm d' → e.IsBare →
      ends d' (.error e)) :
    (s.rebuildProfile user).Keeps (May s op) ends d := by
  simp only [Issuer.rebuildProfile, Program.bind_eq, Program.keeps_bind]
  refine keeps_askUsers (.users _ _) (fun projection => ?_) fun reply e hreply _ => ?_
  · simp only [Cache.setSnapshot, Cache.set, Program.keeps_bind]
    -- Whether the snapshot could be cached makes no difference.
    refine keeps_ask (.cacheProfile _ _ (huser.mono (List.prefix_append _ _))) (fun _ => ?_)
      fun reply' e _ _ => ?_
    · exact hok _ _ ((continues_append rfl).trans (continues_append rfl)) (by simp [removed])
    · exact hok _ _ ((continues_append rfl).trans (continues_append rfl)) (by simp [removed])
  · exact herr _ _ (continues_append rfl) (by simp [removed]) (not_calm_users hreply)
      (by simp [SessionError.IsBare])

theorem keeps_profile {ends : Diary → Except SessionError Snapshot → Prop}
    (huser : Concerned s d op user)
    (hok : ∀ d' snapshot, Continues d d' → removed d' = removed d → ends d' (.ok snapshot))
    (herr : ∀ d' e, Continues d d' → removed d' = removed d → ¬ Calm d' → e.IsBare →
      ends d' (.error e)) :
    (s.profile user).Keeps (May s op) ends d := by
  have hrebuild : ∀ reply, (s.rebuildProfile user).Keeps (May s op) ends
      (d ++ [⟨.remote (.store (.get (s.profileKey user))) (some s.cacheLimit), reply⟩]) := by
    intro reply
    refine keeps_rebuildProfile (huser.mono (List.prefix_append _ _))
      (fun d' snapshot hd hremoved => ?_) fun d' e hd hremoved => ?_
    · exact hok d' snapshot ((continues_append rfl).trans hd) (by simpa [removed] using hremoved)
    · exact herr d' e ((continues_append rfl).trans hd) (by simpa [removed] using hremoved)
  simp only [Issuer.profile, Cache.getSnapshot, Program.bind_eq, Program.keeps_bind]
  refine keeps_get (.get _ _) (fun text => ?_) ?_ fun reply e hreply he => ?_
  · dsimp only
    split
    · exact hok _ _ (continues_append rfl) (by simp [removed])
    · exact hrebuild _
  · exact hrebuild _
  · -- A fault of the cache is passed on, but for a value that cannot be read.
    have hcache : ends
        (d ++ [⟨.remote (.store (.get (s.profileKey user))) (some s.cacheLimit), reply⟩])
        (.error (.cache e)) :=
      herr _ _ (continues_append rfl) (by simp [removed]) (not_calm_store hreply)
        (by simp [SessionError.IsBare])
    cases e with
    | notFound => exact absurd rfl he
    | serialization => exact hrebuild _
    | timeout => exact hcache
    | unavailable reason => exact hcache

/-! ## Tokens and pairs -/

theorem keeps_checkToken {token : String} {kind : Kind} {may : Diary → Effect.Call → Prop}
    {ends : Diary → Except CheckError Claims → Prop} (hclock : may d .clock)
    (hget : ∀ now key limit, may (d ++ [⟨.clock, now⟩]) (.remote (.store (.get key)) limit))
    (hok : ∀ d' claims, Inquires d d' → Accepted s d' token kind claims → ends d' (.ok claims))
    (herr : ∀ d' e, Inquires d d' → Unaccepted s d' token kind e → ends d' (.error e)) :
    (s.checkToken token kind).Keeps may ends d := by
  simp only [Issuer.checkToken, Program.bind_eq]
  refine keeps_clock hclock fun now => ?_
  have hnow : ⟨.clock, now⟩ ∈ d ++ [⟨.clock, now⟩] := by simp
  cases hread : s.signer.claimsOf now token kind with
  | error fault => exact herr _ _ (inquires_append rfl rfl rfl) (.unreadable hnow hread)
  | ok claims =>
    simp only [Program.keeps_bind]
    have hd : ∀ x : Effect.interface.Exchange, drawn [x] = [] → written [x] = [] →
        removed [x] = [] → Inquires d ((d ++ [⟨.clock, now⟩]) ++ [x]) := fun x h₁ h₂ h₃ =>
      (inquires_append rfl rfl rfl).trans (inquires_append h₁ h₂ h₃)
    have hreads : ∀ x, Reads s ((d ++ [⟨.clock, now⟩]) ++ [x]) token kind claims := fun x =>
      ⟨now, List.mem_append_left _ hnow, hread⟩
    refine keeps_get (hget now _ _) (fun owner => ?_) ?_ fun reply e hreply he => ?_
    · have hstored : Stored ((d ++ [⟨.clock, now⟩]) ++ [⟨.remote (.store (.get (s.tokenKey kind
          (claims.uuid kind)))) (some s.cacheLimit), some (.ok (some owner))⟩])
          (.get (s.tokenKey kind (claims.uuid kind))) (some owner) :=
        ⟨some s.cacheLimit, by simp⟩
      dsimp only
      split
      · next howner => exact hok _ _ (hd _ rfl rfl rfl) ⟨hreads _, owner, hstored, howner⟩
      · next howner => exact herr _ _ (hd _ rfl rfl rfl) (.foreign (hreads _) hstored howner)
    · exact herr _ _ (hd _ rfl rfl rfl) (.absent (hreads _) ⟨some s.cacheLimit, by simp⟩)
    · cases e with
      | notFound => exact absurd rfl he
      | _ => exact herr _ _ (hd _ rfl rfl rfl) (.disturbed (not_calm_store hreply))

/-- Minting draws the two identifiers of the pair. -/
theorem keeps_mint {ends : Diary → Pair → Prop} (huser : Authenticated s d op user)
    (hdrawn : drawn d = [])
    (h : ∀ d' pair, d <+: d' → written d' = written d → removed d' = removed d →
      pair.user = user → Mints s d' op pair → ends d' pair) :
    (s.mint user).Keeps (May s op) ends d := by
  simp only [Issuer.mint, Program.bind_eq]
  refine keeps_uuid .uuid fun a => keeps_uuid .uuid fun r => keeps_clock .clock fun now => ?_
  rw [Program.keeps_orHalt]
  intro pair hpair
  have hsubject := Issuer.pairAt?_subject hpair
  have hlater : d <+: d ++ [⟨.uuid, a⟩] ++ [⟨.uuid, r⟩] ++ [⟨.clock, now⟩] := by simp
  cases hsubject
  refine h _ pair hlater (by simp [written]) (by simp [removed]) rfl ⟨huser.mono hlater, ?_, ?_⟩
  · simp [hdrawn]
    rfl
  · exact ⟨now, by simp, hpair⟩

theorem keeps_discard {ends : Diary → Unit → Prop} (hmints : Mints s d op pair)
    (h : ∀ reply, ends (d ++ [s.removal pair.accessUuid pair.refreshUuid reply]) ()) :
    (s.discard pair).Keeps (May s op) ends d := by
  simp only [Issuer.discard, Program.bind_eq, Program.keeps_bind]
  exact keeps_revoke (fun limit => .discard limit hmints) (fun n => h (some (.ok n)))
    fun reply e _ => h reply

theorem keeps_register {ends : Diary → Except CacheFault Unit → Prop}
    (hmints : Mints s d op pair) (hnew : written d = []) (hkept : removed d = [])
    (hok : ∀ d', Continues d d' → removed d' = [] → Registers s d' pair → ends d' (.ok ()))
    (herr : ∀ d' e, Continues d d' → removed d' = [] → ¬ Calm d' → ends d' (.error e)) :
    (s.register pair).Keeps (May s op) ends d := by
  simp only [Issuer.register, Program.bind_eq]
  refine keeps_clock .clock fun now => ?_
  simp only [Program.keeps_bind, Program.keeps_orHalt]
  intro lifetime hlifetime
  have hclock : Continues d (d ++ [⟨.clock, now⟩]) := continues_append rfl
  refine keeps_ask (.registerAccess (hmints.mono hclock) (by simp [hnew]; rfl)
    (by simp [hkept]; rfl) ⟨now, by simp, hlifetime⟩) (fun _ => ?_) fun reply e hreply _ => ?_
  · simp only [Program.keeps_bind, Program.keeps_orHalt]
    intro lifetime' hlifetime'
    have haccess : Continues d (d ++ [⟨.clock, now⟩] ++ [⟨.remote (.store (.set
        (s.tokenKey .access pair.accessUuid) (Decimal.ofInt64 pair.user) lifetime))
        (some s.cacheLimit), some (.ok ())⟩]) := hclock.trans (continues_append rfl)
    have hfirst : RegisteredFirst s (d ++ [⟨.clock, now⟩] ++ [⟨.remote (.store (.set
        (s.tokenKey .access pair.accessUuid) (Decimal.ofInt64 pair.user) lifetime))
        (some s.cacheLimit), some (.ok ())⟩]) pair lifetime' :=
      ⟨now, lifetime, ⟨some s.cacheLimit, by simp⟩, hlifetime, hlifetime'⟩
    refine keeps_ask (.registerRefresh (hmints.mono haccess) hfirst (by simp [hnew]; rfl)
      (by simp [hkept]; rfl)) (fun _ => ?_) fun reply e hreply _ => ?_
    · exact hok _ (haccess.trans (continues_append rfl)) (by simp [hkept]; rfl)
        ⟨hfirst.registered.mono (List.prefix_append _ _), lifetime', some s.cacheLimit, by simp⟩
    · exact herr _ e (haccess.trans (continues_append rfl)) (by simp [hkept]; rfl)
        (not_calm_store hreply)
  · exact herr _ e (hclock.trans (continues_append rfl)) (by simp [hkept]; rfl)
      (not_calm_store hreply)

end Session

end SessionLedger
