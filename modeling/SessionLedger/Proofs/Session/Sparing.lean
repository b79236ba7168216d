import SessionLedger.Proofs.Session.Calls
import SessionLedger.Proofs.Session.Conducted

/-! A refresh spares the old pair as long as anything can go wrong: the removal that finds the old
pair is its last call, after which it is granted. So whenever it waits for a reply, and whenever it
ends with a bare error, none of its removals has found the old pair. Two cases are excused: the user
of the old pair is unknown, so that the pair is cleaned up, or the refresh has drawn an identifier
of the old pair, which it may remove as its own. -/
namespace SessionLedger
open Session Token User

/-- The call removes none of certain keys. -/
def Effect.Call.Spares (keys : List String) : Effect.Call → Prop
  | .remote (.store (.delete ks)) _ => ∀ key ∈ ks, key ∉ keys
  | _ => True

/-- What has been removed of certain keys was not there. -/
def Spared (keys : List String) (d : Diary) : Prop :=
  ∀ ks n, (ks, n) ∈ removed d → ∀ key ∈ ks, key ∈ keys → n = 0

/-- Why a rotation may harm the old pair before it is granted. -/
inductive Excused (claims : Claims) (d : Diary) : Prop
  | unknown {limit}
      (h : ⟨.remote (.users (.findById claims.user)) limit, some (.error .notFound)⟩ ∈ d)
  | drawn {uuid} (h : uuid ∈ drawn d) (huuid : uuid ∈ [claims.accessUuid, claims.refreshUuid])

/-- The pair that claims name has been spared, unless that is excused. -/
def Unharmed (s : Issuer) (claims : Claims) (d : Diary) : Prop :=
  Excused claims d ∨ Spared (s.pairKeys claims.accessUuid claims.refreshUuid) d

variable {s : Issuer} {claims : Claims} {d d' : Diary} {c : Effect.Call} {keys : List String}
variable {pair : Pair} {user : Int64} {limit : Option Nat}

theorem Excused.mono (h : Excused claims d) (hd : d <+: d') : Excused claims d' := by
  cases h with
  | unknown h => exact .unknown (hd.subset h)
  | drawn h huuid =>
    obtain ⟨e, rfl⟩ := hd
    refine .drawn ?_ huuid
    rw [drawn_append]
    exact List.mem_append_left _ h

theorem spared_nil : Spared keys [] :=
  fun _ _ h => by cases h

/-- What is removed by one more exchange is what its call removes. -/
theorem mem_removed_snoc {ks : List String} {n : Nat} {r : c.Reply}
    (h : (ks, n) ∈ removed (d ++ [⟨c, r⟩])) :
    (ks, n) ∈ removed d ∨ ∃ limit, c = .remote (.store (.delete ks)) limit := by
  rw [removed_append] at h
  rcases List.mem_append.mp h with h | h
  · exact .inl h
  · obtain ⟨x, hx, heq⟩ := List.mem_filterMap.mp h
    obtain rfl := List.mem_singleton.mp hx
    split at heq
    · next hc =>
      cases heq
      cases hc
      exact .inr ⟨_, rfl⟩
    · cases heq

theorem Unharmed.snoc (h : Unharmed s claims d)
    (hc : c.Spares (s.pairKeys claims.accessUuid claims.refreshUuid)) (r : c.Reply) :
    Unharmed s claims (d ++ [⟨c, r⟩]) := by
  refine h.imp (·.mono (List.prefix_append _ _)) fun h ks n hmem key hkey hold => ?_
  rcases mem_removed_snoc hmem with hmem | ⟨limit, rfl⟩
  · exact h ks n hmem key hkey hold
  · exact absurd hold (hc key hkey)

/-- A removal that has not found anything is none. -/
theorem Unharmed.removal (h : Unharmed s claims d) {a r : String}
    {reply : Option (Except Store.Refusal Nat)} (hreply : ∀ n, reply = some (.ok n) → n = 0) :
    Unharmed s claims (d ++ [s.removal a r reply]) := by
  refine h.imp (·.mono (List.prefix_append _ _)) fun h ks n hmem key hkey hold => ?_
  rw [removed_append] at hmem
  rcases List.mem_append.mp hmem with hmem | hmem
  · exact h ks n hmem key hkey hold
  · obtain ⟨x, hx, heq⟩ := List.mem_filterMap.mp hmem
    obtain rfl := List.mem_singleton.mp hx
    split at heq
    · next hx =>
      cases heq
      cases hx
      exact hreply _ rfl
    · cases heq

namespace Session

/-! ## The rotation -/

/-- Whenever the program waits for a reply, and if it ends with a bare error, the pair that claims
name is unharmed. -/
abbrev KeepsUnharmed (s : Issuer) (claims : Claims) (p : Task (Except SessionError Grant))
    (d : Diary) : Prop :=
  p.Keeps (fun d _ => Unharmed s claims d)
    (fun d r => ∀ e, r = .error e → e.IsBare → Unharmed s claims d) d

theorem KeepsUnharmed.of_keeps {p : Task (Except SessionError Grant)}
    (h : p.Keeps (fun d _ => Unharmed s claims d) (fun d _ => Unharmed s claims d) d) :
    KeepsUnharmed s claims p d :=
  h.imp (fun _ _ h => h) fun _ _ h _ _ _ => h

theorem keeps_of_only {α : Type} {p : Task α}
    (hp : p.Only (Effect.Call.Spares (s.pairKeys claims.accessUuid claims.refreshUuid)))
    (hd : Unharmed s claims d) :
    p.Keeps (fun d _ => Unharmed s claims d) (fun d _ => Unharmed s claims d) d :=
  hp.keeps (fun _ _ r h hc => h.snoc hc r) hd

theorem keeps_of_excused {α : Type} (p : Task α) (h : Excused claims d) :
    p.Keeps (fun d _ => Unharmed s claims d) (fun d _ => Unharmed s claims d) d := by
  have hall : p.Only fun _ => True := Program.only_of_forall (fun _ => trivial) p
  exact (hall.keeps (fun _ _ _ h _ => h.mono (List.prefix_append _ _)) h).imp (fun _ _ => .inl)
    fun _ _ => .inl

/-- A fresh pair has no key of the old one, unless the refresh is excused. -/
theorem keeps_mint_unharmed (hs : s.PrefixesApart) (hd : Unharmed s claims d) :
    (s.mint user).Keeps (fun d _ => Unharmed s claims d)
      (fun d pair => Excused claims d ∨ Unharmed s claims d ∧
        ∀ key ∈ s.pairKeys pair.accessUuid pair.refreshUuid,
          key ∉ s.pairKeys claims.accessUuid claims.refreshUuid) d := by
  have ha := fun a => hd.snoc (c := .uuid) trivial a
  have hr := fun a r => (ha a).snoc (c := .uuid) trivial r
  have hnow := fun a r now => (hr a r).snoc (c := .clock) trivial now
  simp only [Issuer.mint, Program.bind_eq]
  refine keeps_uuid hd fun a => keeps_uuid (ha a) fun r => keeps_clock (hr a r) fun now => ?_
  rw [Program.keeps_orHalt]
  intro pair hpair
  cases Issuer.pairAt?_subject hpair
  by_cases hold : ∃ uuid ∈ [pair.accessUuid, pair.refreshUuid],
      uuid ∈ [claims.accessUuid, claims.refreshUuid]
  · obtain ⟨uuid, huuid, hmem⟩ := hold
    refine .inl (.drawn ?_ hmem)
    rw [drawn_append, drawn_append, drawn_append, List.append_assoc, List.append_assoc]
    exact List.mem_append_right _ huuid
  · refine .inr ⟨hnow _ _ now, fun key hkey hkey' => ?_⟩
    obtain ⟨kind, uuid, huuid, rfl⟩ := Issuer.exists_of_mem_pairKeys hkey
    obtain ⟨kind', uuid', huuid', heq⟩ := Issuer.exists_of_mem_pairKeys hkey'
    obtain ⟨-, rfl⟩ := hs.tokenKey_inj.mp heq
    exact hold ⟨uuid, huuid, huuid'⟩

/-- The removal that finds the old pair is the last call. -/
theorem keeps_retire_unharmed {snapshot : Snapshot} (hd : Unharmed s claims d)
    (hpair : ∀ key ∈ s.pairKeys pair.accessUuid pair.refreshUuid,
      key ∉ s.pairKeys claims.accessUuid claims.refreshUuid) :
    KeepsUnharmed s claims (s.retire claims pair snapshot) d := by
  simp only [KeepsUnharmed, Issuer.retire, Program.bind_eq, Program.keeps_bind]
  refine keeps_revoke (fun _ => hd) (fun n => ?_) fun reply cause hreply e he hbare => ?_
  · cases n with
    | zero =>
      simp only [Program.keeps_bind]
      have hd' : Unharmed s claims (d ++ [s.removal claims.accessUuid claims.refreshUuid
          (some (.ok 0))]) := hd.removal (by simp)
      exact (keeps_of_only (only_discard hpair) hd').imp (fun _ _ h => h) fun _ _ h _ _ _ => h
    | succ n =>
      intro e he
      cases he
  · cases he
    exact absurd rfl (hbare _ _ _ _)

theorem keeps_rotate_unharmed (hs : s.PrefixesApart) (hd : Unharmed s claims d) :
    KeepsUnharmed s claims (s.rotate claims) d := by
  simp only [KeepsUnharmed, Issuer.rotate, Program.bind_eq, Program.keeps_bind]
  refine keeps_askUsers hd (fun row => ?_) fun reply e _ hreply => ?_
  · simp only [Program.keeps_bind]
    refine (keeps_mint_unharmed hs (hd.snoc (by trivial) _)).imp (fun _ _ h => h)
      fun d₁ pair h => ?_
    rcases h with hexcused | ⟨hd₁, hpair⟩
    · rw [← Program.keeps_bind]
      exact KeepsUnharmed.of_keeps (keeps_of_excused _ hexcused)
    · refine (keeps_of_only (only_registerFresh trivial (fun _ _ _ _ => trivial) hpair) hd₁).imp
        (fun _ _ h => h) fun d₂ registered hd₂ => ?_
      match registered with
      | .error e => exact fun _ _ _ => hd₂
      | .ok () =>
        simp only [Program.keeps_bind]
        refine (keeps_of_only (only_profileFor trivial trivial (fun _ => trivial) hpair) hd₂).imp
          (fun _ _ h => h) fun d₃ profile hd₃ => ?_
        match profile with
        | .error e => exact fun _ _ _ => hd₃
        | .ok snapshot => exact keeps_retire_unharmed hd₃ hpair
  · cases e with
    | notFound =>
      obtain rfl := hreply (by simp)
      have hexcused : Excused claims (d ++ [⟨.remote (.users (.findById claims.user))
          (some s.usersLimit), some (.error .notFound)⟩]) :=
        .unknown (List.mem_append_right d (List.mem_singleton_self _))
      exact KeepsUnharmed.of_keeps (keeps_of_excused _ hexcused)
    | timeout => exact fun _ _ _ => hd.snoc (by trivial) _
    | database text => exact fun _ _ _ => hd.snoc (by trivial) _

theorem keeps_refresh_unharmed (hs : s.PrefixesApart) {token : String} {now : Nat}
    (hread : s.signer.claimsOf now token .refresh = .ok claims) :
    KeepsUnharmed s claims (s.refresh token) [] := by
  have hd : Unharmed s claims [] := .inr spared_nil
  simp only [KeepsUnharmed, Issuer.refresh]
  split
  · exact fun _ _ _ => hd
  · simp only [Program.bind_eq, Program.keeps_bind]
    have hquiet : ∀ d', Inquires [] d' → Unharmed s claims d' := fun d' hd' =>
      .inr fun ks n hmem => by
        rw [hd'.removed] at hmem
        cases hmem
    refine keeps_checkToken hd (fun now _ _ => hd.snoc (c := .clock) trivial now)
      (fun d' claims' hd' haccepted => ?_) fun d' e hd' _ => ?_
    · obtain ⟨now', -, hread'⟩ := haccepted.reads
      obtain rfl := Signer.claimsOf_unique hread hread'
      exact keeps_rotate_unharmed hs (hquiet d' hd')
    · cases e with
      | rejected reason => exact fun _ _ _ => hquiet d' hd'
      | cache cause => exact fun _ _ _ => hquiet d' hd'

end Session

end SessionLedger
