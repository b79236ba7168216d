import SessionLedger.Http.Server
import SessionLedger.Proofs.Program.Keeps
import SessionLedger.Proofs.Text.Pieces

/-! Which origins the responses of a server are open to. A setting that lists origins opens them to
these, as far as they can be the value of a header. But a list of none that can opens them to every
origin, and with a star in the list there is no server. -/
namespace SessionLedger.Http
open Session Text

namespace Cors
variable {setting : Option String} {e : String}

/-! ## Entries -/

/-- The text is an entry of a setting: one of the parts between its commas, without the blanks
around it, and not empty. -/
def IsEntry (setting : Option String) (e : String) : Prop :=
  ∃ text, setting = some text ∧ ∃ parts, IsSplit ',' text.toList parts ∧
    ∃ part ∈ parts, e.toList = trim part ∧ e ≠ ""

/-- An origin can be sent as the value of a header. -/
def IsOrigin (e : String) : Prop :=
  isHeaderValue e.toList = true

instance : Decidable (IsOrigin e) :=
  inferInstanceAs (Decidable (_ = true))

theorem isEntry_some_iff {text : String} : IsEntry (some text) e ↔
    e.toList ∈ (pieces (· == ',') text.toList).map trim ∧ e ≠ "" := by
  rw [List.mem_map]
  constructor
  · rintro ⟨_, ⟨⟩, parts, hsplit, part, hpart, he, hne⟩
    obtain rfl := isSplit_iff.mp hsplit
    exact ⟨⟨part, hpart, he.symm⟩, hne⟩
  · rintro ⟨⟨part, hpart, he⟩, hne⟩
    exact ⟨text, rfl, _, isSplit_iff.mpr rfl, part, hpart, he.symm, hne⟩

theorem not_isEntry_none : ¬ IsEntry none e :=
  fun ⟨_, h, _⟩ => nomatch h

instance : Decidable (IsEntry setting e) :=
  match setting with
  | none => isFalse not_isEntry_none
  | some _ => decidable_of_iff' _ isEntry_some_iff

theorem mem_entriesOf_iff {text : String} :
    e ∈ entriesOf text ↔ IsEntry (some text) e ∧ IsOrigin e := by
  rw [isEntry_some_iff, IsOrigin]
  simp only [entriesOf, List.mem_map, List.mem_filter, Bool.and_eq_true, Bool.not_eq_true',
    List.isEmpty_eq_false_iff]
  constructor
  · rintro ⟨cs, ⟨hpart, hne, hvalue⟩, rfl⟩
    rw [String.toList_ofList, ne_eq, String.ofList_eq_empty_iff]
    exact ⟨⟨hpart, hne⟩, hvalue⟩
  · rintro ⟨⟨hpart, hne⟩, hvalue⟩
    rw [ne_eq, ← String.toList_eq_nil_iff] at hne
    exact ⟨e.toList, ⟨hpart, hne, hvalue⟩, String.ofList_toList⟩

theorem mem_entriesOf_getD_iff :
    e ∈ entriesOf (setting.getD "") ↔ IsEntry setting e ∧ IsOrigin e := by
  cases setting with
  | some text => exact mem_entriesOf_iff
  | none => exact ⟨nofun, fun h => absurd h.1 not_isEntry_none⟩

/-! ## Policies -/

theorem ofSetting?_eq_none_iff : Policy.ofSetting? setting = none ↔ IsEntry setting "*" := by
  have hstar : "*" ∈ entriesOf (setting.getD "") ↔ IsEntry setting "*" := by
    rw [mem_entriesOf_getD_iff]
    exact and_iff_left rfl
  rw [← hstar, Policy.ofSetting?]
  split
  next h => simp [List.isEmpty_iff.mp h]
  next => simp

theorem ofSetting?_eq_permissive_iff :
    Policy.ofSetting? setting = some .permissive ↔ ∀ e, IsEntry setting e → ¬ IsOrigin e := by
  have hempty : entriesOf (setting.getD "") = [] ↔ ∀ e, IsEntry setting e → ¬ IsOrigin e := by
    simp only [List.eq_nil_iff_forall_not_mem, mem_entriesOf_getD_iff, not_and]
  rw [← hempty, Policy.ofSetting?]
  split
  next h => simpa using h
  next h =>
    split
    · simpa using h
    · simpa using h

theorem of_ofSetting?_eq_listed {origins : List String}
    (h : Policy.ofSetting? setting = some (.listed origins)) :
    "*" ∉ origins ∧ ∀ e, e ∈ origins ↔ IsEntry setting e ∧ IsOrigin e := by
  rw [Policy.ofSetting?] at h
  split at h
  · cases h
  · split at h
    · cases h
    next hstar =>
      cases h
      exact ⟨by simpa using hstar, fun e => mem_entriesOf_getD_iff⟩

end Cors

/-! ## Grants -/

/-- Headers grant a page of an origin access: they name the origin, or a star for all of them. -/
def Grants (headers : List Header) (o : String) : Prop :=
  ∃ value, ("access-control-allow-origin", value) ∈ headers ∧ (value = o ∨ value = "*")

/-- No header says who has access. -/
def IsSilent (headers : List Header) : Prop :=
  ∀ value, ("access-control-allow-origin", value) ∉ headers

section
variable {headers more : List Header} {o : String}

theorem isSilent_nil : IsSilent [] :=
  fun _ => List.not_mem_nil

theorem isSilent_singleton {h : Header} (hname : h.1 ≠ "access-control-allow-origin") :
    IsSilent [h] := by
  intro value hmem
  rw [List.mem_singleton] at hmem
  exact hname (congrArg Prod.fst hmem.symm)

theorem IsSilent.not_grants (h : IsSilent headers) : ¬ Grants headers o :=
  fun ⟨value, hmem, _⟩ => h value hmem

theorem grants_append : Grants (headers ++ more) o ↔ Grants headers o ∨ Grants more o := by
  simp only [Grants, List.mem_append, or_and_right, exists_or]

theorem IsSilent.grants_append_iff (h : IsSilent headers) :
    Grants (headers ++ more) o ↔ Grants more o := by
  rw [grants_append]
  exact or_iff_right h.not_grants

theorem IsSilent.append_grants_iff (h : IsSilent more) :
    Grants (headers ++ more) o ↔ Grants headers o := by
  rw [grants_append]
  exact or_iff_left h.not_grants

end

namespace Cors
variable {p : Policy} {r : Request} {origin : Option String} {origins : List String} {o : String}

theorem grants_grant_permissive : Grants (Policy.permissive.grant origin) o :=
  ⟨"*", .head _, .inr rfl⟩

/-- A list without a star grants access to the origin of a request alone, and only if it has it. -/
theorem grants_grant_listed_iff (hstar : "*" ∉ origins) :
    Grants ((Policy.listed origins).grant origin) o ↔ origin = some o ∧ o ∈ origins := by
  cases origin with
  | none =>
    constructor
    · rintro ⟨value, hmem, -⟩
      cases hmem
    · rintro ⟨⟨⟩, -⟩
  | some sent =>
    simp only [Policy.grant, List.contains_iff_mem, Option.some.injEq]
    split
    next hsent =>
      constructor
      · rintro ⟨value, hmem, hvalue⟩
        cases List.mem_singleton.mp hmem
        rcases hvalue with rfl | rfl
        · exact ⟨rfl, hsent⟩
        · exact absurd hsent hstar
      · rintro ⟨rfl, -⟩
        exact ⟨sent, .head _, .inl rfl⟩
    next hsent =>
      constructor
      · rintro ⟨value, hmem, -⟩
        cases hmem
      · rintro ⟨rfl, hmem⟩
        exact absurd hmem hsent

theorem isSilent_vary : IsSilent [vary] :=
  isSilent_singleton (by decide)

/-- Of the headers that a policy adds to a response, only the grant says who has access. -/
theorem grants_headers_iff :
    Grants (p.headers r) o ↔ Grants (p.grant (r.header? "origin")) o := by
  cases p with
  | permissive =>
    have hexpose : IsSilent [("access-control-expose-headers", "*")] :=
      isSilent_singleton (by decide)
    exact hexpose.append_grants_iff.trans isSilent_vary.grants_append_iff
  | listed origins => exact isSilent_nil.append_grants_iff.trans isSilent_vary.grants_append_iff

theorem grants_preflightHeaders_iff :
    Grants (p.preflightHeaders r) o ↔ Grants (p.grant (r.header? "origin")) o := by
  have hmore : IsSilent [("access-control-allow-methods", p.methods),
      ("access-control-allow-headers", "*")] := by
    intro value hmem
    simp at hmem
  rw [Policy.preflightHeaders, hmore.append_grants_iff]
  exact isSilent_vary.grants_append_iff

end Cors

/-! ## Responses -/

section
variable {S : Server} {r : Request} {d : Operation.interface.Diary} {response : Response}
  {log : List Log.Event} {o : String}

theorem Response.isSilent_ofJson (status : Nat) (v : Json.Value) :
    IsSilent (Response.ofJson status v).headers :=
  isSilent_singleton (by decide)

theorem Response.isSilent_ofText (status : Nat) (text : String) :
    IsSilent (Response.ofText status text).headers :=
  isSilent_singleton (by decide)

theorem Route.isSilent_allow (route : Route) : IsSilent [route.allow] := by
  apply isSilent_singleton
  show "allow" ≠ "access-control-allow-origin"
  decide

/-- A plan ends with a response that does not say who has access. -/
abbrev Silences (p : Plan Response) : Prop :=
  p.Leads (fun _ response => IsSilent response.headers) []

theorem silences_health (database : Option User.DatabaseFault) : Silences (health database) :=
  ⟨trivial, fun _ => Response.isSilent_ofJson _ _⟩

theorem silences_login (r : Request) : Silences (login r) := by
  unfold login
  split
  · exact Response.isSilent_ofText _ _
  · split
    · exact Response.isSilent_ofJson _ _
    · refine ⟨trivial, fun result => ?_⟩
      rcases result with e | grant <;> exact Response.isSilent_ofJson _ _

theorem silences_refresh (r : Request) : Silences (refresh r) := by
  unfold refresh
  split
  · exact Response.isSilent_ofText _ _
  · refine ⟨trivial, fun result => ?_⟩
    rcases result with e | grant
    · cases e <;> exact Response.isSilent_ofJson _ _
    · exact Response.isSilent_ofJson _ _

theorem silences_verify (r : Request) : Silences (verify r) := by
  unfold verify authenticate
  split
  · exact Response.isSilent_ofJson _ _
  · refine ⟨trivial, fun result => ?_⟩
    rcases result with e | verified <;> exact Response.isSilent_ofJson _ _

theorem silences_logout (r : Request) : Silences (logout r) := by
  unfold logout authenticate
  split
  · exact Response.isSilent_ofJson _ _
  · refine ⟨trivial, fun result => ?_⟩
    rcases result with e | verified
    · exact Response.isSilent_ofJson _ _
    · refine ⟨trivial, fun result => ?_⟩
      rcases result with e | ⟨⟨⟩⟩ <;> exact Response.isSilent_ofJson _ _

/-- No handler says who has access. -/
theorem silences_handler (S : Server) (r : Request) (route : Route) :
    Silences (S.handler r route) := by
  cases route with
  | health => exact silences_health _
  | login => exact silences_login r
  | logout => exact silences_logout r
  | refresh => exact silences_refresh r
  | verify => exact silences_verify r

theorem silences_dispatch (S : Server) (r : Request) : Silences (S.dispatch r) := by
  unfold Server.dispatch
  split
  · exact isSilent_nil
  next route _ =>
    split
    · refine (silences_handler S r route).bind fun d' response _ hsilent => ?_
      show IsSilent _
      split
      · exact hsilent
      · exact hsilent
    · exact route.isSilent_allow

/-- What a response says about who has access is what the policy grants the origin of the
request. -/
theorem grants_response_iff (h : (S.respond r).After d (.done (response, log))) :
    Grants response.headers o ↔ Grants (S.policy.grant (r.header? "origin")) o := by
  unfold Server.respond at h
  split at h
  · obtain ⟨-, hend⟩ := h.of_done
    cases hend
    have hallow : IsSilent ((Route.ofPath? r.path).toList.map Route.allow) := by
      cases Route.ofPath? r.path with
      | none => exact isSilent_nil
      | some route => exact route.isSilent_allow
    exact hallow.append_grants_iff.trans Cors.grants_preflightHeaders_iff
  · have hends : ((S.dispatch r).bind fun response =>
        .done (response.addHeaders (S.policy.headers r),
          [Log.started r, Log.ended r response.status])).Leads
        (fun _ (answer : Response × List Log.Event) =>
          ∃ headers, IsSilent headers ∧ answer.1.headers = headers ++ S.policy.headers r) [] :=
      (silences_dispatch S r).bind fun _ response _ hsilent => ⟨_, hsilent, rfl⟩
    obtain ⟨headers, hsilent, hheaders⟩ := hends.after h
    rw [hheaders]
    exact hsilent.grants_append_iff.trans Cors.grants_headers_iff

end

/-! ## Settings -/

/-- How a server with a setting opens its responses to pages of other origins. -/
structure Cors.OpensAsListed (setting : Option String) : Prop where
  /-- There is no policy just if one of the entries is a star. -/
  halts : Policy.ofSetting? setting = none ↔ IsEntry setting "*"
  /-- The policy is permissive just if no entry can be an origin. -/
  permissive : Policy.ofSetting? setting = some .permissive ↔
    ∀ e, IsEntry setting e → ¬ IsOrigin e
  /-- Each response is open to the origin of its request if that is one of the entries; it is open
  to every origin if no entry can be one. -/
  grants : ∀ S : Server, Policy.ofSetting? setting = some S.policy →
    ∀ r d response log, (S.respond r).After d (.done (response, log)) →
      ∀ o, Grants response.headers o ↔
        (r.header? "origin" = some o ∧ IsEntry setting o ∧ IsOrigin o) ∨
          ∀ e, IsEntry setting e → ¬ IsOrigin e
  /-- So without a star and with an entry that can be an origin, the responses are open to the
  entries. -/
  listed : ¬ IsEntry setting "*" → (∃ e, IsEntry setting e ∧ IsOrigin e) →
    ∃ policy, Policy.ofSetting? setting = some policy ∧ policy ≠ .permissive ∧
      ∀ S : Server, S.policy = policy →
        ∀ r d response log, (S.respond r).After d (.done (response, log)) →
          ∀ o, r.header? "origin" = some o → IsOrigin o →
            (Grants response.headers o ↔ IsEntry setting o)

namespace Cors
variable {setting : Option String}

theorem grants_response_iff_of_setting {S : Server} {r : Request}
    {d : Operation.interface.Diary} {response : Response} {log : List Log.Event}
    (hpolicy : Policy.ofSetting? setting = some S.policy)
    (h : (S.respond r).After d (.done (response, log))) (o : String) :
    Grants response.headers o ↔ (r.header? "origin" = some o ∧ IsEntry setting o ∧ IsOrigin o) ∨
      ∀ e, IsEntry setting e → ¬ IsOrigin e := by
  rw [grants_response_iff h]
  match hkind : S.policy with
  | .permissive =>
    rw [hkind, ofSetting?_eq_permissive_iff] at hpolicy
    exact ⟨fun _ => .inr hpolicy, fun _ => grants_grant_permissive⟩
  | .listed origins =>
    rw [hkind] at hpolicy
    obtain ⟨hstar, hmem⟩ := of_ofSetting?_eq_listed hpolicy
    have hsome : ¬ ∀ e, IsEntry setting e → ¬ IsOrigin e := by
      rw [← ofSetting?_eq_permissive_iff, hpolicy]
      nofun
    rw [grants_grant_listed_iff hstar, hmem]
    exact (or_iff_left hsome).symm

/-- Whatever the setting, the responses of a server are open to its entries, to every origin, or
there is no server. -/
theorem opensAsListed (setting : Option String) : OpensAsListed setting where
  halts := ofSetting?_eq_none_iff
  permissive := ofSetting?_eq_permissive_iff
  grants _ hpolicy _ _ _ _ h := grants_response_iff_of_setting hpolicy h
  listed hstar hsome := by
    obtain ⟨e, hentry, horigin⟩ := hsome
    rw [← ofSetting?_eq_none_iff] at hstar
    obtain ⟨policy, hpolicy⟩ := Option.ne_none_iff_exists'.mp hstar
    have hnot : ¬ ∀ e, IsEntry setting e → ¬ IsOrigin e := fun hall => hall e hentry horigin
    refine ⟨policy, hpolicy, ?_, fun S hS r d response log h o ho horigin => ?_⟩
    · rintro rfl
      exact hnot (ofSetting?_eq_permissive_iff.mp hpolicy)
    · rw [grants_response_iff_of_setting (hS ▸ hpolicy) h o, or_iff_left hnot]
      exact ⟨fun h => h.2.1, fun h => ⟨ho, h, horigin⟩⟩

example : Policy.ofSetting? (some " https://a.example ,, https://b.example") =
    some (.listed ["https://a.example", "https://b.example"]) := by
  decide

/-- A request from a page of another origin for what is not there. -/
def foreignRequest : Request where
  method := "GET"
  target := "/"
  headers := [("origin", "https://evil.example")]

/-- With a single entry that has a control character every origin is granted access, one that is
not an entry as well. With a star among the entries there is no policy. -/
theorem open_to_unlisted :
    (IsEntry (some "https://a\x01.example") "https://a\x01.example" ∧
      ¬ IsEntry (some "https://a\x01.example") "https://evil.example" ∧
      ∃ S : Server, Policy.ofSetting? (some "https://a\x01.example") = some S.policy ∧
        ∃ response log, S.respond foreignRequest = .done (response, log) ∧
          Grants response.headers "https://evil.example") ∧
    IsEntry (some "https://a.example, *") "*" ∧
      Policy.ofSetting? (some "https://a.example, *") = none := by
  have hpath : Route.ofPath? foreignRequest.path = none := by decide
  have hrespond : ∃ log, Server.respond ⟨.permissive, none⟩ foreignRequest =
      .done ((Response.mk 404 [] .empty).addHeaders (Policy.permissive.headers foreignRequest),
        log) := by
    unfold Server.respond Server.dispatch
    rw [if_neg (by decide), hpath]
    exact ⟨_, rfl⟩
  obtain ⟨log, hrespond⟩ := hrespond
  exact ⟨⟨by decide, by decide, ⟨.permissive, none⟩, by decide, _, log, hrespond, "*", by decide,
    .inr rfl⟩, by decide, by decide⟩

end Cors

end SessionLedger.Http
