import SessionLedger.Config.Settings
import SessionLedger.Proofs.Session.Minted
import SessionLedger.Proofs.World.Lone

/-! What is known of settings that are accepted, and how far they can be run with. Lifetimes are
checked to be positive but not to be short: a service is built if their milliseconds have 64 bits,
and it mints pairs in every year of four digits if no expiry then lies beyond the calendar. -/
namespace SessionLedger
open Config Session Token

namespace Config.Settings

/-- What settings are checked for. -/
structure IsChecked (c : Settings) : Prop where
  cost : Password.isCost c.passwordCost = true
  secrets : c.tokens.accessSecret ≠ c.tokens.refreshSecret
  accessTtl : 0 < c.tokens.accessTtlSeconds
  refreshTtl : 0 < c.tokens.refreshTtlDays
  access_refresh : c.cache.accessPrefix ≠ c.cache.refreshPrefix
  access_user : c.cache.accessPrefix ≠ c.cache.userPrefix
  refresh_user : c.cache.refreshPrefix ≠ c.cache.userPrefix

variable {vars : Variables} {c : Settings}

/-- Tokens are issued with secrets that have been found, and the checks have passed. -/
theorem of_readTokens {d : Deployment} {t : TokenSettings} (h : readTokens vars d = .ok t) :
    secret vars d "JWT_ACCESS_SECRET" developmentAccessSecret = .ok t.accessSecret ∧
      secret vars d "JWT_REFRESH_SECRET" developmentRefreshSecret = .ok t.refreshSecret ∧
      t.accessSecret ≠ t.refreshSecret ∧ 0 < t.accessTtlSeconds ∧ 0 < t.refreshTtlDays := by
  simp only [readTokens, bind_eq_ok_iff] at h
  obtain ⟨access, haccess, refresh, hrefresh, h⟩ := h
  split at h
  · cases h
  next hsecrets =>
    split at h
    · cases h
    next hlifetimes =>
      cases h
      rw [not_or, Int64.not_le, Int64.not_le] at hlifetimes
      exact ⟨haccess, hrefresh, hsecrets, hlifetimes⟩

theorem of_readCache {cache : CacheSettings} (h : readCache vars = .ok cache) :
    cache.accessPrefix ≠ cache.refreshPrefix ∧ cache.accessPrefix ≠ cache.userPrefix ∧
      cache.refreshPrefix ≠ cache.userPrefix := by
  simp only [readCache] at h
  split at h
  · cases h
  next hprefixes =>
    cases h
    simpa only [not_or] using hprefixes

/-- Settings that are accepted have a cost that is allowed, and the parts that are read on their
own have been accepted, too. -/
theorem of_ofVariables (h : ofVariables vars = .ok c) :
    Password.isCost c.passwordCost = true ∧ readTokens vars c.deployment = .ok c.tokens ∧
      readCache vars = .ok c.cache := by
  simp only [ofVariables, bind_eq_ok_iff] at h
  obtain ⟨deployment, -, h⟩ := h
  split at h
  next databaseUrl _ =>
    split at h
    next port _ =>
      split at h
      · cases h
      next hcost =>
        simp only [bind_eq_ok_iff] at h
        obtain ⟨tokens, htokens, cache, hcache, h⟩ := h
        cases h
        exact ⟨by simpa using hcost, htokens, hcache⟩
    · cases h
  · cases h

/-- Settings that are accepted have been checked. -/
theorem isChecked_of_ofVariables (h : ofVariables vars = .ok c) : c.IsChecked := by
  obtain ⟨hcost, htokens, hcache⟩ := of_ofVariables h
  obtain ⟨-, -, hsecrets, haccess, hrefresh⟩ := of_readTokens htokens
  obtain ⟨har, hau, hru⟩ := of_readCache hcache
  exact ⟨hcost, hsecrets, haccess, hrefresh, har, hau, hru⟩

/-! ## Services -/

/-- The lifetime that is configured for a kind of token, in seconds. -/
def ttl (c : Settings) : Kind → Int
  | .access => c.tokens.accessTtlSeconds.toInt
  | .refresh => 86400 * c.tokens.refreshTtlDays.toInt

/-- The service with these settings. -/
def issuer (c : Settings) : Issuer where
  signer := ⟨c.tokens.accessSecret, c.tokens.refreshSecret⟩
  accessTtl := c.ttl .access
  refreshTtl := c.ttl .refresh
  accessPrefix := c.cache.accessPrefix
  refreshPrefix := c.cache.refreshPrefix
  userPrefix := c.cache.userPrefix
  cacheLimit := c.cache.limit
  usersLimit := c.usersLimit
  requestLimit := c.requestLimit
  decoyCost := c.passwordCost

/-- What building a service from these settings comes to. -/
def service? (c : Settings) : Option (Except SessionError Issuer) :=
  Issuer.build? c.tokens c.cache c.session

@[simp] theorem ttl_issuer (c : Settings) (kind : Kind) : c.issuer.ttl kind = c.ttl kind := by
  cases kind <;> rfl

theorem IsChecked.ttl_pos (h : c.IsChecked) (kind : Kind) : 0 < c.ttl kind := by
  have haccess := Int64.lt_iff_toInt_lt.mp h.accessTtl
  have hrefresh := Int64.lt_iff_toInt_lt.mp h.refreshTtl
  rw [Int64.toInt_zero] at haccess hrefresh
  cases kind with
  | access => exact haccess
  | refresh =>
    show 0 < 86400 * c.tokens.refreshTtlDays.toInt
    omega

/-- A positive number of seconds makes a lifetime if it is not too long. -/
theorem IsChecked.isLifetime_iff (h : c.IsChecked) (kind : Kind) :
    IsLifetime (c.ttl kind) ↔ c.ttl kind ≤ longestLifetime := by
  have hpos := h.ttl_pos kind
  simp only [IsLifetime, longestLifetime]
  omega

/-- Where no lifetime is too long, a service is built. -/
theorem IsChecked.service?_eq_some (h : c.IsChecked)
    (hall : ∀ kind, c.ttl kind ≤ longestLifetime) : c.service? = some (.ok c.issuer) := by
  have hcost : Password.isCost c.session.passwordCost = true := h.cost
  have haccess : IsLifetime c.tokens.accessTtlSeconds.toInt :=
    (h.isLifetime_iff .access).mpr (hall .access)
  have hrefresh : IsLifetime (86400 * c.tokens.refreshTtlDays.toInt) :=
    (h.isLifetime_iff .refresh).mpr (hall .refresh)
  simp only [service?, Issuer.build?, TokenSettings.lifetimes?, lifetimeOfSeconds?,
    lifetimeOfDays?, if_pos haccess, if_pos hrefresh, if_pos hcost]
  rfl

/-- Where one is, none is. -/
theorem IsChecked.service?_eq_none (h : c.IsChecked) (kind : Kind)
    (hlong : longestLifetime < c.ttl kind) : c.service? = none := by
  have hnone : ¬ IsLifetime (c.ttl kind) := by
    rw [h.isLifetime_iff]
    omega
  simp only [service?, Issuer.build?, TokenSettings.lifetimes?, Option.map_eq_none_iff]
  cases kind with
  | access =>
    have haccess : lifetimeOfSeconds? c.tokens.accessTtlSeconds = none := if_neg hnone
    rw [haccess]
    rfl
  | refresh =>
    have hrefresh : lifetimeOfDays? c.tokens.refreshTtlDays = none := if_neg hnone
    rw [hrefresh]
    cases lifetimeOfSeconds? c.tokens.accessTtlSeconds <;> rfl

/-- Nothing but a lifetime that is too long keeps a service from being built. -/
theorem IsChecked.service?_cases (h : c.IsChecked) :
    (c.service? = some (.ok c.issuer) ∧ ∀ kind, c.ttl kind ≤ longestLifetime) ∨
      c.service? = none ∧ ∃ kind, longestLifetime < c.ttl kind := by
  by_cases hall : ∀ kind, c.ttl kind ≤ longestLifetime
  · exact .inl ⟨h.service?_eq_some hall, hall⟩
  · obtain ⟨kind, hkind⟩ := Classical.not_forall.mp hall
    have hlong : longestLifetime < c.ttl kind := by omega
    exact .inr ⟨h.service?_eq_none kind hlong, kind, hlong⟩

end Config.Settings

/-! ## Minting -/

/-- It is one of the years 1970 to 9999. -/
def World.HasFourDigitYear (w : World) : Prop :=
  (w.clock : Int) < 86400000 * Time.firstDay 10000

/-- In each of these years a pair is minted for every user, and its tokens expire after the second
in which they are issued. -/
def Session.Issuer.AlwaysMints (s : Issuer) : Prop :=
  ∀ (w : World) (user : Int64), w.HasFourDigitYear →
    ∃ w' pair, w.perform s (.mint user) = (w', some pair) ∧
      ∀ kind, (w.clock / 1000 : Nat) < (pair.expiry kind).toInt

/-- The seconds from the start of the year 10000 to the end of the calendar. -/
def longestMinted : Int :=
  86400 * (Time.firstDay (Time.lastYear + 1) - Time.firstDay 10000)

/-- How far settings can be run with. -/
structure Config.Settings.Capacity (c : Settings) : Prop where
  built : c.service? = some (.ok c.issuer) ↔ ∀ kind, c.ttl kind ≤ longestLifetime
  halted : c.service? = none ↔ ∃ kind, longestLifetime < c.ttl kind
  /-- Minting halts where an expiry lies beyond the calendar. -/
  unminted : ∀ (w : World) user, (w.perform c.issuer (.mint user)).2 = none ↔
    ∃ kind, 86400 * Time.firstDay (Time.lastYear + 1) ≤ (w.clock / 1000 : Nat) + c.ttl kind
  minted : ∀ (w w' : World) user pair, w.perform c.issuer (.mint user) = (w', some pair) →
    ∀ kind, (pair.expiry kind).toInt = (w.clock / 1000 : Nat) + c.ttl kind ∧
      (w.clock / 1000 : Nat) < (pair.expiry kind).toInt
  runs : (c.service? = some (.ok c.issuer) ∧ c.issuer.AlwaysMints) ↔
    ∀ kind, c.ttl kind ≤ longestMinted

/-- The seconds from 1970 on lie in the calendar up to its end. -/
theorem isStampSecond_iff {second : Int} (h : 0 ≤ second) :
    Time.IsStampSecond second ↔ second < 86400 * Time.firstDay (Time.lastYear + 1) := by
  simp only [Time.IsStampSecond, Time.IsStampDay, Time.firstYear, Time.lastYear, Time.firstDay]
  omega

namespace Config.Settings
variable {vars : Variables} {c : Settings} {w w' : World} {user : Int64} {pair : Pair}

/-- A pair is minted just if neither of its expiries lies beyond the calendar. -/
theorem IsChecked.exists_mint_iff (h : c.IsChecked) (w : World) (user : Int64) :
    (∃ w' pair, w.perform c.issuer (.mint user) = (w', some pair)) ↔
      ∀ kind, (w.clock / 1000 : Nat) + c.ttl kind <
        86400 * Time.firstDay (Time.lastYear + 1) := by
  have hstamp : ∀ kind, Time.IsStampSecond ((w.clock / 1000 : Nat) + c.issuer.ttl kind) ↔
      (w.clock / 1000 : Nat) + c.ttl kind < 86400 * Time.firstDay (Time.lastYear + 1) := by
    intro kind
    have hpos := h.ttl_pos kind
    rw [ttl_issuer]
    exact isStampSecond_iff (by omega)
  have hpair : (∃ pair, c.issuer.pairAt? w.clock
      ⟨user, w.supply w.drawn, w.supply (w.drawn + 1)⟩ = some pair) ↔
      ∀ kind, Time.IsStampSecond ((w.clock / 1000 : Nat) + c.issuer.ttl kind) :=
    Issuer.exists_pairAt?_iff
  rw [← forall_congr' hstamp, ← hpair]
  simp only [World.perform_mint, Prod.mk.injEq]
  constructor
  · rintro ⟨w', pair, -, hpair⟩
    exact ⟨pair, hpair⟩
  · rintro ⟨pair, hpair⟩
    exact ⟨_, pair, rfl, hpair⟩

theorem IsChecked.mint_eq_none_iff (h : c.IsChecked) (w : World) (user : Int64) :
    (w.perform c.issuer (.mint user)).2 = none ↔
      ∃ kind, 86400 * Time.firstDay (Time.lastYear + 1) ≤ (w.clock / 1000 : Nat) + c.ttl kind := by
  have hmint := h.exists_mint_iff w user
  constructor
  · intro hnone
    obtain ⟨kind, hkind⟩ := Classical.not_forall.mp fun hall => by
      obtain ⟨w', pair, hpair⟩ := hmint.mpr hall
      rw [hpair] at hnone
      cases hnone
    exact ⟨kind, by omega⟩
  · rintro ⟨kind, hkind⟩
    match hresult : (w.perform c.issuer (.mint user)).2 with
    | none => rfl
    | some pair =>
      have hfits := hmint.mp ⟨_, pair, Prod.ext rfl hresult⟩ kind
      omega

/-- The tokens of a pair expire after the second in which it is minted. -/
theorem IsChecked.expiry_of_mint (h : c.IsChecked)
    (hmint : w.perform c.issuer (.mint user) = (w', some pair)) (kind : Kind) :
    (pair.expiry kind).toInt = (w.clock / 1000 : Nat) + c.ttl kind ∧
      (w.clock / 1000 : Nat) < (pair.expiry kind).toInt := by
  rw [World.perform_mint, Prod.mk.injEq] at hmint
  have hpos := h.ttl_pos kind
  have hexpiry := Issuer.pairAt?_expiry hmint.2 kind
  rw [ttl_issuer] at hexpiry
  omega

theorem IsChecked.alwaysMints_iff (h : c.IsChecked) :
    c.issuer.AlwaysMints ↔ ∀ kind, c.ttl kind ≤ longestMinted := by
  have hday : Time.firstDay 10000 = 2932897 := rfl
  simp only [longestMinted, hday]
  constructor
  · intro hmints kind
    -- The last second of the year 9999 is the worst case.
    obtain ⟨w, hw⟩ : ∃ w : World, w.clock = 253402300799999 :=
      ⟨{ clock := 253402300799999, accepts := fun _ _ => .fits }, rfl⟩
    have hyear : w.HasFourDigitYear := by
      rw [World.HasFourDigitYear, hday]
      omega
    obtain ⟨w', pair, hmint, -⟩ := hmints w 1 hyear
    have hfits := (h.exists_mint_iff w 1).mp ⟨w', pair, hmint⟩ kind
    omega
  · intro hall w user hyear
    rw [World.HasFourDigitYear, hday] at hyear
    obtain ⟨w', pair, hmint⟩ := (h.exists_mint_iff w user).mpr fun kind => by
      have hkind := hall kind
      omega
    exact ⟨w', pair, hmint, fun kind => (h.expiry_of_mint hmint kind).2⟩

/-- Settings that are accepted can be run with if both lifetimes are at most as long as the
calendar goes on after the year 9999. Where a lifetime is longer, building the service halts, or
minting a pair does near the end of that year. -/
theorem capacity_of_ofVariables (h : ofVariables vars = .ok c) : c.Capacity := by
  have hchecked := isChecked_of_ofVariables h
  have hbuilt : c.service? = some (.ok c.issuer) ↔ ∀ kind, c.ttl kind ≤ longestLifetime := by
    rcases hchecked.service?_cases with ⟨hsome, hall⟩ | ⟨hnone, kind, hkind⟩
    · exact ⟨fun _ => hall, fun _ => hsome⟩
    · rw [hnone]
      exact ⟨nofun, fun hall => absurd (hall kind) (by omega)⟩
  have hhalted : c.service? = none ↔ ∃ kind, longestLifetime < c.ttl kind := by
    rcases hchecked.service?_cases with ⟨hsome, hall⟩ | ⟨hnone, hlong⟩
    · rw [hsome]
      exact ⟨nofun, fun ⟨kind, hkind⟩ => absurd (hall kind) (by omega)⟩
    · exact ⟨fun _ => hlong, fun _ => hnone⟩
  refine ⟨hbuilt, hhalted, hchecked.mint_eq_none_iff, fun _ _ _ _ => hchecked.expiry_of_mint, ?_⟩
  rw [hbuilt, hchecked.alwaysMints_iff]
  constructor
  · exact And.right
  · intro hall
    have hle : longestMinted ≤ longestLifetime := by decide
    exact ⟨fun kind => Int.le_trans (hall kind) hle, hall⟩

/-- The settings of a server with the usual ones but for the lifetime of access tokens and the
prefix of snapshots. -/
def sampleSettings (accessTtl : Int64) (userPrefix : String) : Settings where
  databaseUrl := "postgres://localhost/sessions"
  storeUrl := "redis://127.0.0.1:6379"
  deployment := .development
  port := 3001
  databaseConnections := 5
  usersLimit := 2000
  requestLimit := 5000
  passwordCost := 12
  allowedOrigins := none
  logLevel := "info"
  tokens := ⟨developmentAccessSecret, developmentRefreshSecret, accessTtl, 7⟩
  cache := { userPrefix }

/-- The variables for these settings, with the lifetime as text. -/
def sampleVariables (accessTtl userPrefix : String) : Variables :=
  [("DATABASE_URL", "postgres://localhost/sessions"),
    ("JWT_ACCESS_TOKEN_TTL_SECONDS", accessTtl), ("USER_PREFIX", userPrefix)]

theorem ofVariables_usual :
    ofVariables (sampleVariables "900" "user:") = .ok (sampleSettings 900 "user:") :=
  eq_ok_of_toOption (by decide +kernel)

/-- With the usual settings a service is built and mints pairs in all of these years. -/
theorem capacity_of_usual :
    (sampleSettings 900 "user:").service? = some (.ok (sampleSettings 900 "user:").issuer) ∧
      (sampleSettings 900 "user:").issuer.AlwaysMints :=
  (capacity_of_ofVariables ofVariables_usual).runs.mpr fun kind => by
    cases kind <;> decide

/-- A lifetime of all the seconds that fit in 64 bits is accepted, but no service can be built with
it. One of nine million million seconds is accepted, too, and a service is built, but no pair can
be minted in the year 2023. -/
theorem accepted_without_capacity :
    (ofVariables (sampleVariables "9223372036854775807" "user:") =
        .ok (sampleSettings 9223372036854775807 "user:") ∧
      (sampleSettings 9223372036854775807 "user:").service? = none) ∧
    ofVariables (sampleVariables "9000000000000" "user:") =
        .ok (sampleSettings 9000000000000 "user:") ∧
      (sampleSettings 9000000000000 "user:").service? =
        some (.ok (sampleSettings 9000000000000 "user:").issuer) ∧
      ∀ w : World, w.clock = 1700000000250 →
        (w.perform (sampleSettings 9000000000000 "user:").issuer (.mint 1)).2 = none := by
  have hlongest : ofVariables (sampleVariables "9223372036854775807" "user:") =
      .ok (sampleSettings 9223372036854775807 "user:") := eq_ok_of_toOption (by decide +kernel)
  have hlong : ofVariables (sampleVariables "9000000000000" "user:") =
      .ok (sampleSettings 9000000000000 "user:") := eq_ok_of_toOption (by decide +kernel)
  have hchecked := isChecked_of_ofVariables hlong
  refine ⟨⟨hlongest, ?_⟩, hlong, ?_, fun w hw => ?_⟩
  · exact (isChecked_of_ofVariables hlongest).service?_eq_none .access (by decide)
  · exact hchecked.service?_eq_some fun kind => by cases kind <;> decide
  · rw [hchecked.mint_eq_none_iff, hw]
    exact ⟨.access, by decide⟩

end Config.Settings

end SessionLedger
