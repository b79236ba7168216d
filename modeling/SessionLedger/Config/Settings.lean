import SessionLedger.Config.Deployment
import SessionLedger.Config.Masked
import SessionLedger.Config.Variables
import SessionLedger.Session.Settings
/-! The settings of a server, read from variables. Most have a value of their own where the variable
is missing; a number that cannot be read counts as missing, except for that of the port. Settings
are refused if they could not be run with or would weaken the tokens. -/
namespace SessionLedger.Config
open Session Text

/-- Why settings are refused. -/
inductive SettingsError where
  | missing (name : String)
  | unknownDeployment (text : String)
  | invalidPort
  | costOutOfRange
  | equalSecrets
  | lifetimeNotPositive
  | equalPrefixes
  deriving DecidableEq, Repr

/-- The error in words. -/
def SettingsError.message : SettingsError → String
  | .missing name => "Missing required environment variable: " ++ name
  | .unknownDeployment text =>
    "Invalid environment value: Invalid environment: '" ++ text ++
      "'. Expected: dev, staging, or prod"
  | .invalidPort => "Invalid port number: PORT must be a valid number"
  | .costOutOfRange => "Invalid environment value: BCRYPT_COST must be between 4 and 31"
  | .equalSecrets =>
    "Invalid environment value: JWT_ACCESS_SECRET and JWT_REFRESH_SECRET must differ"
  | .lifetimeNotPositive => "Invalid environment value: token TTLs must be positive"
  | .equalPrefixes => "Invalid environment value: cache key prefixes must be distinct"

/-- The settings of a server. Limits are in milliseconds. -/
structure Settings where
  databaseUrl : String
  storeUrl : String
  deployment : Deployment
  port : Nat
  databaseConnections : Nat
  usersLimit : Nat
  requestLimit : Nat
  passwordCost : Nat
  allowedOrigins : Option String
  logLevel : String
  tokens : TokenSettings
  cache : CacheSettings
  deriving DecidableEq, Repr

/-- The secrets of servers that nobody relies on. -/
def developmentAccessSecret : String :=
  "development-access-secret-change-in-production"

@[inherit_doc developmentAccessSecret]
def developmentRefreshSecret : String :=
  "development-refresh-secret-change-in-production"

namespace Settings

/-- The number up to `greatest` under a name. -/
def natural (vars : Variables) (name : String) (greatest standard : Nat) : Nat :=
  ((vars.find? name).bind (Decimal.unsigned? greatest)).getD standard

/-- The 64-bit integer under a name. -/
def integer (vars : Variables) (name : String) (standard : Int64) : Int64 :=
  ((vars.find? name).bind Decimal.signed64?).getD standard

/-- The text under a name. -/
def text (vars : Variables) (name standard : String) : String :=
  (vars.find? name).getD standard

/-- The deployment of a text. -/
def deploymentOf (text : String) : Except SettingsError Deployment :=
  match Deployment.ofText? text with
  | some d => .ok d
  | none => .error (.unknownDeployment text)

/-- The secret under a name; only in production it has to be there. An empty one is none. -/
def secret (vars : Variables) (d : Deployment) (name standard : String) :
    Except SettingsError String :=
  match (vars.find? name).filter (!·.isEmpty) with
  | some value => .ok value
  | none => if d = .production then .error (.missing name) else .ok standard

/-- The secrets and lifetimes of tokens. -/
def readTokens (vars : Variables) (d : Deployment) : Except SettingsError TokenSettings := do
  let t : TokenSettings :=
    { accessSecret := ← secret vars d "JWT_ACCESS_SECRET" developmentAccessSecret
      refreshSecret := ← secret vars d "JWT_REFRESH_SECRET" developmentRefreshSecret
      accessTtlSeconds := integer vars "JWT_ACCESS_TOKEN_TTL_SECONDS" 900
      refreshTtlDays := integer vars "JWT_REFRESH_TOKEN_TTL_DAYS" 7 }
  if t.accessSecret = t.refreshSecret then throw .equalSecrets
  if t.accessTtlSeconds ≤ 0 ∨ t.refreshTtlDays ≤ 0 then throw .lifetimeNotPositive
  return t

/-- The prefixes of keys and the limit of a call to the key-value store. -/
def readCache (vars : Variables) : Except SettingsError CacheSettings := do
  let standard : CacheSettings := {}
  let c : CacheSettings :=
    { accessPrefix := text vars "ACCESS_UUID_PREFIX" standard.accessPrefix
      refreshPrefix := text vars "REFRESH_UUID_PREFIX" standard.refreshPrefix
      userPrefix := text vars "USER_PREFIX" standard.userPrefix
      limit := natural vars "CACHE_TIMEOUT_MS" Decimal.greatest64 standard.limit }
  if c.accessPrefix = c.refreshPrefix ∨ c.accessPrefix = c.userPrefix ∨
      c.refreshPrefix = c.userPrefix then throw .equalPrefixes
  return c

/-- The settings that variables amount to. -/
def ofVariables (vars : Variables) : Except SettingsError Settings := do
  let deployment ← deploymentOf (text vars "ENVIRONMENT" "development")
  let some databaseUrl := vars.find? "DATABASE_URL" | throw (.missing "DATABASE_URL")
  let some port := Decimal.unsigned? Decimal.greatest16 (text vars "PORT" "3001")
    | throw .invalidPort
  let passwordCost := natural vars "BCRYPT_COST" Decimal.greatest32 12
  if !Password.isCost passwordCost then throw .costOutOfRange
  let tokens ← readTokens vars deployment
  let cache ← readCache vars
  return {
    databaseUrl
    storeUrl := text vars "REDIS_URL" "redis://127.0.0.1:6379"
    deployment
    port
    databaseConnections := natural vars "DB_MAX_CONNECTIONS" Decimal.greatest32 5
    usersLimit := natural vars "STORE_TIMEOUT_MS" Decimal.greatest64 2000
    requestLimit := natural vars "REQUEST_TIMEOUT_MS" Decimal.greatest64 5000
    passwordCost
    allowedOrigins := vars.find? "CORS_ALLOWED_ORIGINS"
    logLevel := text vars "RUST_LOG" "info"
    tokens
    cache }

/-- The part of the settings that a session service is built from. -/
def session (s : Settings) : ServiceSettings :=
  ⟨s.cache.userPrefix, s.usersLimit, s.requestLimit, s.passwordCost⟩

end Settings

end SessionLedger.Config
