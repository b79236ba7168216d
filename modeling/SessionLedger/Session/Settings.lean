import SessionLedger.Password.Hash
import SessionLedger.Session.Error
import SessionLedger.Session.Issuer
/-! The settings that a service is built from. Building halts where a lifetime is out of range, and
fails where the cost of password hashes is not allowed. -/
namespace SessionLedger.Session

/-- The secrets and the lifetimes of tokens. -/
structure TokenSettings where
  accessSecret : String
  refreshSecret : String
  accessTtlSeconds : Int64
  refreshTtlDays : Int64
  deriving DecidableEq, Repr

/-- The prefixes of keys, and the limit of a call to the key-value store in milliseconds. -/
structure CacheSettings where
  accessPrefix : String := "access:"
  refreshPrefix : String := "refresh:"
  userPrefix : String := "user:"
  limit : Nat := 500
  deriving DecidableEq, Repr

/-- The prefix of snapshots, limits in milliseconds, and the cost of the hash that a password for
an unknown email is compared with. -/
structure ServiceSettings where
  userPrefix : String := "user:"
  usersLimit : Nat := 2000
  requestLimit : Nat := 5000
  passwordCost : Nat := 12
  deriving DecidableEq, Repr

/-- What is wrong with a cost that is not allowed. -/
def costError (cost : Nat) : SessionError :=
  .internal ("failed to build decoy hash: Cost needs to be between " ++
    toString Password.leastCost ++ " and " ++ toString Password.greatestCost ++ ", got " ++
    toString cost)

/-- The lifetimes of access and refresh tokens, where both are in range. -/
def TokenSettings.lifetimes? (t : TokenSettings) : Option (Int × Int) := do
  return (← lifetimeOfSeconds? t.accessTtlSeconds, ← lifetimeOfDays? t.refreshTtlDays)

/-- Builds a service; there is none where a lifetime is out of range. -/
def Issuer.build? (t : TokenSettings) (c : CacheSettings) (s : ServiceSettings) :
    Option (Except SessionError Issuer) :=
  t.lifetimes?.map fun (accessTtl, refreshTtl) =>
    if Password.isCost s.passwordCost then
      .ok {
        signer := ⟨t.accessSecret, t.refreshSecret⟩
        accessTtl
        refreshTtl
        accessPrefix := c.accessPrefix
        refreshPrefix := c.refreshPrefix
        userPrefix := s.userPrefix
        cacheLimit := c.limit
        usersLimit := s.usersLimit
        requestLimit := s.requestLimit
        decoyCost := s.passwordCost }
    else .error (costError s.passwordCost)

end SessionLedger.Session
