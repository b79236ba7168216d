import SessionLedger.Json.Scalar
import SessionLedger.Json.Value
/-! The two kinds of token. Each kind is signed with a secret of its own and lives for a time of
its own. -/
namespace SessionLedger.Token

/-- An access token authenticates requests; a refresh token buys a new pair. -/
inductive Kind where
  | access
  | refresh
  deriving DecidableEq, Repr

/-- The name of a kind in claims. -/
def Kind.name : Kind → String
  | .access => "access"
  | .refresh => "refresh"

/-- The kind of that name. -/
def Kind.ofName? (name : String) : Option Kind :=
  if name = Kind.access.name then some .access
  else if name = Kind.refresh.name then some .refresh
  else none

/-- Reads a kind by its name. -/
def Kind.reader : Json.Reader Kind :=
  .choice Kind.ofName?

/-- A kind in JSON. -/
def Kind.toJson (kind : Kind) : Json.Value :=
  .text kind.name

@[simp] theorem Kind.ofName?_name (kind : Kind) : Kind.ofName? kind.name = some kind := by
  cases kind <;> decide

theorem Kind.ofName?_eq_some_iff {name : String} {kind : Kind} :
    Kind.ofName? name = some kind ↔ name = kind.name := by
  constructor
  · intro h
    unfold Kind.ofName? at h
    split at h
    · next h' => cases h; exact h'
    · split at h
      · next h' => cases h; exact h'
      · cases h
  · rintro rfl
    exact Kind.ofName?_name kind

end SessionLedger.Token
