/-! Where a server is deployed. -/
namespace SessionLedger.Config

/-- The purpose that a server is run for. -/
inductive Deployment where
  | development
  | staging
  | production
  deriving DecidableEq, Repr

namespace Deployment

/-- The name of a deployment. -/
def name : Deployment → String
  | .development => "development"
  | .staging => "staging"
  | .production => "production"

/-- The deployment that a text names, in full or in short, without regard to case. The only other
character whose lower case is an ASCII letter is the Kelvin sign, and no name has a k. -/
def ofText? (text : String) : Option Deployment :=
  let lower := text.map Char.toLower
  if lower = "dev" ∨ lower = "development" then some .development
  else if lower = "staging" then some .staging
  else if lower = "prod" ∨ lower = "production" then some .production
  else none

end Deployment

end SessionLedger.Config
