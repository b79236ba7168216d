/-! How long tokens live. Lifetimes are configured in seconds or days and have to be such that
their milliseconds fit in 64 bits, with either sign. -/
namespace SessionLedger

/-- The greatest number of seconds of a lifetime: the whole ones in 2^63 - 1 milliseconds. -/
def longestLifetime : Int := 9223372036854775

/-- The seconds make a lifetime. -/
def IsLifetime (seconds : Int) : Prop :=
  -longestLifetime ≤ seconds ∧ seconds ≤ longestLifetime

instance (seconds : Int) : Decidable (IsLifetime seconds) :=
  inferInstanceAs (Decidable (_ ∧ _))

/-- The lifetime of that many seconds, where there is one. -/
def lifetimeOfSeconds? (seconds : Int64) : Option Int :=
  if IsLifetime seconds.toInt then some seconds.toInt else none

/-- The lifetime of that many days, in seconds, where there is one. -/
def lifetimeOfDays? (days : Int64) : Option Int :=
  if IsLifetime (86400 * days.toInt) then some (86400 * days.toInt) else none

end SessionLedger
