import SessionLedger.Password.Hash
import SessionLedger.Program
import SessionLedger.Store.State
import SessionLedger.User.Directory
/-! What session operations ask for. The clock and fresh identifiers are at hand. Comparing a
password with a hash is done aside: other programs go on meanwhile. The key-value store and the
store of users are remote: a call to them takes time, and it is given up when a limit passes before
the answer is there. -/
namespace SessionLedger

namespace Remote

/-- A call to one of the two stores. -/
inductive Call where
  | store (c : Store.Call)
  | users (c : User.Directory.Call)
  deriving DecidableEq, Repr

/-- The reply of the store that is called. -/
abbrev Call.Reply : Call → Type
  | .store c => Except Store.Refusal c.Answer
  | .users c => Except User.DirectoryError c.Answer

end Remote

/-- A comparison of a password with a stored hash, or one whose outcome is of no interest and that
only takes as much effort as one with a hash of that cost. -/
inductive Comparison where
  | genuine (password hash : String)
  | decoy (cost : Nat)
  deriving DecidableEq, Repr

/-- The outcome of a comparison: a verdict, or a text that says why it could not be carried out. A
decoy has none, not even whether it was carried out. -/
abbrev Comparison.Outcome : Comparison → Type
  | .genuine .. => Except String Password.Verdict
  | .decoy _ => Unit

namespace Effect

/-- What session operations ask for. -/
inductive Call where
  /-- The milliseconds since the start of 1970. -/
  | clock
  /-- An identifier that has not been given out before. -/
  | uuid
  | compare (c : Comparison)
  /-- A call to a store, given up after that many milliseconds. -/
  | remote (c : Remote.Call) (limit : Option Nat)
  deriving DecidableEq, Repr

/-- The replies; a remote call that was given up has none. -/
abbrev Call.Reply : Call → Type
  | .clock => Nat
  | .uuid => String
  | .compare c => c.Outcome
  | .remote c _ => Option c.Reply

/-- The interface of session operations. -/
abbrev interface : Interface :=
  ⟨Call, Call.Reply⟩

end Effect

/-- A program that asks for what session operations ask for. -/
abbrev Task := Program Effect.interface

namespace Task

/-- Reads the clock. -/
def clock : Task Nat :=
  Program.perform (ι := Effect.interface) .clock

/-- Draws a fresh identifier. -/
def uuid : Task String :=
  Program.perform (ι := Effect.interface) .uuid

/-- Compares a password with a stored hash. -/
def accepts (password hash : String) : Task (Except String Password.Verdict) :=
  Program.perform (ι := Effect.interface) (.compare (.genuine password hash))

/-- Takes as much effort as a comparison with a hash of that cost. -/
def decoy (cost : Nat) : Task Unit :=
  Program.perform (ι := Effect.interface) (.compare (.decoy cost))

/-- Calls the key-value store. -/
def store (limit : Option Nat) (c : Store.Call) : Task (Option (Except Store.Refusal c.Answer)) :=
  Program.perform (ι := Effect.interface) (.remote (.store c) limit)

/-- Calls the store of users. -/
def users (limit : Option Nat) (c : User.Directory.Call) :
    Task (Option (Except User.DirectoryError c.Answer)) :=
  Program.perform (ι := Effect.interface) (.remote (.users c) limit)

end Task

end SessionLedger
