import SessionLedger.Session.Lifecycle
/-! The operations of a service as data: what each results in, its program, and the deadline of
those that have one. A plan is a program over operations. -/
namespace SessionLedger.Session
open Token User

/-- An operation of a service, of the ledger, or of the cache below them. -/
inductive Operation where
  | login (email password : String)
  | refresh (token : String)
  | verify (token : String)
  | logout (identity : Subject)
  | profile (user : Int64)
  | dropProfile (user : Int64)
  | mint (user : Int64)
  | register (pair : Pair)
  | revoke (accessUuid refreshUuid : String)
  | checkToken (token : String) (kind : Kind)
  | issue (kind : Kind) (subject : Subject) (ttl : Int)
  | parse (token : String) (kind : Kind)
  | cacheSet (key value : String) (lifetime : Nat)
  | cacheGet (key : String)
  | cacheDelete (keys : List String)
  | cachePing
  | cacheSetSnapshot (key : String) (snapshot : Snapshot) (lifetime : Nat)
  | cacheGetSnapshot (key : String)
  | store (c : Store.Call)
  deriving DecidableEq, Repr

namespace Operation

/-- What an operation results in. -/
abbrev Result : Operation → Type
  | .login .. | .refresh _ => Except SessionError Grant
  | .verify _ => Except SessionError Verified
  | .logout _ | .dropProfile _ => Except SessionError Unit
  | .profile _ => Except SessionError Snapshot
  | .mint _ => Pair
  | .register _ | .cacheSet .. | .cachePing | .cacheSetSnapshot .. => Except CacheFault Unit
  | .revoke .. | .cacheDelete _ => Except CacheFault Nat
  | .checkToken .. => Except CheckError Claims
  | .issue .. => Signed
  | .parse .. => Except SignerFault Claims
  | .cacheGet _ => Except CacheFault String
  | .cacheGetSnapshot _ => Except CacheFault Snapshot
  | .store c => Except CacheFault c.Answer

/-- The program of an operation. -/
def task (s : Issuer) : (op : Operation) → Task op.Result
  | .login email password => s.login email password
  | .refresh token => s.refresh token
  | .verify token => s.verify token
  | .logout identity => s.logout identity
  | .profile user => s.profile user
  | .dropProfile user => s.dropProfile user
  | .mint user => s.mint user
  | .register pair => s.register pair
  | .revoke accessUuid refreshUuid => s.revoke accessUuid refreshUuid
  | .checkToken token kind => s.checkToken token kind
  | .issue kind subject ttl => do
    Program.orHalt (s.signer.issue? (← Task.clock) kind subject ttl)
  | .parse token kind => do return s.signer.claimsOf (← Task.clock) token kind
  | .cacheSet key value lifetime => Cache.set s.cacheLimit key value lifetime
  | .cacheGet key => Cache.get s.cacheLimit key
  | .cacheDelete keys => Cache.delete s.cacheLimit keys
  | .cachePing => Cache.ping s.cacheLimit
  | .cacheSetSnapshot key snapshot lifetime =>
    Cache.setSnapshot s.cacheLimit key snapshot lifetime
  | .cacheGetSnapshot key => Cache.getSnapshot s.cacheLimit key
  | .store c => Cache.ask none c

/-- The time an operation may take and its result if it takes longer. -/
def deadline (s : Issuer) : (op : Operation) → Option (Nat × op.Result)
  | .login .. | .refresh _ | .verify _ | .logout _ =>
    some (s.requestLimit, .error .deadlineExceeded)
  | _ => none

end Operation

/-- The interface of plans. -/
abbrev Operation.interface : Interface :=
  ⟨Operation, Operation.Result⟩

/-- A program over operations. -/
abbrev Plan := Program Operation.interface

/-- The plan of one operation. -/
def Operation.plan (op : Operation) : Plan op.Result :=
  Program.perform (ι := Operation.interface) op

end SessionLedger.Session
