import SessionLedger.Proofs.Http.LoginFailure
import SessionLedger.Proofs.World.Hashes
import SessionLedger.Proofs.World.TimedMap

/-! Password hashes are not seen. Whatever is done to two worlds that differ in password hashes
alone, operation after operation, request after request, with looks at the stores and changes of the
time and the faults in between, it is answered alike in both, and they still differ in hashes alone.
All that a hash decides is whether a password fits, so this is to be the same in both; why it does
not fit need not be. How long a comparison takes is left out: it takes no time, so that the cost
that a hash names cannot show. -/
namespace SessionLedger
open Session User

/-! ## What is done to the store of users -/

/-- What is shown of an answer of the store of users: rows in JSON. -/
abbrev User.Directory.Call.Shown : Directory.Call → Type
  | .findByEmail _ => Json.Value
  | .findById _ => Json.Value
  | .project _ => Projection
  | .recordLogin .. => Unit

/-- Shows an answer of the store of users. -/
def User.Directory.Call.shown :
    (c : Directory.Call) → Except DirectoryError c.Answer → Except DirectoryError c.Shown
  | .findByEmail _, answer => answer.map Row.toJson
  | .findById _, answer => answer.map Row.toJson
  | .project _, answer => answer
  | .recordLogin .., answer => answer

/-- A call to the store of users, which may be given up after so many milliseconds; a look that no
fault prevents; the removal of a user; or a change of the faults. -/
inductive User.Act where
  | call (c : Directory.Call) (limit : Option Nat)
  | row (user : Int64)
  | calls (m : Method)
  | remove (user : Int64)
  | setFault (m : Method) (fault : Option DirectoryError)
  | setLatency (millis : Nat)
  deriving DecidableEq, Repr

/-- What is answered to an act: whether a removed user was there, and nothing to a call that was
given up. -/
abbrev User.Act.Answer : User.Act → Type
  | .call c _ => Option (Except DirectoryError c.Shown)
  | .row _ => Option Json.Value
  | .calls _ => Nat
  | .remove _ => Bool
  | _ => Unit

namespace World
variable {w w' : World}

/-- Carries out an act on the store of users, where nothing else is going on. -/
def actOnUsers (w : World) : (a : User.Act) → World × a.Answer
  | .call c limit => match w.settle none (.remote (.users c) limit) with
    | (w', reply) => (w', (reply.getD none).map c.shown)
  | .row user => (w, (w.users.find? user).map (·.user.toJson))
  | .calls m => (w, w.users.calls m)
  | .remove user => ({ w with users := w.users.remove user }, (w.users.find? user).isSome)
  | .setFault m fault => ({ w with users := w.users.setFault m fault }, ())
  | .setLatency latency => ({ w with users := { w.users with latency } }, ())

end World

/-! ## What is done to a server -/

/-- What is done to a server: an operation of its service, a request, an act on one of its stores,
or a change of the fault that keeps comparisons of passwords from being carried out. -/
inductive Move where
  | operation (op : Operation)
  | request (r : Http.Request)
  | store (a : Store.Act)
  | users (a : User.Act)
  | comparisons (fault : Option String)

/-- What is answered to a move; there is no answer to an operation or a request that halts. -/
abbrev Move.Answer : Move → Type
  | .operation op => Option op.Result
  | .request _ => Option (Http.Response × List Http.Log.Event)
  | .store a => a.Answer
  | .users a => a.Answer
  | .comparisons _ => Unit

namespace World
variable {s : Issuer} {S : Http.Server} {w w' : World} {l l' : List Bool}

/-- Makes a move, where nothing else is going on. -/
def move (s : Issuer) (S : Http.Server) (w : World) : (m : Move) → World × m.Answer
  | .operation op => follow s op.plan w
  | .request r => follow s (S.respond r) w
  | .store a => w.act a
  | .users a => w.actOnUsers a
  | .comparisons fault => ({ w with comparisonFault := fault }, ())

/-- What happens while a move is made. -/
def episode (s : Issuer) (S : Http.Server) (w : World) : Move → List Event
  | .operation op => story s 0 op.plan w
  | .request r => story s 0 (S.respond r) w
  | .store _ => []
  | .users _ => []
  | .comparisons _ => []

/-- Makes moves one after another, and tells what is answered to each. -/
def moves (s : Issuer) (S : Http.Server) : World → List Move → World × List ((m : Move) × m.Answer)
  | w, [] => (w, [])
  | w, m :: rest =>
    ((moves s S (w.move s S m).1 rest).1,
      ⟨m, (w.move s S m).2⟩ :: (moves s S (w.move s S m).1 rest).2)

/-- What happens while moves are made one after another. -/
def episodes (s : Issuer) (S : Http.Server) : World → List Move → List Event
  | _, [] => []
  | w, m :: rest => w.episode s S m ++ episodes s S (w.move s S m).1 rest

/-! ## Acts -/

theorem act_withoutHashes (w : World) (a : Store.Act) :
    w.withoutHashes.act a = unhashed (w.act a) := by
  cases a with
  | call c limit =>
    have hreply : ∀ reply : Option (Option (Except Store.Refusal c.Answer)),
        reply.map (Effect.Call.withoutHash (.remote (.store c) limit)) = reply := by
      rintro (- | - | -) <;> rfl
    simp only [act, settle_withoutHashes, hreply]
    rfl
  | _ => rfl

theorem shown_withoutHash (c : Directory.Call) (answer : Except DirectoryError c.Answer) :
    c.shown (c.withoutHash answer) = c.shown answer := by
  cases c with
  | findByEmail email | findById id => cases answer <;> rfl
  | _ => rfl

theorem remove_withoutHashes (d : Directory) (user : Int64) :
    d.withoutHashes.remove user = (d.remove user).withoutHashes := by
  simp only [Directory.remove, Directory.withoutHashes, List.filter_map]
  rfl

theorem actOnUsers_withoutHashes (w : World) (a : User.Act) :
    w.withoutHashes.actOnUsers a = unhashed (w.actOnUsers a) := by
  have husers : w.withoutHashes.users = w.users.withoutHashes := rfl
  cases a with
  | call c limit =>
    have hreply : ∀ reply : Option (Option (Except DirectoryError c.Answer)),
        ((reply.map (Effect.Call.withoutHash (.remote (.users c) limit))).getD none).map c.shown =
          (reply.getD none).map c.shown := by
      rintro (- | - | answer)
      · rfl
      · rfl
      · exact congrArg some (shown_withoutHash c answer)
    simp only [actOnUsers, settle_withoutHashes, hreply]
    rfl
  | row user =>
    simp only [actOnUsers, husers, Directory.find?_withoutHashes, Option.map_map]
    rfl
  | remove user =>
    simp only [actOnUsers, husers, Directory.find?_withoutHashes, Option.isSome_map,
      remove_withoutHashes]
    rfl
  | _ => rfl

/-! ## Moves -/

/-- A move is answered alike in worlds that differ in hashes alone if its verdicts agree. -/
theorem move_alike (m : Move) (hw : w.withoutHashes = w'.withoutHashes)
    (hv : verdicts (w.episode s S m) ++ l = verdicts (w'.episode s S m) ++ l') :
    unhashed (w.move s S m) = unhashed (w'.move s S m) ∧ l = l' := by
  cases m with
  | operation op => exact follow_alike hw hv
  | request r => exact follow_alike hw hv
  | store a => exact ⟨by rw [move, move, ← act_withoutHashes, hw, act_withoutHashes], hv⟩
  | users a =>
    exact ⟨by rw [move, move, ← actOnUsers_withoutHashes, hw, actOnUsers_withoutHashes], hv⟩
  | comparisons fault =>
    refine ⟨?_, hv⟩
    show ({ w.withoutHashes with comparisonFault := fault }, ()) =
      ({ w'.withoutHashes with comparisonFault := fault }, ())
    rw [hw]

theorem moves_alike (ms : List Move) (hw : w.withoutHashes = w'.withoutHashes)
    (hv : verdicts (episodes s S w ms) = verdicts (episodes s S w' ms)) :
    unhashed (moves s S w ms) = unhashed (moves s S w' ms) := by
  induction ms generalizing w w' with
  | nil => rw [moves, moves, unhashed, unhashed, hw]
  | cons m rest ih =>
    rw [episodes, episodes, verdicts_append, verdicts_append] at hv
    obtain ⟨hmove, hrest⟩ := move_alike m hw hv
    rw [unhashed, unhashed, Prod.mk.injEq] at hmove
    have hmoves := ih hmove.1 hrest
    rw [unhashed, unhashed, Prod.mk.injEq] at hmoves ⊢
    simp only [moves, hmove.2, hmoves.1, hmoves.2, and_self]

/-- Whatever is done to two worlds that differ in password hashes alone, all of it is answered
alike, the stores of both keep the same entries, and the worlds still differ in hashes alone,
provided that each password that is compared with a stored hash fits in the one just when it fits in
the other. Where it does not fit, it may differ in the one, and be compared with a text that is no
hash in the other. It is assumed that comparisons take no time. -/
theorem hashes_unseen (s : Issuer) (S : Http.Server) {w w' : World}
    (hworlds : w.withoutHashes = w'.withoutHashes) (ms : List Move)
    (hverdicts : verdicts (episodes s S w ms) = verdicts (episodes s S w' ms)) :
    (moves s S w ms).2 = (moves s S w' ms).2 ∧
      (moves s S w ms).1.store = (moves s S w' ms).1.store ∧
      (moves s S w ms).1.withoutHashes = (moves s S w' ms).1.withoutHashes := by
  have hmoves := moves_alike ms hworlds hverdicts
  rw [unhashed, unhashed, Prod.mk.injEq] at hmoves
  obtain ⟨hworlds, hanswers⟩ := hmoves
  refine ⟨hanswers, ?_, hworlds⟩
  show (moves s S w ms).1.withoutHashes.store = (moves s S w' ms).1.withoutHashes.store
  rw [hworlds]

/-- Surroundings in which the hash of a password is the password after one character of salt, and
the empty text is no hash. What is stored for two users is given. -/
def saltedWorld (ada bob : String) : World :=
  { sampleWorld 7 with
    accepts := fun password hash => match hash.toList with
      | [] => .unusable
      | _ :: rest => if String.ofList rest = password then .fits else .differs
    users :=
      { accounts :=
          [⟨{ sampleUser 7 with passwordHash := ada }, none, none, none, none, none, false⟩,
            ⟨{ sampleUser 8 with email := "bob@example.org", passwordHash := bob }, none, none,
              none, none, none, false⟩] } }

/-- A login, one with a wrong password, one by a request, looks at both stores, and a login when
passwords cannot be compared. -/
def sampleMoves : List Move :=
  [.operation sampleLogin, .operation (.login "bob@example.org" "guess"),
    .request (loginRequest "ada@example.org" "secret"), .users (.row 8), .store (.liveKeys ""),
    .comparisons (some "no thread"), .operation sampleLogin]

/-- With two salts for the one user, and for the other a hash and none, all of this is answered
alike; the first and the third login succeed. -/
theorem hashes_unseen_of_salts :
    verdicts (episodes sampleIssuer ⟨.permissive, none⟩ (saltedWorld "1secret" "1other")
        sampleMoves) = [true, false, true, false] ∧
      (saltedWorld "1secret" "1other").outcome (.genuine "guess" "1other") = .ok .differs ∧
      (saltedWorld "2secret" "").outcome (.genuine "guess" "") = .ok .unusable ∧
      (moves sampleIssuer ⟨.permissive, none⟩ (saltedWorld "1secret" "1other") sampleMoves).2 =
        (moves sampleIssuer ⟨.permissive, none⟩ (saltedWorld "2secret" "") sampleMoves).2 := by
  have hfirst : verdicts (episodes sampleIssuer ⟨.permissive, none⟩
      (saltedWorld "1secret" "1other") sampleMoves) = [true, false, true, false] := by
    decide +kernel
  have hsecond : verdicts (episodes sampleIssuer ⟨.permissive, none⟩
      (saltedWorld "2secret" "") sampleMoves) = [true, false, true, false] := by
    decide +kernel
  have hworlds : (saltedWorld "1secret" "1other").withoutHashes =
      (saltedWorld "2secret" "").withoutHashes := rfl
  exact ⟨hfirst, rfl, rfl, (hashes_unseen sampleIssuer ⟨.permissive, none⟩ hworlds sampleMoves
    (hfirst.trans hsecond.symm)).1⟩

end World

end SessionLedger
