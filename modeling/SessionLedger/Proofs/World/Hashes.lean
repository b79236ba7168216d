import SessionLedger.Proofs.Session.Hashes
import SessionLedger.Proofs.User.Directory
import SessionLedger.Proofs.World.Story

/-! Worlds that differ in password hashes alone. Their stores answer alike but for the hashes of
rows. So programs that differ in hashes alone come to the same in them, and leave worlds that still
differ in hashes alone, provided that passwords fit in the one just when they do in the other. -/
namespace SessionLedger
open Session User

/-! ## The store of users -/

namespace User

/-- The account without its hash. -/
def Account.withoutHash (a : Account) : Account :=
  { a with user := a.user.withoutHash }

/-- The store of users without the hashes. -/
def Directory.withoutHashes (d : Directory) : Directory :=
  { d with accounts := d.accounts.map Account.withoutHash }

namespace Directory
variable {α β : Type}

theorem find?_withoutHashes (d : Directory) (id : Int64) :
    d.withoutHashes.find? id = (d.find? id).map Account.withoutHash := by
  rw [find?, withoutHashes, List.find?_map]
  rfl

theorem findByEmail_withoutHashes (d : Directory) (email : String) :
    d.withoutHashes.accounts.find? (fun a => a.user.email == email) =
      (d.accounts.find? fun a => a.user.email == email).map Account.withoutHash := by
  rw [withoutHashes, List.find?_map]
  rfl

theorem place_withoutHash (a : Account) (accounts : List Account) :
    place a.withoutHash (accounts.map Account.withoutHash) =
      (place a accounts).map Account.withoutHash := by
  induction accounts with
  | nil => rfl
  | cons b rest ih =>
    have hid : ∀ a : Account, a.withoutHash.user.id = a.user.id := fun _ => rfl
    simp only [List.map_cons, place, hid, ih]
    split
    · rfl
    · split <;> rfl

theorem insert_withoutHashes (d : Directory) (a : Account) :
    d.withoutHashes.insert a.withoutHash = (d.insert a).withoutHashes := by
  simp only [insert, withoutHashes, place_withoutHash]

theorem found_map (f : α → β) (o : Option α) : found (o.map f) = (found o).map f := by
  cases o <;> rfl

/-- Without the hashes the store answers the same call without the hash. -/
theorem answerSound_withoutHashes (d : Directory) (c : Call) :
    d.withoutHashes.answerSound c =
      ((d.answerSound c).1.withoutHashes, c.withoutHash (d.answerSound c).2) := by
  cases c with
  | findByEmail email =>
    simp only [answerSound, findByEmail_withoutHashes, Call.withoutHash, ← found_map,
      Option.map_map]
    rfl
  | findById id =>
    simp only [answerSound, find?_withoutHashes, Call.withoutHash, ← found_map, Option.map_map]
    rfl
  | project id =>
    simp only [answerSound, find?_withoutHashes, Call.withoutHash, Option.map_map]
    rfl
  | recordLogin id instant =>
    have hlogged : ∀ a : Account,
        a.withoutHash.loggedIn instant = (a.loggedIn instant).withoutHash := fun _ => rfl
    simp only [answerSound, find?_withoutHashes, Call.withoutHash]
    cases d.find? id with
    | none => rfl
    | some a => simp only [Option.map_some, hlogged, insert_withoutHashes]

theorem answer_withoutHashes (d : Directory) (c : Call) :
    d.withoutHashes.answer c = ((d.answer c).1.withoutHashes, c.withoutHash (d.answer c).2) := by
  have hcount : d.withoutHashes.count c.method = (d.count c.method).withoutHashes := rfl
  have hfault : d.withoutHashes.fault c.method = d.fault c.method := rfl
  cases h : d.fault c.method with
  | some e =>
    rw [answer_of_fault h, answer_of_fault (hfault.trans h), hcount]
    cases c <;> rfl
  | none =>
    rw [answer_of_sound h, answer_of_sound (hfault.trans h), hcount, answerSound_withoutHashes]

end Directory

end User

/-! ## Surroundings -/

namespace World
variable {w w' : World} {deadline : Option Nat} {α : Type}

/-- The surroundings without the hashes. -/
def withoutHashes (w : World) : World :=
  { w with users := w.users.withoutHashes }

/-- What something has come to, without the hashes. -/
def unhashed (x : World × α) : World × α :=
  (x.1.withoutHashes, x.2)

theorem answerRemote_withoutHashes (w : World) (c : Remote.Call) :
    w.withoutHashes.answerRemote c =
      ((w.answerRemote c).1.withoutHashes, c.withoutHash (w.answerRemote c).2) := by
  cases c with
  | store c => rfl
  | users c =>
    simp only [answerRemote, withoutHashes, Directory.answer_withoutHashes]
    rfl

theorem await_withoutHashes (w : World) (c : Remote.Call) (limit deadline : Option Nat) :
    w.withoutHashes.await c limit deadline = unhashed (w.await c limit deadline) := by
  have hlatency : w.withoutHashes.latency c = w.latency c := by cases c <;> rfl
  simp only [await, hlatency]
  split <;> rfl

/-- Without the hashes a lone call gets the same reply without the hash. -/
theorem settle_withoutHashes (w : World) (deadline : Option Nat) (c : Effect.Call) :
    w.withoutHashes.settle deadline c =
      ((w.settle deadline c).1.withoutHashes, (w.settle deadline c).2.map c.withoutHash) := by
  cases c with
  | clock => rfl
  | uuid => rfl
  | compare c =>
    simp only [settle]
    show (w.withoutHashes, if w.isDue deadline then none else some (w.outcome c)) = _
    split <;> rfl
  | remote c limit =>
    simp only [settle, await_withoutHashes]
    rcases w.await c limit deadline with ⟨U, - | - | -⟩
    · simp only [unhashed, answerRemote_withoutHashes]
      rfl
    · rfl
    · rfl

end World

/-! ## Verdicts -/

/-- The password fits. Anything else is one: that it differs, that the text that is stored is no
hash, and that they could not be compared. -/
def Password.hasFitted : Except String Password.Verdict → Bool
  | .ok verdict => verdict.isFit
  | .error _ => false

/-- What a comparison with a stored hash has come to: that the password fits, or anything else. -/
def Event.verdict? : Event → Option Bool
  | .called _ (.compare (.genuine _ _)) outcome => some (Password.hasFitted outcome)
  | _ => none

/-- What the comparisons with stored hashes have come to, in order. -/
def verdicts (log : List Event) : List Bool :=
  log.filterMap Event.verdict?

theorem verdicts_cons (e : Event) (log : List Event) :
    verdicts (e :: log) = e.verdict?.toList ++ verdicts log := by
  rw [verdicts, List.filterMap_cons]
  cases e.verdict? <;> rfl

theorem verdicts_append (log log' : List Event) :
    verdicts (log ++ log') = verdicts log ++ verdicts log' :=
  List.filterMap_append

theorem Event.verdict?_called {i j : Nat} {c : Effect.Call} {reply reply' : c.Reply}
    (h : c.withoutHash reply = c.withoutHash reply') :
    (Event.called i c reply).verdict? = (Event.called j c reply').verdict? := by
  cases c with
  | compare c =>
    obtain rfl : reply = reply' := h
    cases c <;> rfl
  | _ => rfl

/-! ## Runs -/

namespace World
variable {w w' : World} {deadline : Option Nat} {α : Type} {s : Issuer} {i j : Nat}
  {l l' : List Bool}

theorem settle_alike (hw : w.withoutHashes = w'.withoutHashes) (deadline : Option Nat)
    (c : Effect.Call) :
    (w.settle deadline c).1.withoutHashes = (w'.settle deadline c).1.withoutHashes ∧
      (w.settle deadline c).2.map c.withoutHash = (w'.settle deadline c).2.map c.withoutHash := by
  have h := w.settle_withoutHashes deadline c
  rw [hw, settle_withoutHashes, Prod.mk.injEq] at h
  exact ⟨h.1.symm, h.2.symm⟩

/-- Whether comparisons can be carried out does not depend on hashes. So if a password fits one hash
just when it fits another, no more is seen of the outcomes. -/
theorem outcome_alike (hw : w.withoutHashes = w'.withoutHashes) {password hash hash' : String}
    (h : Password.hasFitted (w.outcome (.genuine password hash)) =
      Password.hasFitted (w'.outcome (.genuine password hash'))) :
    (w.outcome (.genuine password hash)).map Password.Verdict.isFit =
      (w'.outcome (.genuine password hash')).map Password.Verdict.isFit := by
  have hfault : w.comparisonFault = w'.comparisonFault := by
    show w.withoutHashes.comparisonFault = w'.withoutHashes.comparisonFault
    rw [hw]
  simp only [outcome, ← hfault] at h ⊢
  cases hcause : w.comparisonFault with
  | some text => rfl
  | none =>
    rw [hcause] at h
    exact congrArg Except.ok h

/-- Programs that differ in hashes alone come to the same in worlds that do if passwords fit alike
in them, one comparison after another, and what follows these verdicts agrees, too. -/
theorem run_alike {p p' : Task α} (hp : Task.Alike p p')
    (hw : w.withoutHashes = w'.withoutHashes)
    (hv : verdicts (passage i deadline p w) ++ l = verdicts (passage j deadline p' w') ++ l') :
    unhashed (run deadline p w) = unhashed (run deadline p' w') ∧ l = l' := by
  induction hp generalizing w w' with
  | done a => exact ⟨by rw [run, run, unhashed, unhashed, hw], hv⟩
  | halt => exact ⟨by rw [run, run, unhashed, unhashed, hw], hv⟩
  | @call c next next' _ ih =>
    obtain ⟨hworlds, hreplies⟩ := settle_alike hw deadline c
    rcases hsettle : w.settle deadline c with ⟨U, - | reply⟩ <;>
      rcases hsettle' : w'.settle deadline c with ⟨U', - | reply'⟩ <;>
      rw [hsettle, hsettle'] at hworlds hreplies
    · simp only [passage, hsettle, hsettle'] at hv
      exact ⟨by simp only [run, hsettle, hsettle', unhashed, hworlds], hv⟩
    · cases hreplies
    · cases hreplies
    · have hreply : c.withoutHash reply = c.withoutHash reply' := Option.some.inj hreplies
      rw [run_call hsettle, run_call hsettle']
      simp only [passage, hsettle, hsettle', verdicts_cons, List.append_assoc,
        Event.verdict?_called (i := i) (j := j) hreply] at hv
      exact ih reply reply' hreply hworlds (List.append_cancel_left hv)
  | @compare password hash hash' next next' _ ih =>
    have hdue : w.isDue deadline = w'.isDue deadline := by
      show w.withoutHashes.isDue deadline = w'.withoutHashes.isDue deadline
      rw [hw]
    cases h : w.isDue deadline with
    | true =>
      have hsettle : w.settle deadline (.compare (.genuine password hash)) = (w, none) := by
        simp only [settle, h, if_true]
      have hsettle' : w'.settle deadline (.compare (.genuine password hash')) = (w', none) := by
        simp only [settle, ← hdue, h, if_true]
      simp only [passage, hsettle, hsettle'] at hv
      exact ⟨by simp only [run, hsettle, hsettle', unhashed, hw], hv⟩
    | false =>
      have hsettle : w.settle deadline (.compare (.genuine password hash)) =
          (w, some (w.outcome (.genuine password hash))) := by
        simp only [settle, h]
        rfl
      have hsettle' : w'.settle deadline (.compare (.genuine password hash')) =
          (w', some (w'.outcome (.genuine password hash'))) := by
        simp only [settle, ← hdue, h]
        rfl
      simp only [passage, hsettle, hsettle', verdicts_cons, Event.verdict?, Option.toList,
        List.nil_append, List.cons_append, List.cons.injEq] at hv
      obtain ⟨hfits, hv⟩ := hv
      rw [run_call hsettle, run_call hsettle']
      exact ih _ _ (outcome_alike hw hfits) hw hv

/-- The result that an ending makes, given the one for the deadline. -/
def resultOf (late : Option α) : Ending α → Option α
  | .finished a => some a
  | .expired => late
  | .halted => none

theorem perform_eq (s : Issuer) (op : Operation) (w : World) :
    w.perform s op = ((run (w.dropAt s op) (op.task s) w).1,
      resultOf ((op.deadline s).map (·.2)) (run (w.dropAt s op) (op.task s) w).2) := by
  rw [perform, dropAt]
  cases op.deadline s with
  | none =>
    simp only [Option.map_none]
    rcases run none (op.task s) w with ⟨U, - | - | -⟩ <;> rfl
  | some x =>
    obtain ⟨limit, late⟩ := x
    simp only [Option.map_some]
    rcases run (some (w.clock + limit)) (op.task s) w with ⟨U, - | - | -⟩ <;> rfl

/-- So an operation results in the same. -/
theorem perform_alike (op : Operation) (hw : w.withoutHashes = w'.withoutHashes)
    (hv : verdicts (passage i (w.dropAt s op) (op.task s) w) ++ l =
      verdicts (passage j (w'.dropAt s op) (op.task s) w') ++ l') :
    unhashed (w.perform s op) = unhashed (w'.perform s op) ∧ l = l' := by
  have hdrop : w.dropAt s op = w'.dropAt s op := by
    show w.withoutHashes.dropAt s op = w'.withoutHashes.dropAt s op
    rw [hw]
  rw [hdrop] at hv
  obtain ⟨hrun, hl⟩ := run_alike (op.alike_task s) hw hv
  rw [unhashed, unhashed, Prod.mk.injEq] at hrun
  rw [perform_eq, perform_eq, hdrop, unhashed, unhashed, hrun.1, hrun.2]
  exact ⟨rfl, hl⟩

theorem verdicts_story_call (s : Issuer) (i : Nat) (op : Operation) (rest : op.Result → Plan α)
    (w : World) :
    verdicts (story s i (.call op rest) w) =
      verdicts (passage i (w.dropAt s op) (op.task s) w) ++ match w.perform s op with
        | (w', some result) => verdicts (story s (i + 1) (rest result) w')
        | (_, none) => [] := by
  rcases hperform : w.perform s op with ⟨U, - | result⟩
  · rw [story_of_halted hperform, verdicts_cons, List.append_nil]
    rfl
  · obtain ⟨e, he, hstory⟩ := story_of_perform (i := i) rest hperform
    have hnone : e.verdict? = none := by cases he <;> rfl
    rw [hstory, verdicts_append, verdicts_cons, verdicts_cons, hnone]
    rfl

/-- So does a plan. -/
theorem follow_alike {p : Plan α} (hw : w.withoutHashes = w'.withoutHashes)
    (hv : verdicts (story s i p w) ++ l = verdicts (story s j p w') ++ l') :
    unhashed (follow s p w) = unhashed (follow s p w') ∧ l = l' := by
  induction p generalizing w w' i j with
  | done a => exact ⟨by rw [follow, follow, unhashed, unhashed, hw], hv⟩
  | halt => exact ⟨by rw [follow, follow, unhashed, unhashed, hw], hv⟩
  | call op rest ih =>
    rw [verdicts_story_call, verdicts_story_call, List.append_assoc, List.append_assoc] at hv
    obtain ⟨hperform, htail⟩ := perform_alike op hw hv
    rw [follow, follow]
    rcases hw₁ : w.perform s op with ⟨U, - | result⟩ <;>
      rcases hw₂ : w'.perform s op with ⟨U', - | result'⟩ <;>
      rw [hw₁, hw₂, unhashed, unhashed, Prod.mk.injEq] at hperform <;>
      obtain ⟨hworlds, hresults⟩ := hperform <;>
      simp only [hw₁, hw₂] at htail ⊢
    · exact ⟨by rw [unhashed, unhashed, hworlds], htail⟩
    · cases hresults
    · cases hresults
    · cases hresults
      exact ih result hworlds htail

end World

end SessionLedger
