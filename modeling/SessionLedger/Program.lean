/-! Programs that ask their surroundings and go on with the answers. What they may ask is an
interface; who answers, when, and in what order with other programs is not part of a program. -/
namespace SessionLedger

/-- The calls that a program may make and the replies they get. -/
structure Interface where
  Call : Type
  Reply : Call → Type

/-- A program ends with a value, halts without one, or makes a call and goes on with the reply. -/
inductive Program (ι : Interface) (α : Type) where
  | done (a : α)
  | halt
  | call (c : ι.Call) (next : ι.Reply c → Program ι α)

namespace Program
variable {ι : Interface} {α β γ : Type}

/-- Goes on with the value that a program ends with. -/
def bind : Program ι α → (α → Program ι β) → Program ι β
  | .done a, f => f a
  | .halt, _ => .halt
  | .call c next, f => .call c fun r => (next r).bind f

instance : Monad (Program ι) where
  pure := .done
  bind := bind

/-- Makes one call. -/
def perform (c : ι.Call) : Program ι (ι.Reply c) :=
  .call c .done

/-- Goes on with a value where there is one, and halts where there is none. -/
def orHalt : Option α → Program ι α
  | some a => .done a
  | none => .halt

@[simp] theorem pure_eq (a : α) : (Pure.pure a : Program ι α) = .done a := rfl

@[simp] theorem bind_eq (p : Program ι α) (f : α → Program ι β) : (p >>= f) = p.bind f := rfl

@[simp] theorem done_bind (a : α) (f : α → Program ι β) :
    (Program.done a : Program ι α).bind f = f a := rfl

@[simp] theorem halt_bind (f : α → Program ι β) : (Program.halt : Program ι α).bind f = .halt := rfl

@[simp] theorem call_bind (c : ι.Call) (next : ι.Reply c → Program ι α) (f : α → Program ι β) :
    (Program.call c next).bind f = .call c fun r => (next r).bind f := rfl

@[simp] theorem perform_bind (c : ι.Call) (f : ι.Reply c → Program ι β) :
    (perform c).bind f = .call c f := rfl

@[simp] theorem bind_done (p : Program ι α) : p.bind .done = p := by
  induction p with
  | done a => rfl
  | halt => rfl
  | call c next ih => simp [ih]

theorem bind_assoc (p : Program ι α) (f : α → Program ι β) (g : β → Program ι γ) :
    (p.bind f).bind g = p.bind fun a => (f a).bind g := by
  induction p with
  | done a => rfl
  | halt => rfl
  | call c next ih => simp [ih]

instance : LawfulMonad (Program ι) :=
  LawfulMonad.mk' _ (fun p => bind_done p) (fun _ _ => rfl) (fun p f g => bind_assoc p f g)

end Program

end SessionLedger
