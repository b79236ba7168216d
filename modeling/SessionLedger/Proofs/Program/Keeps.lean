import SessionLedger.Program

/-! What a program does, told from what it has been told. A diary lists the calls that a program
has made and the replies it got. `Keeps` says of a program that each call it makes is allowed by
its diary and that it ends as expected, whatever the replies; it is built up along the program,
and a program that keeps to something goes on keeping to it after each reply. -/
namespace SessionLedger

/-- A call and the reply to it. -/
abbrev Interface.Exchange (ι : Interface) :=
  (c : ι.Call) × ι.Reply c

/-- The exchanges of a program, in order. -/
abbrev Interface.Diary (ι : Interface) :=
  List ι.Exchange

namespace Program
variable {ι : Interface} {α β : Type}

/-- The program has become `q` by the replies of a diary. -/
inductive After (p : Program ι α) : ι.Diary → Program ι α → Prop
  | start : After p [] p
  | reply {d c next} (h : After p d (.call c next)) (r : ι.Reply c) :
      After p (d ++ [⟨c, r⟩]) (next r)

/-- A program that has ended goes nowhere. -/
theorem After.of_done {a : α} {d : ι.Diary} {q : Program ι α}
    (h : After (.done a : Program ι α) d q) : d = [] ∧ q = .done a := by
  induction h with
  | start => exact ⟨rfl, rfl⟩
  | reply _ r ih => cases ih.2

/-- Nor does one that has halted. -/
theorem After.of_halt {d : ι.Diary} {q : Program ι α} (h : After (.halt : Program ι α) d q) :
    d = [] ∧ q = .halt := by
  induction h with
  | start => exact ⟨rfl, rfl⟩
  | reply _ r ih => cases ih.2

/-- A program that goes on after its first call does so with some reply to it. -/
theorem After.of_call {c : ι.Call} {next : ι.Reply c → Program ι α} {d : ι.Diary}
    {q : Program ι α} (h : After (.call c next) d q) :
    (d = [] ∧ q = .call c next) ∨ ∃ r d', d = ⟨c, r⟩ :: d' ∧ After (next r) d' q := by
  induction h with
  | start => exact .inl ⟨rfl, rfl⟩
  | reply _ r ih =>
    right
    rcases ih with ⟨rfl, hq⟩ | ⟨r', d', rfl, hafter⟩
    · cases hq
      exact ⟨r, [], rfl, .start⟩
    · exact ⟨r', _, rfl, hafter.reply r⟩

/-- A program that has ended with a value after its first call has done so with some reply to it. -/
theorem After.done_of_call {c : ι.Call} {next : ι.Reply c → Program ι α} {d : ι.Diary} {a : α}
    (h : After (.call c next) d (.done a)) :
    ∃ r d', d = ⟨c, r⟩ :: d' ∧ After (next r) d' (.done a) := by
  rcases h.of_call with ⟨-, hq⟩ | h
  · cases hq
  · exact h

/-- Going on from a diary, each call is one that the program may make, and it ends as it should. -/
def Keeps (may : ι.Diary → ι.Call → Prop) (ends : ι.Diary → α → Prop) :
    Program ι α → ι.Diary → Prop
  | .done a, d => ends d a
  | .halt, _ => True
  | .call c next, d => may d c ∧ ∀ r, Keeps may ends (next r) (d ++ [⟨c, r⟩])

variable {may : ι.Diary → ι.Call → Prop} {ends : ι.Diary → α → Prop} {d : ι.Diary}

@[simp] theorem keeps_done (a : α) : Keeps may ends (.done a) d ↔ ends d a := Iff.rfl

@[simp] theorem keeps_halt : Keeps may ends (.halt : Program ι α) d ↔ True := Iff.rfl

@[simp] theorem keeps_call (c : ι.Call) (next : ι.Reply c → Program ι α) :
    Keeps may ends (.call c next) d ↔
      may d c ∧ ∀ r, Keeps may ends (next r) (d ++ [⟨c, r⟩]) := Iff.rfl

@[simp] theorem keeps_orHalt (o : Option α) :
    Keeps may ends (orHalt o) d ↔ ∀ a, o = some a → ends d a := by
  cases o <;> simp [orHalt]

/-- A program in two parts keeps to something if the first part ends where the second can start. -/
theorem keeps_bind (p : Program ι α) (f : α → Program ι β) {ends : ι.Diary → β → Prop} :
    Keeps may ends (p.bind f) d ↔ Keeps may (fun d a => Keeps may ends (f a) d) p d := by
  induction p generalizing d with
  | done a => rfl
  | halt => rfl
  | call c next ih => simp only [call_bind, keeps_call, ih]

theorem Keeps.imp {may' : ι.Diary → ι.Call → Prop} {ends' : ι.Diary → α → Prop}
    {p : Program ι α} (h : Keeps may ends p d) (hmay : ∀ d c, may d c → may' d c)
    (hends : ∀ d a, ends d a → ends' d a) : Keeps may' ends' p d := by
  induction p generalizing d with
  | done a => exact hends d a h
  | halt => trivial
  | call c next ih => exact ⟨hmay d c h.1, fun r => ih r (h.2 r)⟩

/-- Each call of the program is one of certain calls, whatever the replies. -/
def Only (allowed : ι.Call → Prop) : Program ι α → Prop
  | .done _ => True
  | .halt => True
  | .call c next => allowed c ∧ ∀ r, Only allowed (next r)

variable {allowed : ι.Call → Prop}

@[simp] theorem only_done (a : α) : Only allowed (.done a : Program ι α) ↔ True := Iff.rfl

@[simp] theorem only_halt : Only allowed (.halt : Program ι α) ↔ True := Iff.rfl

@[simp] theorem only_call (c : ι.Call) (next : ι.Reply c → Program ι α) :
    Only allowed (.call c next) ↔ allowed c ∧ ∀ r, Only allowed (next r) := Iff.rfl

@[simp] theorem only_orHalt (o : Option α) : Only allowed (orHalt o : Program ι α) ↔ True := by
  cases o <;> rfl

theorem Only.bind {p : Program ι α} {f : α → Program ι β} (hp : p.Only allowed)
    (hf : ∀ a, (f a).Only allowed) : (p.bind f).Only allowed := by
  induction p with
  | done a => exact hf a
  | halt => trivial
  | call c next ih => exact ⟨hp.1, fun r => ih r (hp.2 r)⟩

theorem Only.orHalt_bind {o : Option α} {f : α → Program ι β}
    (hf : ∀ a, o = some a → (f a).Only allowed) :
    ((orHalt o : Program ι α).bind f).Only allowed := by
  cases o with
  | none => trivial
  | some a => exact hf a rfl

theorem only_of_forall (h : ∀ c, allowed c) (p : Program ι α) : p.Only allowed := by
  induction p with
  | done a => trivial
  | halt => trivial
  | call c next ih => exact ⟨h c, ih⟩

/-- What holds of the diary and survives the calls of a program holds at each of its calls and at
its end. -/
theorem Only.keeps_and {p : Program ι α} {I : ι.Diary → Prop} (hp : p.Only allowed)
    (hI : ∀ d c r, I d → allowed c → I (d ++ [⟨c, r⟩])) (hd : I d) :
    Keeps (fun d c => I d ∧ allowed c) (fun d _ => I d) p d := by
  induction p generalizing d with
  | done a => exact hd
  | halt => trivial
  | call c next ih => exact ⟨⟨hd, hp.1⟩, fun r => ih r (hp.2 r) (hI d c r hd hp.1)⟩

theorem Only.keeps {p : Program ι α} {I : ι.Diary → Prop} (hp : p.Only allowed)
    (hI : ∀ d c r, I d → allowed c → I (d ++ [⟨c, r⟩])) (hd : I d) :
    Keeps (fun d _ => I d) (fun d _ => I d) p d :=
  (hp.keeps_and hI hd).imp (fun _ _ h => h.1) fun _ _ h => h

theorem Keeps.and {may may' : ι.Diary → ι.Call → Prop} {ends ends' : ι.Diary → α → Prop}
    {p : Program ι α} (h : p.Keeps may ends d) (h' : p.Keeps may' ends' d) :
    p.Keeps (fun d c => may d c ∧ may' d c) (fun d a => ends d a ∧ ends' d a) d := by
  induction p generalizing d with
  | done a => exact ⟨h, h'⟩
  | halt => trivial
  | call c next ih => exact ⟨⟨h.1, h'.1⟩, fun r => ih r (h.2 r) (h'.2 r)⟩

/-- Going on from a diary, the program ends as it should, whatever it asks for. -/
abbrev Leads (ends : ι.Diary → α → Prop) (p : Program ι α) (d : ι.Diary) : Prop :=
  p.Keeps (fun _ _ => True) ends d

/-- A diary only grows. -/
theorem leads_onward (p : Program ι α) (d : ι.Diary) : p.Leads (fun d' _ => d <+: d') d := by
  refine ((only_of_forall (fun _ => trivial) p).keeps (I := fun d' => d <+: d') ?_
    (List.prefix_refl d)).imp (fun _ _ _ => trivial) fun _ _ h => h
  exact fun d' c r hd _ => hd.trans (List.prefix_append d' _)

/-- A program in two parts: the second goes on from where the first ends. -/
theorem Leads.bind {p : Program ι α} {f : α → Program ι β} {ends : ι.Diary → α → Prop}
    {ends' : ι.Diary → β → Prop} (hp : p.Leads ends d)
    (hf : ∀ d' a, d <+: d' → ends d' a → (f a).Leads ends' d') : (p.bind f).Leads ends' d := by
  rw [Leads, keeps_bind]
  exact ((leads_onward p d).and hp).imp (fun _ _ _ => trivial) fun d' a h => hf d' a h.1 h.2

/-- The first part of a program does not matter if the second ends as it should from any longer
diary. -/
theorem leads_bind {p : Program ι α} {f : α → Program ι β} {ends : ι.Diary → β → Prop}
    (h : ∀ d' a, d <+: d' → (f a).Leads ends d') : (p.bind f).Leads ends d :=
  (leads_onward p d).bind fun d' a hd _ => h d' a hd

/-- What a program keeps to at the start it keeps to later on. -/
theorem Keeps.after {p q : Program ι α} {e : ι.Diary} (h : Keeps may ends p [])
    (hq : After p e q) : Keeps may ends q e := by
  induction hq with
  | start => exact h
  | reply _ r ih => exact ih.2 r

end Program

end SessionLedger
