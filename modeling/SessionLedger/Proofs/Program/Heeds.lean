import SessionLedger.Proofs.Program.Keeps

/-! What a program comes to after a sign. `Surely` says of a program that it ends with a good value
as long as the replies are possible ones: it does not halt. `Heeds` says that the program goes on
surely once an exchange was a sign of something; before that it may do anything. -/
namespace SessionLedger.Program
variable {ι : Interface} {α β : Type}

/-- If all replies are possible ones, the program ends with a good value. -/
def Surely (possible : ι.Exchange → Prop) (good : α → Prop) : Program ι α → Prop
  | .done a => good a
  | .halt => False
  | .call c next => ∀ r, possible ⟨c, r⟩ → Surely possible good (next r)

/-- After an exchange that is a sign the program surely ends with a good value. -/
def Heeds (possible sign : ι.Exchange → Prop) (good : α → Prop) : Program ι α → Prop
  | .done _ => True
  | .halt => True
  | .call c next => ∀ r, possible ⟨c, r⟩ →
    Heeds possible sign good (next r) ∧ (sign ⟨c, r⟩ → Surely possible good (next r))

variable {possible sign : ι.Exchange → Prop} {good : α → Prop} {good' : β → Prop}

@[simp] theorem surely_done (a : α) : Surely possible good (.done a) ↔ good a := Iff.rfl

@[simp] theorem heeds_done (a : α) : Heeds possible sign good (.done a) ↔ True := Iff.rfl

@[simp] theorem heeds_halt : Heeds possible sign good (.halt : Program ι α) ↔ True := Iff.rfl

theorem Surely.bind {p : Program ι α} {f : α → Program ι β} (hp : p.Surely possible good)
    (hf : ∀ a, good a → (f a).Surely possible good') : (p.bind f).Surely possible good' := by
  induction p with
  | done a => exact hf a hp
  | halt => exact hp.elim
  | call c next ih => exact fun r hr => ih r (hp r hr)

/-- A program in two parts heeds a sign if both parts do, and the second surely comes to a good
value from what the first ends with after a sign. -/
theorem Heeds.bind {p : Program ι α} {f : α → Program ι β} (hp : p.Heeds possible sign good)
    (hgood : ∀ a, good a → (f a).Surely possible good')
    (hf : ∀ a, (f a).Heeds possible sign good') : (p.bind f).Heeds possible sign good' := by
  induction p with
  | done a => exact hf a
  | halt => trivial
  | call c next ih =>
    exact fun r hr => ⟨ih r (hp r hr).1, fun hsign => ((hp r hr).2 hsign).bind hgood⟩

/-- Where no exchange can be a sign, there is nothing to heed. -/
theorem Only.heeds {p : Program ι α} (hp : p.Only fun c => ∀ r, ¬ sign ⟨c, r⟩) :
    p.Heeds possible sign good := by
  induction p with
  | done a => trivial
  | halt => trivial
  | call c next ih => exact fun r _ => ⟨ih r (hp.2 r), fun hsign => absurd hsign (hp.1 r)⟩

/-- The second part of a program has all signs to heed if the first part cannot get one. -/
theorem Only.bind_heeds {p : Program ι α} {f : α → Program ι β}
    (hp : p.Only fun c => ∀ r, ¬ sign ⟨c, r⟩) (hf : ∀ a, (f a).Heeds possible sign good') :
    (p.bind f).Heeds possible sign good' := by
  have hnever : p.Heeds possible sign fun _ => False := hp.heeds
  exact hnever.bind (fun _ => False.elim) hf

/-- A program that heeds a sign goes on doing so, and once there was one it surely comes to a good
value. -/
theorem Heeds.after {p q : Program ι α} {d : ι.Diary} (h : p.Heeds possible sign good)
    (hq : p.After d q) (hd : ∀ x ∈ d, possible x) :
    q.Heeds possible sign good ∧ ((∃ x ∈ d, sign x) → q.Surely possible good) := by
  induction hq with
  | start => exact ⟨h, nofun⟩
  | @reply d c next hq r ih =>
    obtain ⟨hheeds, hsurely⟩ := ih fun x hx => hd x (List.mem_append_left _ hx)
    have hr : possible ⟨c, r⟩ := hd _ (by simp)
    refine ⟨(hheeds r hr).1, ?_⟩
    rintro ⟨x, hx, hsign⟩
    rcases List.mem_append.mp hx with hx | hx
    · exact hsurely ⟨x, hx, hsign⟩ r hr
    · obtain rfl := List.mem_singleton.mp hx
      exact (hheeds r hr).2 hsign

end SessionLedger.Program
