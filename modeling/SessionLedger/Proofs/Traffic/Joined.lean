import SessionLedger.Proofs.Traffic.Performed
import SessionLedger.World.Joined

/-! Plans that run jointly make a run: what the timed execution of several plans does are steps
that the run may take, those of different plans in turn. Each plan has at most one operation in
flight, and the flights of different plans are different. -/
namespace SessionLedger
open Session

namespace World
variable {α β : Type}

/-- The program waits for the reply to its next call. -/
inductive Wait.IsOf : Wait β → Task β → Prop
  | remote {c wake stop next limit} (h : stop ≠ none → limit ≠ none) :
      IsOf (.remote c wake stop next) (.call (.remote c limit) next)
  | comparison {c wake next} : IsOf (.comparison c wake next) (.call (.compare c) next)

/-- What a program that has come so far has left. -/
inductive Progress.Leaves (deadline : Option Nat) : Progress β → Task β → Prop
  | ended {ending rest} (h : ending.Leaves deadline rest) : Leaves deadline (.ended ending) rest
  | waiting {wait rest} (h : wait.IsOf rest) : Leaves deadline (.waiting wait) rest

theorem isDue_some {w : World} {instant : Option Nat} (h : w.isDue instant = true) :
    instant ≠ none := by
  intro hnone
  rw [hnone] at h
  cases h

/-- All operations of the part are those that a service offers, and an act is one that a run may
take. -/
def Part.IsSession : Part α → Prop
  | .plan p => Plan.IsSession p
  | .act f => ∀ w, (∃ millis, (f w).1 = w.advance millis) ∨ w.Alters (f w).1

/-- The part comes to the value by what its operations end with. -/
def Part.Yields (log : List Event) (a : α) : Part α → Prop
  | .plan p => ∃ d, Program.After p d (.done a) ∧ AllEnded log d
  | .act f => ∃ w, a = (f w).2

/-- A part that has not been started has nothing in flight, whatever else is. -/
def Part.Unstarted (_ : Traffic) (_ : List Event) (part c : Part α) (is : List Nat) : Prop :=
  c = part ∧ is = [] ∧ part.IsSession

/-- How far a part has come, and which operations of it are in flight. -/
inductive Part.Reaches (s : Issuer) (T : Traffic) (log : List Event) :
    Part α → Thread α → List Nat → Prop
  | finished {part a} (h : part.Yields log a) : Reaches s T log part (.finished a) []
  | waiting {p before op rest i deadline wait task} (hp : Plan.IsSession p)
      (hrest : Program.After p before (.call op rest))
      (hended : AllEnded log before) (hlt : i < T.count)
      (hi : T.flight? i = some ⟨op, task⟩) (hwait : Wait.IsOf wait task)
      (hdeadline : deadline.map (·.2) = (Operation.deadline s op).map (·.2)) :
      Reaches s T log (.plan p) (.waiting op deadline wait rest) [i]

/-- Parts in order, with what is known of each, and with flights that are all different. -/
inductive Abreast {γ : Type} (R : Part α → γ → List Nat → Prop) :
    List (Part α) → List γ → List Nat → Prop
  | nil : Abreast R [] [] []
  | cons {part c is parts cs js} (h : R part c is) (hrest : Abreast R parts cs js)
      (hd : ∀ i ∈ is, i ∉ js) : Abreast R (part :: parts) (c :: cs) (is ++ js)

end World

namespace Traffic
open World
variable {α : Type} {s : Issuer} {T U V : Traffic} {w : World} {i : Nat} {op : Operation}
variable {deadline : Option Nat} {log log' : List Event} {is js ks : List Nat}

/-- The steps are of certain operations and of new ones; afterwards certain ones of these are still
in flight. -/
structure Moves (s : Issuer) (T : Traffic) (is : List Nat) (log : List Event) (U : Traffic)
    (js : List Nat) : Prop where
  steps : Steps s T log U
  count_le : T.count ≤ U.count
  spares : ∀ i < T.count, i ∉ is → U.flight? i = T.flight? i
  known : ∀ i ∈ js, i ∈ is ∨ T.count ≤ i

theorem Moves.refl : Moves s T is [] T is :=
  ⟨.refl, Nat.le_refl _, fun _ _ _ => rfl, fun _ hi => .inl hi⟩

theorem Moves.trans (h : Moves s T is log U js) (h' : Moves s U js log' V ks) :
    Moves s T is (log ++ log') V ks := by
  refine ⟨h.steps.trans h'.steps, Nat.le_trans h.count_le h'.count_le, fun i hlt hi => ?_,
    fun i hi => ?_⟩
  · have hj : i ∉ js := fun hj => (h.known i hj).elim hi (Nat.not_le.mpr hlt)
    exact (h'.spares i (Nat.lt_of_lt_of_le hlt h.count_le) hj).trans (h.spares i hlt hi)
  · rcases h'.known i hi with hj | hle
    · exact h.known i hj
    · exact .inr (Nat.le_trans h.count_le hle)

/-- A program that goes on makes a part of a run, and leaves what it has come to. -/
theorem Steps.proceed {p : Task op.Result} {progress : Progress op.Result}
    (hi : T.flight? i = some ⟨op, p⟩) (h : World.proceed deadline p T.world = (w, progress)) :
    ∃ log rest, Steps s T log { T.put i (some ⟨op, rest⟩) with world := w } ∧
      progress.Leaves deadline rest := by
  induction p generalizing T with
  | done a =>
    cases h
    exact ⟨[], _, .stays hi, .ended (.finished a)⟩
  | halt =>
    cases h
    exact ⟨[], _, .stays hi, .ended .halted⟩
  | call c next ih =>
    have hgo : ∀ {reply W}, T.world.Answers c reply W →
        World.proceed deadline (next reply) W = (w, progress) →
        ∃ log rest, Steps s T log { T.put i (some ⟨op, rest⟩) with world := w } ∧
          progress.Leaves deadline rest := by
      intro reply W hanswers h
      obtain ⟨log, rest, hsteps, hleaves⟩ := ih reply
        (T := { T.put i (some ⟨op, next reply⟩) with world := W }) (if_pos rfl) h
      rw [put_put] at hsteps
      exact ⟨_, rest, .cons (.answer hi hanswers) hsteps, hleaves⟩
    cases c with
    | clock => exact hgo .clock h
    | uuid => exact hgo .uuid h
    | compare c =>
      simp only [World.proceed] at h
      split at h
      next hdue =>
        cases h
        exact ⟨[], _, .stays hi, .ended (.expired (isDue_some hdue) _ _)⟩
      next =>
        cases h
        exact ⟨[], _, .stays hi, .waiting .comparison⟩
    | remote c limit =>
      simp only [World.proceed] at h
      split at h
      next => exact hgo (.remote c limit) h
      next =>
        split at h
        next hdue =>
          cases limit with
          | none => cases hdue
          | some limit => exact hgo (.missed c limit) h
        next =>
          split at h
          next hdue =>
            cases h
            exact ⟨[], _, .stays hi, .ended (.expired (isDue_some hdue) _ _)⟩
          next =>
            cases h
            refine ⟨[], _, .stays hi, .waiting (.remote fun hstop hlimit => hstop ?_)⟩
            exact Option.map_eq_none_iff.mpr hlimit

/-- A waiting program that goes on makes a part of a run, and leaves what it has come to. -/
theorem Steps.resume {p : Task op.Result} {wait : Wait op.Result} {progress : Progress op.Result}
    (hi : T.flight? i = some ⟨op, p⟩) (hwait : wait.IsOf p)
    (h : World.resume deadline wait T.world = (w, progress)) :
    ∃ log rest, Steps s T log { T.put i (some ⟨op, rest⟩) with world := w } ∧
      progress.Leaves deadline rest := by
  have hgo : ∀ {c next reply W}, p = .call c next → T.world.Answers c reply W →
      World.proceed deadline (next reply) W = (w, progress) →
      ∃ log rest, Steps s T log { T.put i (some ⟨op, rest⟩) with world := w } ∧
        progress.Leaves deadline rest := by
    rintro c next reply W rfl hanswers h
    obtain ⟨log, rest, hsteps, hleaves⟩ := Steps.proceed (s := s)
      (T := { T.put i (some ⟨op, next reply⟩) with world := W }) (if_pos rfl) h
    rw [put_put] at hsteps
    exact ⟨_, rest, .cons (.answer hi hanswers) hsteps, hleaves⟩
  cases hwait with
  | comparison => exact hgo rfl (.compare _) h
  | remote hlimit =>
    simp only [World.resume] at h
    split at h
    next => exact hgo rfl (.remote _ _) h
    next =>
      split at h
      next hdue =>
        obtain ⟨limit, rfl⟩ := Option.ne_none_iff_exists'.mp (hlimit (isDue_some hdue))
        exact hgo rfl (.missed _ limit) h
      next =>
        split at h
        next hdue =>
          cases h
          exact ⟨[], _, .stays hi, .ended (.expired (isDue_some hdue) _ _)⟩
        next =>
          cases h
          exact ⟨[], _, .stays hi, .waiting (.remote hlimit)⟩

/-- Steps of some operations and then of others. -/
theorem Moves.beside {is' js' : List Nat} (h : Moves s T is log U js)
    (h' : Moves s U is' log' V js') : Moves s T (is ++ is') (log ++ log') V (js ++ js') := by
  refine ⟨h.steps.trans h'.steps, Nat.le_trans h.count_le h'.count_le, fun i hlt hi => ?_,
    List.forall_mem_append.mpr ⟨fun i hi => ?_, fun i hi => ?_⟩⟩
  · obtain ⟨hi, hi'⟩ := not_or.mp (mt List.mem_append.mpr hi)
    exact (h'.spares i (Nat.lt_of_lt_of_le hlt h.count_le) hi').trans (h.spares i hlt hi)
  · exact (h.known i hi).imp_left (List.mem_append_left _)
  · exact (h'.known i hi).imp (List.mem_append_right _) (Nat.le_trans h.count_le)

/-- Steps of some operations leave others apart from them. -/
theorem Moves.apart (h : Moves s T is log U js) (hd : ∀ i ∈ is, i ∉ ks)
    (hlt : ∀ i ∈ ks, i < T.count) : ∀ i ∈ js, i ∉ ks := by
  intro i hi hk
  rcases h.known i hi with hi | hle
  · exact hd i hi hk
  · exact Nat.not_le.mpr (hlt i hk) hle

/-- An operation that has ended has made steps of its own only. -/
theorem Moves.of_put {n : Nat} {f : Option Flight} (h : Steps s T log
    { T.put i f with world := w, count := n }) (hn : T.count ≤ n) (hjs : ∀ j ∈ js, j = i) :
    Moves s T [i] log { T.put i f with world := w, count := n } js := by
  refine ⟨h, hn, fun j _ hj => if_neg fun heq => hj (List.mem_singleton.mpr heq), fun j hj => ?_⟩
  exact .inl (List.mem_singleton.mpr (hjs j hj))

/-- The steps are of new operations only, since the flight was of one. -/
theorem Moves.of_new (h : Moves s T [T.count] log U js) : Moves s T [] log U js := by
  refine ⟨h.steps, h.count_le, fun j hlt _ => h.spares j hlt fun hj => ?_, fun j hj => .inr ?_⟩
  · exact Nat.ne_of_lt hlt (List.mem_singleton.mp hj)
  · rcases h.known j hj with hj | hle
    · exact Nat.le_of_eq (List.mem_singleton.mp hj).symm
    · exact hle

end Traffic

namespace World
variable {α : Type} {s : Issuer} {T U : Traffic} {log log' : List Event} {is : List Nat}
variable {part : Part α} {a : α} {th : Thread α}

theorem Part.Yields.mono (h : part.Yields log a) (hsub : log ⊆ log') : part.Yields log' a := by
  cases part with
  | plan p =>
    obtain ⟨d, hd, hended⟩ := h
    exact ⟨d, hd, hended.mono hsub⟩
  | act f => exact h

theorem Part.Reaches.lt_count (h : Part.Reaches s T log part th is) : ∀ i ∈ is, i < T.count := by
  cases h with
  | finished => exact List.forall_mem_nil _
  | waiting _ _ _ hlt => exact List.forall_mem_singleton.mpr hlt

theorem Part.Unstarted.lt_count {c : Part α} (h : Part.Unstarted T log part c is) :
    ∀ i ∈ is, i < T.count := by
  obtain ⟨-, rfl, -⟩ := h
  exact List.forall_mem_nil _

theorem Part.Unstarted.mono {c : Part α} (h : Part.Unstarted T log part c is)
    (_ : T.count ≤ U.count) (_ : ∀ i ∈ is, U.flight? i = T.flight? i) (_ : log ⊆ log') :
    Part.Unstarted U log' part c is :=
  h

/-- What other operations do leaves a part where it is. -/
theorem Part.Reaches.mono (h : Part.Reaches s T log part th is) (hcount : T.count ≤ U.count)
    (hflights : ∀ i ∈ is, U.flight? i = T.flight? i) (hsub : log ⊆ log') :
    Part.Reaches s U log' part th is := by
  cases h with
  | finished h => exact .finished (h.mono hsub)
  | waiting hp hrest hended hlt hi hwait hdeadline =>
    exact .waiting hp hrest (hended.mono hsub) (Nat.lt_of_lt_of_le hlt hcount)
      ((hflights _ (List.mem_singleton_self _)).trans hi) hwait hdeadline

namespace Abreast
variable {γ : Type} {R R' : Part α → γ → List Nat → Prop} {parts : List (Part α)} {cs : List γ}

theorem imp (h : Abreast R parts cs is)
    (himp : ∀ {part c js}, R part c js → js ⊆ is → R' part c js) : Abreast R' parts cs is := by
  induction h with
  | nil => exact .nil
  | cons h _ hd ih =>
    exact .cons (himp h (List.subset_append_left _ _))
      (ih fun h hsub => himp h (List.subset_append_of_subset_right _ hsub)) hd

theorem forall_mem {P : Nat → Prop} (h : Abreast R parts cs is)
    (hall : ∀ {part c js}, R part c js → ∀ i ∈ js, P i) : ∀ i ∈ is, P i := by
  induction h with
  | nil => exact List.forall_mem_nil _
  | cons h _ _ ih => exact List.forall_mem_append.mpr ⟨hall h, ih⟩

theorem unstarted {parts : List (Part α)} (hparts : ∀ part ∈ parts, part.IsSession) :
    Abreast (Part.Unstarted T log) parts parts [] := by
  induction parts with
  | nil => exact .nil
  | cons part parts ih =>
    obtain ⟨hpart, hparts⟩ := List.forall_mem_cons.mp hparts
    exact .cons ⟨rfl, rfl, hpart⟩ (ih hparts) (List.forall_mem_nil _)

/-- The values of parts that are all at their ends. -/
theorem yields {threads : List (Thread α)} {results : List α}
    (h : Abreast (Part.Reaches s T log) parts threads is)
    (hresults : threads.mapM Thread.value? = some results) :
    results.length = parts.length ∧ ∀ x ∈ parts.zip results, x.1.Yields log x.2 := by
  induction h generalizing results with
  | nil =>
    cases hresults
    exact ⟨rfl, List.forall_mem_nil _⟩
  | @cons part th is parts threads js h _ _ ih =>
    simp only [List.mapM_cons, Option.bind_eq_bind, Option.bind_eq_some_iff, Option.pure_def,
      Option.some.injEq] at hresults
    obtain ⟨a, ha, as, has, rfl⟩ := hresults
    obtain ⟨hlength, hyields⟩ := ih has
    cases h with
    | waiting => cases ha
    | finished h =>
      cases ha
      exact ⟨congrArg (· + 1) hlength, List.forall_mem_cons.mpr ⟨h, hyields⟩⟩

end Abreast

end World

namespace Traffic
open World
variable {α : Type} {s : Issuer} {T U V : Traffic} {w : World} {i : Nat} {op : Operation}
variable {deadline : Option Nat} {log log' : List Event} {is js ks : List Nat}

/-- A deadline that has been fixed is that of the operation. -/
theorem exists_deadline {deadline : Option (Nat × op.Result)}
    (hdeadline : deadline.map (·.2) = (op.deadline s).map (·.2))
    (hsome : deadline.map (·.1) ≠ none) :
    ∃ limit instant late, op.deadline s = some (limit, late) ∧ deadline = some (instant, late) := by
  cases deadline with
  | none => exact absurd rfl hsome
  | some x =>
    obtain ⟨⟨limit, late⟩, hlimit, hlate⟩ := Option.map_eq_some_iff.mp hdeadline.symm
    obtain rfl : late = x.2 := hlate
    exact ⟨limit, x.1, x.2, hlimit, rfl⟩

/-- A plan that goes on makes a part of a run, up to its end or to where it has to wait. -/
theorem Moves.begin {p rest : Plan α} {before : Operation.interface.Diary} {th : Thread α}
    (hp : Plan.IsSession p) (hrest : Program.After p before rest)
    (hended : AllEnded log before) (h : World.begin s rest T.world = (w, some th)) :
    ∃ log' U is, Moves s T [] log' U is ∧ U.world = w ∧
      Part.Reaches s U (log ++ log') (.plan p) th is := by
  induction rest generalizing T before log with
  | done a =>
    cases h
    exact ⟨[], T, [], .refl, rfl,
      .finished ⟨before, hrest, hended.mono (List.subset_append_left _ _)⟩⟩
  | halt => cases h
  | call op rest ih =>
    have hop : op.IsSession := (hp.after hrest).1
    have hgo : ∀ {result W log₁}, Steps s T log₁
        { T.put T.count none with world := W, count := T.count + 1 } → Ended log₁ op result →
        World.begin s (rest result) W = (w, some th) →
        ∃ log' U is, Moves s T [] log' U is ∧ U.world = w ∧
          Part.Reaches s U (log ++ log') (.plan p) th is := by
      intro result W log₁ h₁ hended₁ h
      obtain ⟨log₂, U, is, h₂, hworld, hreaches⟩ := ih result
        (T := { T.put T.count none with world := W, count := T.count + 1 })
        (hrest.reply result)
        (hended.snoc hended₁) h
      have h₁ := Moves.of_new (.of_put h₁ (Nat.le_succ _) (List.forall_mem_nil _))
      rw [List.append_assoc] at hreaches
      exact ⟨_, U, is, h₁.trans h₂, hworld, hreaches⟩
    have hstart := Step.start (s := s) (T := T) hop
    simp only [World.begin] at h
    generalize hd : (op.deadline s).map (fun x => (T.world.clock + x.1, x.2)) = deadline at h
    have hdeadline : deadline.map (·.2) = (op.deadline s).map (·.2) := by
      rw [← hd, Option.map_map]
      rfl
    generalize hprogress : proceed (deadline.map (·.1)) (op.task s) T.world = x at h
    obtain ⟨W, progress⟩ := x
    obtain ⟨log₁, left, hsteps, hleaves⟩ := Steps.proceed (s := s) (i := T.count)
      (T := { T.put T.count (some ⟨op, op.task s⟩) with count := T.count + 1 }) (if_pos rfl)
      hprogress
    rw [put_put] at hsteps
    have hsteps := hsteps.cons hstart
    cases hleaves with
    | waiting hwait =>
      cases h
      exact ⟨_, _, [T.count], .of_new (.of_put hsteps (Nat.le_succ _) (by simp)), rfl,
        .waiting hp hrest (hended.mono (List.subset_append_left _ _))
          (Nat.lt_succ_self _) (if_pos rfl) hwait hdeadline⟩
    | ended hleaves =>
      cases hleaves with
      | finished a => exact hgo hsteps.returns ⟨T.count, .inl (by simp)⟩ h
      | halted => cases h
      | expired hsome =>
        obtain ⟨limit, instant, late, hlimit, rfl⟩ := exists_deadline hdeadline hsome
        exact hgo (hsteps.expires hlimit) ⟨T.count, .inr (by simp)⟩ h

/-- A part on which something may be due makes a part of a run. -/
theorem Moves.poll {part : World.Part α} {th th' : Thread α} (h : Part.Reaches s T log part th is)
    (hpoll : World.poll s th T.world = (w, some th')) :
    ∃ log' U js, Moves s T is log' U js ∧ U.world = w ∧
      Part.Reaches s U (log ++ log') part th' js := by
  cases h with
  | finished hyields =>
    cases hpoll
    exact ⟨[], T, [], .refl, rfl, .finished (hyields.mono (List.subset_append_left _ _))⟩
  | @waiting p before op rest i deadline wait task hp hrest hended hlt hi hwait hdeadline =>
    have hgo : ∀ {result W log₁}, Steps s T log₁ { T.put i none with world := W } →
        Ended log₁ op result → World.begin s (rest result) W = (w, some th') →
        ∃ log' U js, Moves s T [i] log' U js ∧ U.world = w ∧
          Part.Reaches s U (log ++ log') (.plan p) th' js := by
      intro result W log₁ h₁ hended₁ h
      obtain ⟨log₂, U, js, h₂, hworld, hreaches⟩ := Moves.begin (s := s)
        (T := { T.put i none with world := W }) hp (hrest.reply result)
        (hended.snoc hended₁) h
      have h₁ := Moves.of_put h₁ (Nat.le_refl _) (List.forall_mem_nil _)
      rw [List.append_assoc] at hreaches
      exact ⟨_, U, js, h₁.trans h₂, hworld, hreaches⟩
    simp only [World.poll] at hpoll
    generalize hprogress : World.resume (deadline.map (·.1)) wait T.world = x at hpoll
    obtain ⟨W, progress⟩ := x
    obtain ⟨log₁, left, hsteps, hleaves⟩ := Steps.resume (s := s) hi hwait hprogress
    cases hleaves with
    | waiting hwait =>
      cases hpoll
      exact ⟨_, _, [i], .of_put hsteps (Nat.le_refl _) (by simp), rfl,
        .waiting hp hrest (hended.mono (List.subset_append_left _ _))
          hlt (if_pos rfl) hwait hdeadline⟩
    | ended hleaves =>
      cases hleaves with
      | finished a => exact hgo hsteps.returns ⟨i, .inl (by simp)⟩ hpoll
      | halted => cases hpoll
      | expired hsome =>
        obtain ⟨limit, instant, late, hlimit, rfl⟩ := exists_deadline hdeadline hsome
        exact hgo (hsteps.expires hlimit) ⟨i, .inr (by simp)⟩ hpoll

/-- Steps of each of several parts in turn make a part of a run, if those of one part do. -/
theorem Moves.each {γ : Type} {step : γ → World → World × Option (Thread α)}
    {R : Traffic → List Event → World.Part α → γ → List Nat → Prop}
    (hlt : ∀ {T log part c is}, R T log part c is → ∀ i ∈ is, i < T.count)
    (hmono : ∀ {T U log log' part c is}, R T log part c is → T.count ≤ U.count →
      (∀ i ∈ is, U.flight? i = T.flight? i) → log ⊆ log' → R U log' part c is)
    (hstep : ∀ {T log part c is w th}, R T log part c is → step c T.world = (w, some th) →
      ∃ log' U js, Moves s T is log' U js ∧ U.world = w ∧
        Part.Reaches s U (log ++ log') part th js)
    {parts : List (World.Part α)} {cs : List γ} {threads : List (Thread α)}
    (h : Abreast (R T log) parts cs is) (heach : World.each step cs T.world = (w, some threads)) :
    ∃ log' U js, Moves s T is log' U js ∧ U.world = w ∧
      Abreast (Part.Reaches s U (log ++ log')) parts threads js := by
  induction cs generalizing T log parts is w threads with
  | nil =>
    cases h
    cases heach
    exact ⟨[], T, [], .refl, rfl, .nil⟩
  | cons c cs ih =>
    obtain _ | @⟨part, _, is₁, parts, _, is₂, hpart, hrest, hd⟩ := h
    simp only [World.each] at heach
    split at heach
    next => cases heach
    next W th hth =>
      obtain ⟨log₁, U, js₁, h₁, rfl, hreaches⟩ := hstep hpart hth
      have hlt₂ := hrest.forall_mem hlt
      -- The steps of this part leave the flights of the parts after it as they are.
      have hrest : Abreast (R U (log ++ log₁)) parts cs is₂ := hrest.imp fun h hsub =>
        hmono h h₁.count_le (fun i hi => h₁.spares i (hlt h i hi) fun hi' => hd i hi' (hsub hi))
          (List.subset_append_left _ _)
      cases hthreads : (World.each step cs U.world).2 with
      | none => simp [hthreads] at heach
      | some ths =>
        simp only [hthreads, Option.map_some, Prod.mk.injEq, Option.some.injEq] at heach
        obtain ⟨hw, rfl⟩ := heach
        obtain ⟨log₂, V, js₂, h₂, hworld, hall⟩ := ih hrest (Prod.ext hw hthreads)
        have hd₁ := h₁.apart hd hlt₂
        rw [List.append_assoc] at hall
        -- Nor do the steps of those touch what this part has in flight now.
        refine ⟨log₁ ++ log₂, V, js₁ ++ js₂, h₁.beside h₂, hworld, .cons ?_ hall fun i hi hj => ?_⟩
        · refine hreaches.mono h₂.count_le (fun i hi => ?_) ?_
          · exact h₂.spares i (hreaches.lt_count i hi) (hd₁ i hi)
          · rw [← List.append_assoc]
            exact List.subset_append_left _ _
        · rcases h₂.known i hj with hj | hle
          · exact hd₁ i hi hj
          · exact Nat.not_le.mpr (hreaches.lt_count i hi) hle

/-- Waiting until none of several parts has to wait makes a part of a run. -/
theorem Moves.settleAll {parts : List (World.Part α)} {threads threads' : List (Thread α)} {n : Nat}
    (h : Abreast (Part.Reaches s T log) parts threads is)
    (hsettle : World.settleAll s n threads T.world = (w, some threads')) :
    ∃ log' U js, Moves s T is log' U js ∧ U.world = w ∧
      Abreast (Part.Reaches s U (log ++ log')) parts threads' js := by
  induction n generalizing T log is threads with
  | zero =>
    cases hsettle
    exact ⟨[], T, is, .refl, rfl, (List.append_nil log).symm ▸ h⟩
  | succ n ih =>
    rw [World.settleAll] at hsettle
    split at hsettle
    next =>
      cases hsettle
      exact ⟨[], T, is, .refl, rfl, (List.append_nil log).symm ▸ h⟩
    next instant _ =>
      have hpass : Moves s T is [.passed (instant - T.world.clock)]
          { T with world := T.world.advanceTo instant } is := by
        rw [T.world.advanceTo_eq]
        exact ⟨.cons (.pass _) .refl, Nat.le_refl _, fun _ _ _ => rfl, fun _ hi => .inl hi⟩
      have h : Abreast (Part.Reaches s { T with world := T.world.advanceTo instant }
          (log ++ [.passed (instant - T.world.clock)])) parts threads is := h.imp fun h _ =>
        h.mono (Nat.le_refl _) (fun _ _ => rfl) (List.subset_append_left _ _)
      split at hsettle
      next W threads₁ heach =>
        obtain ⟨log₁, U, js, h₁, rfl, hall⟩ := Moves.each (R := Part.Reaches s)
          (T := { T with world := T.world.advanceTo instant }) Part.Reaches.lt_count
          Part.Reaches.mono Moves.poll h heach
        obtain ⟨log₂, V, ks, h₂, hworld, hall⟩ := ih hall hsettle
        refine ⟨_, V, ks, (hpass.trans h₁).trans h₂, hworld, ?_⟩
        simpa only [List.append_assoc] using hall
      next => cases hsettle

/-- A part that is started makes a part of a run. -/
theorem Moves.start {part c : World.Part α} {th : Thread α} (hpart : Part.Unstarted T log part c is)
    (h : c.start s T.world = (w, some th)) :
    ∃ log' U js, Moves s T is log' U js ∧ U.world = w ∧
      Part.Reaches s U (log ++ log') part th js := by
  obtain ⟨rfl, rfl, hpart⟩ := hpart
  cases c with
  | plan p => exact Moves.begin hpart .start .nil h
  | act f =>
    cases h
    have hmoves : ∀ {e}, Step s T e { T with world := (f T.world).1 } →
        Moves s T [] [e] { T with world := (f T.world).1 } [] :=
      fun he => ⟨.cons he .refl, Nat.le_refl _, fun _ _ _ => rfl, List.forall_mem_nil _⟩
    rcases hpart T.world with ⟨millis, hadvance⟩ | halters
    · have hpass : Step s T (.passed millis) { T with world := (f T.world).1 } := by
        rw [hadvance]
        exact .pass millis
      exact ⟨_, _, [], hmoves hpass, rfl, .finished ⟨T.world, rfl⟩⟩
    · exact ⟨_, _, [], hmoves (.alter halters), rfl, .finished ⟨T.world, rfl⟩⟩

/-- Parts that are executed jointly make a run. Each comes to its value by what its operations end
with there. -/
theorem Steps.followAll {parts : List (World.Part α)} {results : List α} {w' : World}
    (hparts : ∀ part ∈ parts, part.IsSession)
    (h : World.followAll s parts w = (w', some results)) :
    ∃ log T, Run s w log T ∧ T.world = w' ∧ results.length = parts.length ∧
      ∀ x ∈ parts.zip results, x.1.Yields log x.2 := by
  rw [World.followAll] at h
  split at h
  next => cases h
  next W threads heach =>
    have hstart : Abreast (Part.Unstarted (.idle w) []) parts parts [] := .unstarted hparts
    obtain ⟨log₁, U, js, h₁, rfl, hall⟩ := Moves.each (s := s) (T := .idle w)
      (R := Part.Unstarted) Part.Unstarted.lt_count Part.Unstarted.mono Moves.start hstart heach
    obtain ⟨hworld, hsettled⟩ := Prod.mk.inj h
    obtain ⟨settled, hsettled, hresults⟩ := Option.bind_eq_some_iff.mp hsettled
    obtain ⟨log₂, V, ks, h₂, rfl, hall⟩ := Moves.settleAll hall (Prod.ext hworld hsettled)
    exact ⟨log₁ ++ log₂, V, (h₁.trans h₂).steps, rfl, hall.yields hresults⟩

end Traffic

end SessionLedger
