import SessionLedger.Proofs.Ledger.Profile

/-! Whether cached profiles are those of the rows. A login that has been kept in the row of its user
drops the cached profile, so one that was cached before is not found any more. But a profile that
was read before the login may be cached after the removal, and since profiles are kept for good it
stays until the next login. Nothing else makes a cached profile stale. -/
namespace SessionLedger
open Session Token User

/-- No call meets a fault or a limit, no operation is dropped, and nobody but the operations changes
anything. -/
structure Undisturbed (w : World) (log : List Event) : Prop where
  store : w.store.IsSound
  users : ∀ m, w.users.fault m = none
  unaltered : .altered ∉ log
  answered : ∀ {i c limit}, .called i (.remote c limit) none ∉ log
  unexpired : ∀ {i op late}, .expired i op late ∉ log

/-- The text is the profile of a user as their row is now. -/
def IsCurrent (T : Traffic) (user : Int64) (text : String) : Prop :=
  ∃ a, T.row? user = some a ∧ Snapshot.decode? text = some (.ofProjection a.projection)

/-- Each profile in the cache is current. -/
def Coherent (s : Issuer) (T : Traffic) : Prop :=
  ∀ key x, s.userPrefix.toList <+: key.toList → T.live? key = some x →
    ∃ user, key = s.profileKey user ∧ IsCurrent T user x.value

/-- A profile was read from the row of a user before another operation kept a login there, and
cached after that operation had dropped the cached profile. -/
def Overtaken (s : Issuer) (log : List Event) (user : Int64) (text : String) : Prop :=
  ∃ i j p A read B note C drop D write E,
    log = A ++ read :: B ++ note :: C ++ drop :: D ++ write :: E ∧ i ≠ j ∧
    read.flight? = some i ∧ read.Projects user p ∧ text = (Snapshot.ofProjection p).encode ∧
    note.flight? = some j ∧ note.Notes user ∧
    drop.flight? = some j ∧ drop.Removes (s.profileKey user) ∧
    write.flight? = some i ∧ write.Writes (s.profileKey user) text

namespace Traffic
variable {s : Issuer} {w : World} {T : Traffic} {log log₁ log₂ : List Event} {e : Event}
variable {user : Int64} {key text : String}

/-- After each of its calls an operation returns, unless something disturbs it. -/
theorem Steps.returned_after {i : Nat} {c : Effect.Call} {reply : c.Reply}
    (hcalm : Undisturbed w (log₁ ++ .called i c reply :: log₂))
    (h : Run s w (log₁ ++ .called i c reply :: log₂) T) (hi : T.flight? i = none) :
    ∃ mid op result rest, log₂ = mid ++ .returned i op result :: rest := by
  obtain ⟨op, hstart⟩ := h.started_of_called (List.mem_append_right log₁ (List.mem_cons_self ..))
  obtain ⟨last, hlast, hends⟩ := h.exists_end hstart hi
  cases last with
  | expired => exact absurd hlast hcalm.unexpired
  | returned j op' result =>
    cases hends
    rcases List.mem_append.mp hlast with hbefore | hafter
    · -- Nothing is called after the end.
      obtain ⟨A, B, rfl⟩ := List.append_of_mem hbefore
      rw [List.append_assoc, List.cons_append] at h
      exact absurd rfl (h.flight?_ne_of_end rfl (List.mem_append_right B (List.mem_cons_self ..)))
    · rcases List.mem_cons.mp hafter with heq | hafter
      · cases heq
      · obtain ⟨mid, rest, rfl⟩ := List.append_of_mem hafter
        exact ⟨mid, op', result, rest, rfl⟩
  | _ => cases hends

/-- A sound store that is not given up on carries out what it is asked to remove. -/
theorem Steps.removes_of_calm {i : Nat} {keys : List String} {limit : Option Nat}
    {reply : Option (Except Store.Refusal Nat)}
    (hcalm : Undisturbed w
      (log₁ ++ .called i (.remote (.store (.delete keys)) limit) reply :: log₂))
    (h : Run s w (log₁ ++ .called i (.remote (.store (.delete keys)) limit) reply :: log₂) T)
    (hkey : key ∈ keys) :
    Event.Removes key (.called i (.remote (.store (.delete keys)) limit) reply) := by
  obtain ⟨U, V, hU, he, -⟩ := h.at
  match reply with
  | none => exact absurd (List.mem_append_right log₁ (List.mem_cons_self ..)) hcalm.answered
  | some reply =>
    have hsound := hU.isSound hcalm.store fun hmem =>
      hcalm.unaltered (List.mem_append_left _ hmem)
    obtain ⟨n, hn⟩ := hsound.delete U.world.clock keys
    rw [he.stored.1, hn]
    exact ⟨i, keys, limit, n, hkey, rfl⟩

/-- An operation that has kept a login has dropped the cached profile by the time it has ended. -/
theorem Steps.drop_of_notes (hcalm : Undisturbed w (log₁ ++ e :: log₂))
    (h : Run s w (log₁ ++ e :: log₂) T) (hdone : ∀ i, T.flight? i = none) (he : e.Notes user) :
    ∃ j mid drop rest, e.flight? = some j ∧ log₂ = mid ++ drop :: rest ∧ drop.flight? = some j ∧
      drop.Removes (s.profileKey user) := by
  obtain ⟨j, instant, limit, rfl⟩ := he
  obtain ⟨before, op, result, after, rfl⟩ := h.returned_after hcalm (hdone j)
  rw [← List.cons_append, ← List.append_assoc] at h
  have htidy := h.shows.1
  rw [diary_append, diary_cons_called] at htidy
  -- The note is not the last exchange, and the one after it is the removal.
  cases hnext : diary before j with
  | nil =>
    rw [hnext] at htidy
    exact absurd ⟨_, instant, limit, rfl⟩ (htidy user)
  | cons x d =>
    obtain ⟨c, reply⟩ := x
    obtain ⟨mid, rest, rfl, hmid, -⟩ := diary_eq_append_cons (d := []) hnext
    rw [← List.cons_append, ← List.append_assoc, List.append_assoc, List.cons_append] at h
    have hminds := h.minds
    rw [diary_append, diary_cons_called, hmid] at hminds
    obtain ⟨limit', rfl⟩ := hminds.drops ⟨_, instant, limit, rfl⟩
    have hremoves := h.removes_of_calm (by simpa using hcalm) (List.mem_singleton_self _)
    exact ⟨j, mid, _, rest ++ .returned j op result :: after, rfl, by simp, rfl, hremoves⟩

/-- Where a login was kept after the row had been read, its removal came before the profile was
cached, since the profile is still there. -/
theorem Steps.overtaken_of_notes {i : Nat} {p : Projection} {A mid rest : List Event}
    {read write note : Event} (hcalm : Undisturbed w (A ++ read :: mid ++ write :: rest))
    (h : Run s w (A ++ read :: mid ++ write :: rest) T) (hdone : ∀ i, T.flight? i = none)
    (hi : read.flight? = some i) (hread : read.Projects user p) (hmid : diary mid i = [])
    (hi' : write.flight? = some i)
    (hwrite : write.Writes (s.profileKey user) (Snapshot.ofProjection p).encode)
    (hkept : ∀ e ∈ rest, ¬ e.Removes (s.profileKey user))
    (hmem : note ∈ mid ++ write :: rest) (hnote : note.Notes user) :
    Overtaken s (A ++ read :: mid ++ write :: rest) user (Snapshot.ofProjection p).encode := by
  obtain ⟨B, R, hsplit⟩ := List.append_of_mem hmem
  have hlog : A ++ read :: mid ++ write :: rest = (A ++ read :: B) ++ note :: R := by
    rw [List.append_assoc, List.cons_append, hsplit, List.append_assoc, List.cons_append]
  obtain ⟨j, C, drop, R', hj, rfl, hj', hdrop⟩ :=
    Steps.drop_of_notes (hlog ▸ hcalm) (hlog ▸ h) hdone hnote
  have hcut : mid ++ write :: rest = (B ++ note :: C) ++ drop :: R' := by
    rw [hsplit, List.append_assoc, List.cons_append]
  rcases cut_cases hcut with ⟨-, rfl, -⟩ | ⟨D, hlate⟩ | ⟨D, rfl⟩
  · obtain ⟨i, lifetime, limit, rfl⟩ := hwrite
    obtain ⟨i', keys, limit', n, -, heq⟩ := hdrop
    cases heq
  · -- A removal after the write would have left nothing.
    rw [hlate, List.append_assoc, List.cons_append] at hcut
    obtain ⟨-, rfl⟩ := List.cons.inj (List.append_cancel_left hcut)
    exact absurd hdrop (hkept drop (by simp))
  · refine ⟨i, j, p, A, read, B, note, C, drop, D, write, rest, by simp, ?_, hi, hread, rfl, hj,
      hnote, hj', hdrop, hi', hwrite⟩
    rintro rfl
    obtain ⟨j, instant, limit, rfl⟩ := hnote
    cases hj
    -- Between its two calls the reader makes no other.
    simp at hmid

/-- When all operations have ended undisturbed on a cache that was coherent, each cached profile is
current, unless its reader was overtaken by a login. -/
theorem Steps.current_or_overtaken (hs : s.PrefixesApart) (hstart : Coherent s (idle w))
    (hcalm : Undisturbed w log) (h : Run s w log T) (hdone : ∀ i, T.flight? i = none)
    {x : Store.Entry} (hkey : s.userPrefix.toList <+: key.toList) (hx : T.live? key = some x) :
    ∃ user, key = s.profileKey user ∧
      (IsCurrent T user x.value ∨ Overtaken s log user x.value) := by
  obtain ⟨hheld, hlive⟩ := live?_eq_some_iff.mp hx
  rcases h.last_write hheld with ⟨log₁, write, rest, rfl, hwrite, hkept⟩ | ⟨hfirst, hkept⟩
  · obtain ⟨i, user, p, A, read, mid, hi', rfl, hi, hread, hmid, rfl, hvalue⟩ :=
      h.projects_of_writes hs hkey hwrite
    refine ⟨user, rfl, ?_⟩
    rw [hvalue] at hwrite ⊢
    by_cases hnotes : ∃ note ∈ mid ++ write :: rest, note.Notes user
    · obtain ⟨note, hmem, hnote⟩ := hnotes
      exact .inr (h.overtaken_of_notes hcalm hdone hi hread hmid hi' hwrite hkept hmem hnote)
    · left
      have hunaltered := hcalm.unaltered
      rw [List.append_assoc, List.cons_append] at h hunaltered
      obtain ⟨U, V, hU, hstep, hV⟩ := h.at
      obtain ⟨a, ha, rfl⟩ := hstep.row?_of_projects hread
      have hrow : T.row? user = U.row? user := by
        refine (Steps.cons hstep hV).row?_of_quiet ?_ fun e he => ?_
        · exact fun hmem => hunaltered (List.mem_append_right A hmem)
        · rcases List.mem_cons.mp he with rfl | he
          · exact hread.not_notes
          · exact fun hnote => hnotes ⟨e, he, hnote⟩
      exact ⟨a, hrow.trans ha, Snapshot.decode?_encode _⟩
  · -- The profile was there at the start, so there was no login since, and the row is the same.
    have hlive' : (idle w).live? key = some x :=
      live?_eq_some_iff.mpr ⟨hfirst, x.isLive_of_le hlive h.clock_le⟩
    obtain ⟨user, rfl, a, ha, hread⟩ := hstart key x hkey hlive'
    refine ⟨user, rfl, .inl ⟨a, ?_, hread⟩⟩
    refine (h.row?_of_quiet hcalm.unaltered fun e he hnote => ?_).trans ha
    obtain ⟨log₁, log₂, rfl⟩ := List.append_of_mem he
    obtain ⟨j, mid, drop, rest, -, rfl, -, hdrop⟩ := h.drop_of_notes hcalm hdone hnote
    exact hkept drop (by simp) hdrop

end Traffic

/-! ## Runs without disturbance -/

/-- The event is no disturbance. -/
def Event.isCalm : Event → Bool
  | .called _ c reply => isServed ⟨c, reply⟩
  | .expired .. => false
  | .altered => false
  | _ => true

theorem undisturbed_of_isCalm {w : World} {log : List Event} (hstore : w.store.IsSound)
    (husers : ∀ m, w.users.fault m = none) (h : log.all Event.isCalm) : Undisturbed w log where
  store := hstore
  users := husers
  unaltered hmem := Bool.false_ne_true (List.all_eq_true.mp h _ hmem)
  answered {i c limit} hmem := by
    have hserved := List.all_eq_true.mp h _ hmem
    cases c <;> exact Bool.false_ne_true hserved
  unexpired hmem := Bool.false_ne_true (List.all_eq_true.mp h _ hmem)

theorem all_isCalm_eventsOf (i : Nat) (d : Diary) :
    (eventsOf i d).all Event.isCalm = d.all isServed :=
  List.all_map

theorem Traffic.all_isCalm_aloneLog {s : Issuer} {T : Traffic} {op : Operation}
    {result : op.Result} :
    (aloneLog s T op result).all Event.isCalm = (T.world.trace (op.task s)).1.all isServed := by
  simp [aloneLog, all_isCalm_eventsOf, Event.isCalm]

theorem soundWorld_isSound : (soundWorld 7).store.IsSound :=
  ⟨rfl, rfl, rfl⟩

/-- In an empty cache no profile is stale. -/
theorem coherent_soundWorld : Coherent sampleIssuer (.idle (soundWorld 7)) := by
  intro key x _ hx
  cases hx

/-- The profile that a lone login caches is current. -/
theorem Traffic.Steps.current_or_overtaken_of_login : ∃ log T x,
    Undisturbed (soundWorld 7) log ∧ Run sampleIssuer (soundWorld 7) log T ∧
      T.live? "user:7" = some x ∧ IsCurrent T 7 x.value := by
  obtain ⟨grant, hrun⟩ := run_soundLogin
  have hcalm : Undisturbed (soundWorld 7) (aloneLog sampleIssuer (.idle (soundWorld 7))
      sampleLogin (.ok grant)) := by
    refine undisturbed_of_isCalm soundWorld_isSound (fun _ => rfl) ?_
    rw [all_isCalm_aloneLog]
    decide +kernel
  have hdone : ∀ i, afterSound.flight? i = none := by
    intro i
    show (if i = 0 then none else none) = none
    exact ite_self none
  have hcached : (afterSound.live? "user:7").isSome := by
    decide +kernel
  obtain ⟨x, hx⟩ := Option.isSome_iff_exists.mp hcached
  have hprofile : sampleIssuer.userPrefix.toList <+: "user:7".toList := by
    decide
  obtain ⟨user, hkey, hcurrent⟩ := Steps.current_or_overtaken sampleIssuer_prefixesApart
    coherent_soundWorld hcalm hrun hdone hprofile hx
  have huser : user = 7 := (Issuer.profileKey_inj (s := sampleIssuer)).mp hkey.symm
  subst huser
  refine ⟨_, _, x, hcalm, hrun, hx, hcurrent.resolve_right ?_⟩
  -- There is no other operation that could have overtaken the login.
  rintro ⟨i, j, p, A, read, B, note, C, drop, D, write, E, hlog, hne, hi, -, -, hj, -⟩
  have hflight : ∀ e ∈ A ++ read :: B ++ note :: C ++ drop :: D ++ write :: E,
      e.flight? = some 0 := fun e he => flight?_of_mem_aloneLog (hlog ▸ he)
  have hread := hflight read (by simp)
  have hnote := hflight note (by simp)
  rw [hi, Option.some.injEq] at hread
  rw [hj, Option.some.injEq] at hnote
  exact hne (hread.trans hnote.symm)

/-! ## A profile that outlives a login -/

/-- The profile of the user before the login. -/
abbrev oldProfile : Snapshot :=
  .ofProjection (⟨sampleUser 7, none, none, none, none, none, false⟩ : Account).projection

/-- The first call of a lookup, which finds nothing. -/
abbrev searching : Task (Except CacheFault Snapshot) :=
  Cache.getSnapshot sampleIssuer.cacheLimit (sampleIssuer.profileKey 7)

/-- The second call, which reads the row. -/
abbrev asking : Task (Except DirectoryError Projection) :=
  sampleIssuer.askUsers (.project 7)

/-- The last call, which caches what has been read. -/
abbrev caching : Task (Except SessionError Snapshot) :=
  (Cache.setSnapshot sampleIssuer.cacheLimit (sampleIssuer.profileKey 7) oldProfile 0).bind fun _ =>
    .done (.ok oldProfile)

/-- A lookup has begun. -/
abbrev lookupBegun : Traffic :=
  { (Traffic.idle (soundWorld 7)).put 0 (some ⟨.profile 7, sampleIssuer.profile 7⟩) with
    count := 1 }

/-- It has found nothing in the cache. -/
abbrev lookupMissed : Traffic :=
  { lookupBegun.put 0 (some ⟨.profile 7, sampleIssuer.rebuildProfile 7⟩) with
    world := (lookupBegun.world.trace searching).2.1 }

/-- It has read the row and not cached the profile yet. -/
abbrev lookupRead : Traffic :=
  { lookupMissed.put 0 (some ⟨.profile 7, caching⟩) with
    world := (lookupMissed.world.trace asking).2.1 }

/-- A login has run meanwhile. -/
abbrev lookupOvertaken : Traffic :=
  lookupRead.alone sampleIssuer sampleLogin

/-- The lookup has cached what it had read. -/
abbrev lookupCached : Traffic :=
  { lookupOvertaken.put 0 none with world := (lookupOvertaken.world.trace caching).2.1 }

/-- What happens in the lookup before the login. -/
abbrev lookupLog : List Event :=
  .started 0 (.profile 7) :: (eventsOf 0 (lookupBegun.world.trace searching).1 ++
    eventsOf 0 (lookupMissed.world.trace asking).1)

theorem run_lookupRead : Traffic.Run sampleIssuer (soundWorld 7) lookupLog lookupRead := by
  have hmissed : (lookupBegun.world.trace searching).2.2 = some (.error .notFound) := rfl
  have hread : (lookupMissed.world.trace asking).2.2 =
      some (.ok (⟨sampleUser 7, none, none, none, none, none, false⟩ : Account).projection) := rfl
  refine .cons (.start trivial) ?_
  have hsearching := Traffic.Steps.part (s := sampleIssuer) (T := lookupBegun) (i := 0)
    (p := searching) rfl hmissed
  have hasking := Traffic.Steps.part (s := sampleIssuer) (T := lookupMissed) (i := 0) (p := asking)
    rfl hread
  exact hsearching.trans hasking

theorem steps_lookupOvertaken : ∃ grant, Traffic.Steps sampleIssuer lookupRead
    (Traffic.aloneLog sampleIssuer lookupRead sampleLogin (.ok grant)) lookupOvertaken := by
  have hgranted : (lookupRead.world.trace (sampleLogin.task sampleIssuer)).2.2.any Except.isOk := by
    decide +kernel
  obtain ⟨grant, hgrant⟩ := exists_ok hgranted
  exact ⟨grant, .alone trivial hgrant⟩

theorem steps_lookupCached : ∃ snapshot, Traffic.Steps sampleIssuer lookupOvertaken
    (eventsOf 0 (lookupOvertaken.world.trace caching).1 ++
      [.returned 0 (.profile 7) (.ok snapshot)]) lookupCached := by
  have hcached : (lookupOvertaken.world.trace caching).2.2.any Except.isOk := by
    decide +kernel
  obtain ⟨snapshot, hsnapshot⟩ := exists_ok hcached
  have hflight : lookupOvertaken.flight? 0 = some ⟨.profile 7, caching⟩ := rfl
  exact ⟨snapshot, .trace hflight hsnapshot⟩

/-- Nothing of this is a disturbance. -/
theorem run_lookupCached : ∃ log, Undisturbed (soundWorld 7) log ∧
    Traffic.Run sampleIssuer (soundWorld 7) log lookupCached := by
  obtain ⟨grant, hlogin⟩ := steps_lookupOvertaken
  obtain ⟨snapshot, hcached⟩ := steps_lookupCached
  have hbefore : lookupLog.all Event.isCalm := by
    decide +kernel
  have hmeanwhile : (lookupRead.world.trace (sampleLogin.task sampleIssuer)).1.all isServed := by
    decide +kernel
  have hafter : (lookupOvertaken.world.trace caching).1.all isServed := by
    decide +kernel
  refine ⟨_, undisturbed_of_isCalm soundWorld_isSound (fun _ => rfl) ?_,
    (run_lookupRead.trans hlogin).trans hcached⟩
  rw [List.all_append, List.all_append, List.all_append, Traffic.all_isCalm_aloneLog, hbefore,
    hmeanwhile, all_isCalm_eventsOf, hafter]
  rfl

/-- The login has changed the row. -/
theorem not_isCurrent_oldProfile : ¬ IsCurrent lookupCached 7 oldProfile.encode := by
  have hrow : (lookupCached.row? 7).map (·.user.isFirstLogin) = some false := by
    decide +kernel
  rintro ⟨a, ha, hread⟩
  rw [Snapshot.decode?_encode, Option.some.injEq] at hread
  rw [ha, Option.map_some, Option.some.injEq] at hrow
  have hfirst : true = a.user.isFirstLogin := congrArg (·.isFirstLogin) hread
  rw [hrow] at hfirst
  cases hfirst

/-- A lookup may read the row before a login and cache what it has read after it. The profile is
then kept for good, though the row is another one: no call has met a fault or a limit, and no
operation is in flight. -/
theorem Traffic.Steps.profile_outlives_login : ∃ log T,
    Coherent sampleIssuer (.idle (soundWorld 7)) ∧ Undisturbed (soundWorld 7) log ∧
      Run sampleIssuer (soundWorld 7) log T ∧ (∀ i, T.flight? i = none) ∧
      T.live? (sampleIssuer.profileKey 7) = some ⟨oldProfile.encode, none⟩ ∧
      ¬ IsCurrent T 7 oldProfile.encode ∧ ¬ Coherent sampleIssuer T := by
  obtain ⟨log, hcalm, hrun⟩ := run_lookupCached
  have hdone : ∀ i, lookupCached.flight? i = none := by
    intro i
    simp only [Traffic.alone, Traffic.put, Traffic.idle]
    split
    · rfl
    · simp
  have hlive : lookupCached.live? (sampleIssuer.profileKey 7) =
      some ⟨oldProfile.encode, none⟩ := by
    decide +kernel
  refine ⟨log, _, coherent_soundWorld, hcalm, hrun, hdone, hlive, not_isCurrent_oldProfile,
    fun hcoherent => ?_⟩
  obtain ⟨user, hkey, hcurrent⟩ :=
    hcoherent _ _ (Issuer.prefix_profileKey sampleIssuer 7) hlive
  rw [← Issuer.profileKey_inj.mp hkey] at hcurrent
  exact not_isCurrent_oldProfile hcurrent

end SessionLedger
