import SessionLedger.Proofs.Ledger.Verdict
import SessionLedger.Proofs.Traffic.Entry
import SessionLedger.Proofs.User.Snapshot
import SessionLedger.Proofs.World.Exchanges

/-! Snapshots in the cache. What is kept is the text of a snapshot, and what is handed out is what
this text is read as: the snapshot that was kept, for as long as its entry lives. A snapshot that
was read from any other text is kept and read again as the same snapshot. -/
namespace SessionLedger.World
open Session User

variable {s : Issuer} {w w' : World} {key : String} {snapshot : Snapshot} {lifetime : Nat}

/-- A store that responds answers what is live. -/
theorem run_get_of_responds (hw : w.Responds s) (key : String) :
    run none (Cache.ask (some s.cacheLimit) (.get key)) w =
      (w.wrote (w.store.answer (w.clock + w.store.latency) (.get key)).1.entries,
        .finished (.ok (w.found? key))) :=
  run_ask_eq_ok_iff.mpr ⟨hw.inLimit, Store.State.answer_get_of_available hw.available, rfl⟩

/-- A text that is found and can be read is handed out as the snapshot that it holds. -/
theorem run_getSnapshot_of_found (hw : w.Responds s) {text : String}
    (hfound : w.found? key = some text) (hread : Snapshot.decode? text = some snapshot) :
    run none (Cache.getSnapshot s.cacheLimit key) w =
      (w.wrote (w.store.answer (w.clock + w.store.latency) (.get key)).1.entries,
        .finished (.ok snapshot)) := by
  have hask := run_get_of_responds hw key
  rw [hfound] at hask
  rw [Cache.getSnapshot, Cache.get, Program.bind_eq, Program.bind_eq, Program.bind_assoc,
    run_bind hask]
  simp only [Program.pure_eq, Program.done_bind, hread]
  rfl

/-- A snapshot that is handed out is what a text is read as that was found. -/
theorem found_of_run_getSnapshot
    (h : run none (Cache.getSnapshot s.cacheLimit key) w = (w', .finished (.ok snapshot))) :
    ∃ text, w.found? key = some text ∧ Snapshot.decode? text = some snapshot := by
  have hends : Ends (Cache.getSnapshot s.cacheLimit key) w fun _ result =>
      ∀ snapshot, result = .ok snapshot →
        ∃ text, w.found? key = some text ∧ Snapshot.decode? text = some snapshot := by
    simp only [Cache.getSnapshot, Cache.get, Program.bind_eq, ends_bind]
    intro U asked hask
    cases asked with
    | error e => simp
    | ok found =>
      obtain ⟨-, hanswer, -⟩ := run_ask_eq_ok_iff.mp hask
      have hfound : w.found? key = found := (Store.State.answer_get hanswer).symm
      cases found with
      | none => simp
      | some text =>
        simp only [Program.pure_eq, ends_done, hfound]
        cases hread : Snapshot.decode? text with
        | none => simp
        | some snapshot' => simp [hread]
  exact hends w' _ h snapshot rfl

/-- Keeping a snapshot puts its text under the key. -/
theorem held_of_run_setSnapshot
    (h : run none (Cache.setSnapshot s.cacheLimit key snapshot lifetime) w =
      (w', .finished (.ok ()))) :
    w'.store.entries.find? key =
      some ⟨snapshot.encode, Store.State.expiryAt w'.clock lifetime⟩ := by
  obtain ⟨-, hanswer, rfl⟩ := run_ask_eq_ok_iff.mp h
  rw [entries_wrote, Store.State.answer_set hanswer, Store.Table.find?_insert, if_pos rfl]
  rfl

/-- While its entry lives, the snapshot is found. -/
theorem run_getSnapshot_of_held (hw : w.Responds s) {written : Nat}
    (hheld : w.store.entries.find? key =
      some ⟨snapshot.encode, Store.State.expiryAt written lifetime⟩)
    (hlive : lifetime = 0 ∨ w.clock + w.store.latency < written + 1000 * lifetime) :
    ∃ w', run none (Cache.getSnapshot s.cacheLimit key) w = (w', .finished (.ok snapshot)) := by
  have hfound : w.found? key = some snapshot.encode :=
    Option.map_eq_some_iff.mpr ⟨_, Store.State.live?_eq_some_iff.mpr
      ⟨hheld, Store.State.isLive_expiryAt_iff.mpr hlive⟩, rfl⟩
  exact ⟨_, run_getSnapshot_of_found hw hfound snapshot.decode?_encode⟩

/-- A snapshot has been kept under a key, for a lifetime in seconds or for good. As long as the key
is neither removed nor written again and the entry lives, the snapshot is handed out. -/
structure KeepsSnapshot (s : Issuer) (w : World) (key : String) (snapshot : Snapshot)
    (lifetime : Nat) : Prop where
  held : w.store.entries.find? key =
    some ⟨snapshot.encode, Store.State.expiryAt w.clock lifetime⟩
  standing : ∀ x : World, x.store.entries.find? key = w.store.entries.find? key → x.Responds s →
    (lifetime = 0 ∨ x.clock + x.store.latency < w.clock + 1000 * lifetime) →
    ∃ x', x.perform s (.cacheGetSnapshot key) = (x', some (.ok snapshot))
  later : ∀ log T, Traffic.Run s w log T → (∀ e ∈ log, ∀ value, ¬ e.Writes key value) →
    (∀ e ∈ log, ¬ e.Removes key) → T.world.Responds s →
    (lifetime = 0 ∨ T.world.clock + T.world.store.latency < w.clock + 1000 * lifetime) →
    ∃ x', T.world.perform s (.cacheGetSnapshot key) = (x', some (.ok snapshot))

theorem keepsSnapshot_of_held
    (hheld : w.store.entries.find? key =
      some ⟨snapshot.encode, Store.State.expiryAt w.clock lifetime⟩) :
    w.KeepsSnapshot s key snapshot lifetime where
  held := hheld
  standing x hx hresponds hlive := by
    rw [hheld] at hx
    obtain ⟨x', hrun⟩ := run_getSnapshot_of_held hresponds hx hlive
    exact ⟨x', (perform_of_deadline_eq_none rfl).mpr hrun⟩
  later log T h hwrites hremoves hresponds hlive := by
    -- What lives when the lookup arrives has lived all the time before.
    have hnow : lifetime = 0 ∨ T.world.clock < w.clock + 1000 * lifetime :=
      hlive.imp_right fun hlt => Nat.lt_of_le_of_lt (Nat.le_add_right _ _) hlt
    have hkept :=
      h.held?_of_isLive hheld (Store.State.isLive_expiryAt_iff.mpr hnow) hwrites hremoves
    obtain ⟨x', hrun⟩ := run_getSnapshot_of_held hresponds hkept hlive
    exact ⟨x', (perform_of_deadline_eq_none rfl).mpr hrun⟩

/-- Snapshots come back from the cache as they were. A snapshot that has been kept is handed out for
as long as its entry lives; it is kept whenever the store responds, accepts writes under the key,
and has an instant for the end of the lifetime. And whatever text a snapshot was read from, its own
text is read as the same snapshot, so that reading, writing and reading again is reading. -/
theorem snapshot_comes_back (s : Issuer) :
    (∀ (w w' : World) key snapshot lifetime,
      w.perform s (.cacheSetSnapshot key snapshot lifetime) = (w', some (.ok ())) →
      w'.KeepsSnapshot s key snapshot lifetime) ∧
    (∀ (w : World) key snapshot lifetime, w.Responds s →
      w.store.failingPrefix.any (key.startsWith ·) = false →
      lifetime ≤ Store.State.longestLifetime →
      ∃ w', w.perform s (.cacheSetSnapshot key snapshot lifetime) = (w', some (.ok ()))) ∧
    (∀ (w w' : World) key snapshot,
      w.perform s (.cacheGetSnapshot key) = (w', some (.ok snapshot)) →
      (∃ text, w.found? key = some text ∧ Snapshot.decode? text = some snapshot) ∧
        Snapshot.decode? snapshot.encode = some snapshot) ∧
    ∀ text, ((Snapshot.decode? text).bind fun snapshot => Snapshot.decode? snapshot.encode) =
      Snapshot.decode? text := by
  refine ⟨fun w w' key snapshot lifetime h => ?_, fun w key snapshot lifetime hw hprefix hle => ?_,
    fun w w' key snapshot h => ⟨?_, snapshot.decode?_encode⟩, fun text => ?_⟩
  · exact keepsSnapshot_of_held (held_of_run_setSnapshot ((perform_of_deadline_eq_none rfl).mp h))
  · have hanswer : (w.store.answer (w.clock + w.store.latency)
        (.set key snapshot.encode lifetime)).2 = .ok () :=
      Store.State.answer_set_eq_ok_iff.mpr ⟨hw.available, hprefix, hle⟩
    exact ⟨_, (perform_of_deadline_eq_none rfl).mpr
      (run_ask_eq_ok_iff.mpr ⟨hw.inLimit, hanswer, rfl⟩)⟩
  · exact found_of_run_getSnapshot ((perform_of_deadline_eq_none rfl).mp h)
  · simp only [Snapshot.decode?_encode, Option.bind_fun_some]

end SessionLedger.World
