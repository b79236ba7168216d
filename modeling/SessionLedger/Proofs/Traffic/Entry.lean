import SessionLedger.Proofs.Store.Answer
import SessionLedger.Proofs.Traffic.Run

/-! The entry of one key in a run: which events write it and which remove it, and that no other
event changes it, but for dropping it when it is dead. -/
namespace SessionLedger

namespace Event

/-- The store has written a value under a key. -/
def Writes (key value : String) (e : Event) : Prop :=
  ∃ i lifetime limit,
    e = .called i (.remote (.store (.set key value lifetime)) limit) (some (.ok ()))

/-- The store has removed a key. -/
def Removes (key : String) (e : Event) : Prop :=
  ∃ i keys limit n, key ∈ keys ∧
    e = .called i (.remote (.store (.delete keys)) limit) (some (.ok n))

end Event

namespace Traffic
open Session Store
variable {s : Issuer} {w : World} {T T₁ T₂ : Traffic} {log log₁ log₂ : List Event} {e : Event}
variable {key value : String}

/-- The entry under a key, dead or alive. -/
def held? (T : Traffic) (key : String) : Option Entry :=
  T.world.store.entries.find? key

/-- The entry under a key, if it is live. -/
def live? (T : Traffic) (key : String) : Option Entry :=
  T.world.store.live? T.world.clock key

theorem live?_eq_none_iff :
    T.live? key = none ↔ ∀ e, T.held? key = some e → e.isLive T.world.clock = false :=
  State.live?_eq_none_iff

theorem live?_eq_some_iff {e : Entry} :
    T.live? key = some e ↔ T.held? key = some e ∧ e.isLive T.world.clock = true :=
  State.live?_eq_some_iff

theorem live?_eq_none_of_held? (h : T.held? key = none) : T.live? key = none :=
  live?_eq_none_iff.mpr (by simp [h])

/-- A call that the key-value store has carried out was answered by the store of that moment. -/
theorem Step.stored {i : Nat} {c : Store.Call} {limit : Option Nat}
    {reply : Except Refusal c.Answer}
    (h : Step s T (.called i (.remote (.store c) limit) (some reply)) T₁) :
    reply = (T.world.store.answer T.world.clock c).2 ∧
      T₁.world.store = (T.world.store.answer T.world.clock c).1 := by
  cases h with
  | answer hi hr =>
    cases hr with
    | remote => exact ⟨rfl, rfl⟩

theorem Step.set_ok {i lifetime : Nat} {limit : Option Nat}
    (h : Step s T
      (.called i (.remote (.store (.set key value lifetime)) limit) (some (.ok ()))) T₁) :
    T₁.held? key = some ⟨value, State.expiryAt T.world.clock lifetime⟩ := by
  obtain ⟨hr, hw⟩ := h.stored
  rw [held?, hw, State.answer_set hr.symm, Table.find?_insert, if_pos rfl]

theorem Step.get_ok {i : Nat} {limit : Option Nat} {found : Option String}
    (h : Step s T (.called i (.remote (.store (.get key)) limit) (some (.ok found))) T₁) :
    found = (T.live? key).map (·.value) :=
  State.answer_get h.stored.1.symm

theorem Step.delete_ok {i n : Nat} {keys : List String} {limit : Option Nat}
    (h : Step s T (.called i (.remote (.store (.delete keys)) limit) (some (.ok n))) T₁) :
    (∀ key, T₁.held? key = if key ∈ keys then none else T.held? key) ∧
      (n = 0 ↔ ∀ key ∈ keys, T.live? key = none) := by
  obtain ⟨hr, hw⟩ := h.stored
  obtain ⟨hentries, hn⟩ := State.answer_delete (m := T.world.store) hr.symm
  constructor
  · intro key
    rw [held?, hw, hentries, State.find?_deleteAll]
    rfl
  · rw [hn, State.deleteAll_eq_zero_iff]
    exact forall₂_congr fun key _ => live?_eq_none_iff.symm

/-- An event that neither writes nor removes a key keeps its entry, or drops it dead. -/
theorem Step.held?_of_quiet (h : Step s T e T₁) (hw : ∀ value, ¬ e.Writes key value)
    (hr : ¬ e.Removes key) :
    T₁.held? key = T.held? key ∨ T₁.held? key = none ∧ T.live? key = none := by
  cases h with
  | @answer i op c next reply w hi ha =>
    cases ha with
    | remote c limit =>
      cases c with
      | users c => exact .inl rfl
      | store c =>
        -- A refused call changes nothing, whatever it asked for.
        cases hc : (T.world.store.answer T.world.clock c).2 with
        | error r =>
          refine .inl ?_
          change (T.world.store.answer T.world.clock c).1.entries.find? key = _
          rw [State.answer_error hc]
          rfl
        | ok a =>
          have he : (some (T.world.answerRemote (.store c)).2 :
              Option (Remote.Call.Reply (.store c))) = some (.ok a) := congrArg some hc
          refine State.find?_answer (fun v l hcl => ?_) (fun ks hcl hmem => ?_)
          · subst hcl
            exact hw v ⟨i, l, limit, by rw [he]⟩
          · subst hcl
            exact hr ⟨i, ks, limit, a, hmem, by rw [he]⟩
    | clock => exact .inl rfl
    | uuid => exact .inl rfl
    | compare c => exact .inl rfl
    | missed c limit => exact .inl rfl
  | start => exact .inl rfl
  | finish => exact .inl rfl
  | expire => exact .inl rfl
  | pass millis => exact .inl rfl
  | alter h =>
    refine .inl ?_
    change Table.find? _ key = _
    rw [h.entries]
    rfl

theorem Step.held?_of_removes (h : Step s T e T₁) (he : e.Removes key) : T₁.held? key = none := by
  obtain ⟨i, keys, limit, n, hmem, rfl⟩ := he
  rw [h.delete_ok.1, if_pos hmem]

/-- What is under a key after a step was there before, or the step has written it. -/
theorem Step.held?_eq_some {x : Entry} (h : Step s T e T₁) (hx : T₁.held? key = some x) :
    e.Writes key x.value ∨ T.held? key = some x := by
  by_cases hw : ∃ value, e.Writes key value
  · obtain ⟨value, i, lifetime, limit, rfl⟩ := hw
    rw [h.set_ok] at hx
    cases hx
    exact .inl ⟨i, lifetime, limit, rfl⟩
  · right
    by_cases hr : e.Removes key
    · rw [h.held?_of_removes hr] at hx
      cases hx
    · rcases h.held?_of_quiet (not_exists.mp hw) hr with heq | ⟨hnone, -⟩
      · rwa [← heq]
      · rw [hnone] at hx
        cases hx

/-- Events that neither write nor remove a key keep its entry, or drop it dead. -/
theorem Steps.held?_of_quiet (h : Steps s T log T₁) (hw : ∀ e ∈ log, ∀ value, ¬ e.Writes key value)
    (hr : ∀ e ∈ log, ¬ e.Removes key) :
    T₁.held? key = T.held? key ∨
      T₁.held? key = none ∧ T.world.store.live? T₁.world.clock key = none := by
  induction h with
  | refl => exact .inl rfl
  | @snoc log U e V h he ih =>
    have hV := he.held?_of_quiet (hw e (by simp)) (hr e (by simp))
    rcases ih (fun e' he' => hw e' (by simp [he'])) fun e' he' => hr e' (by simp [he']) with
      hU | ⟨hU, hdead⟩
    · rcases hV with hV | ⟨hV, hdead⟩
      · exact .inl (hV.trans hU)
      · -- The last step has dropped the entry that was there from the start.
        refine .inr ⟨hV, State.live?_eq_none_of_le ?_ he.clock_le⟩
        rw [live?_eq_none_iff, hU] at hdead
        exact State.live?_eq_none_iff.mpr hdead
    · -- It was dropped before, and an entry that is dead stays dead.
      refine .inr ⟨?_, State.live?_eq_none_of_le hdead he.clock_le⟩
      rcases hV with hV | ⟨hV, -⟩
      · exact hV.trans hU
      · exact hV

/-- An entry that is neither written nor removed is kept as long as it lives. -/
theorem Steps.held?_of_isLive {x : Entry} (h : Steps s T log T₁) (hx : T.held? key = some x)
    (hlive : x.isLive T₁.world.clock = true) (hw : ∀ e ∈ log, ∀ value, ¬ e.Writes key value)
    (hr : ∀ e ∈ log, ¬ e.Removes key) : T₁.held? key = some x := by
  rcases h.held?_of_quiet hw hr with heq | ⟨-, hdead⟩
  · rwa [heq]
  · rw [State.live?_eq_some_iff.mpr ⟨hx, hlive⟩] at hdead
    cases hdead

/-- Where a key is neither written nor removed, time alone tells which of its entries are live. -/
theorem Steps.live?_of_quiet (h : Steps s T log T₁) (hw : ∀ e ∈ log, ∀ value, ¬ e.Writes key value)
    (hr : ∀ e ∈ log, ¬ e.Removes key) :
    T₁.live? key = T.world.store.live? T₁.world.clock key := by
  rcases h.held?_of_quiet hw hr with heq | ⟨hnone, hdead⟩
  · exact congrArg (Option.filter _) heq
  · rw [hdead, live?_eq_none_of_held? hnone]

/-- A key that is absent stays absent while nothing is written under it. -/
theorem Steps.held?_eq_none (h : Steps s T log T₁) (hT : T.held? key = none)
    (hw : ∀ e ∈ log, ∀ value, ¬ e.Writes key value) : T₁.held? key = none := by
  induction h with
  | refl => exact hT
  | @snoc log U e V h he ih =>
    have hU := ih fun e' he' => hw e' (by simp [he'])
    cases hV : V.held? key with
    | none => rfl
    | some x =>
      rcases he.held?_eq_some hV with hwrite | hx
      · exact absurd hwrite (hw e (by simp) _)
      · rw [hU] at hx
        cases hx

/-- What is under a key has been written in the run, or was there at the start, and the key has not
been removed since. -/
theorem Steps.last_write {x : Entry} (h : Steps s T log T₁) (hx : T₁.held? key = some x) :
    (∃ log₁ e log₂, log = log₁ ++ e :: log₂ ∧ e.Writes key x.value ∧
        ∀ e' ∈ log₂, ¬ e'.Removes key) ∨
      T.held? key = some x ∧ ∀ e ∈ log, ¬ e.Removes key := by
  induction h with
  | refl => exact .inr ⟨hx, by simp⟩
  | @snoc log U e V h he ih =>
    rcases he.held?_eq_some hx with hwrite | hU
    · exact .inl ⟨log, e, [], rfl, hwrite, by simp⟩
    · have hkept : ¬ e.Removes key := by
        intro hremoves
        rw [he.held?_of_removes hremoves] at hx
        cases hx
      rcases ih hU with ⟨log₁, e', log₂, rfl, hwrite, hlast⟩ | ⟨hT, hlast⟩
      · refine .inl ⟨log₁, e', log₂ ++ [e], by simp, hwrite, fun e'' he'' => ?_⟩
        rcases List.mem_append.mp he'' with he'' | he''
        · exact hlast e'' he''
        · rwa [List.mem_singleton.mp he'']
      · refine .inr ⟨hT, fun e' he' => ?_⟩
        rcases List.mem_append.mp he' with he' | he'
        · exact hlast e' he'
        · rwa [List.mem_singleton.mp he']

theorem Steps.held?_eq_some {x : Entry} (h : Steps s T log T₁) (hx : T₁.held? key = some x) :
    (∃ e ∈ log, e.Writes key x.value) ∨ T.held? key = some x := by
  rcases h.last_write hx with ⟨log₁, e, log₂, rfl, hwrite, -⟩ | ⟨hT, -⟩
  · exact .inl ⟨e, by simp, hwrite⟩
  · exact .inr hT

/-- What is under a key that was absent has been written in the run, and it dies when its lifetime,
counted from the write, is over. -/
theorem Steps.write_of_held {x : Entry} (h : Steps s T log T₁) (hT : T.held? key = none)
    (hx : T₁.held? key = some x) :
    ∃ log₁ i lifetime limit log₂ U,
      log = log₁ ++ .called i (.remote (.store (.set key x.value lifetime)) limit)
        (some (.ok ())) :: log₂ ∧
      Steps s T log₁ U ∧ Steps s U (.called i (.remote (.store (.set key x.value lifetime)) limit)
        (some (.ok ())) :: log₂) T₁ ∧
      x.expiry = State.expiryAt U.world.clock lifetime := by
  induction h with
  | refl =>
    rw [hT] at hx
    cases hx
  | @snoc log U e V h he ih =>
    rcases he.held?_eq_some hx with ⟨i, lifetime, limit, rfl⟩ | hU
    · rw [he.set_ok] at hx
      refine ⟨log, i, lifetime, limit, [], U, rfl, h, .cons he .refl, ?_⟩
      rw [← Option.some.inj hx]
    · obtain ⟨log₁, i, lifetime, limit, log₂, W, rfl, h₁, h₂, hexpiry⟩ := ih hU
      exact ⟨log₁, i, lifetime, limit, log₂ ++ [e], W, by simp, h₁, h₂.snoc he, hexpiry⟩

/-- After its removal a key is absent for as long as nothing is written under it. -/
theorem Steps.held?_of_removes (h : Steps s T (log₁ ++ e :: log₂) T₂) (he : e.Removes key)
    (hw : ∀ e' ∈ log₂, ∀ value, ¬ e'.Writes key value) : T₂.held? key = none := by
  obtain ⟨U, V, -, hstep, h₂⟩ := h.at
  exact h₂.held?_eq_none (hstep.held?_of_removes he) hw

/-- A sound store is made unsound only from outside. -/
theorem Step.isSound (h : Step s T e T₁) (hT : T.world.store.IsSound) (he : e ≠ .altered) :
    T₁.world.store.IsSound := by
  cases h with
  | answer hi ha =>
    cases ha with
    | remote c limit =>
      cases c with
      | store c => exact hT.answer _ c
      | users c => exact hT
    | _ => exact hT
  | alter => exact absurd rfl he
  | _ => exact hT

theorem Steps.isSound (h : Steps s T log T₁) (hT : T.world.store.IsSound)
    (hlog : .altered ∉ log) : T₁.world.store.IsSound := by
  induction h with
  | refl => exact hT
  | @snoc log U e V h he ih =>
    exact he.isSound (ih fun hmem => hlog (by simp [hmem])) fun heq => hlog (by simp [heq])

end Traffic

end SessionLedger
