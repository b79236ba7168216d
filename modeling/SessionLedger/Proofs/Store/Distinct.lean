import Mathlib.Data.List.Dedup
import SessionLedger.Proofs.Store.Answer

/-! The keys of a store are distinct, whatever it is asked. So an order of its live keys does not
depend on the order of its entries, and a removal counts each of its live keys once. -/
namespace SessionLedger.Store

namespace Table
variable {β : Type} {t : Table β} {key : String} {b : β}

/-- No two entries have one key. -/
def IsDistinct (t : Table β) : Prop :=
  (t.map (·.1)).Nodup

theorem IsDistinct.erase (h : t.IsDistinct) (key : String) : (t.erase key).IsDistinct :=
  h.sublist (List.filter_sublist.map _)

theorem IsDistinct.insert (h : t.IsDistinct) (key : String) (b : β) :
    (t.insert key b).IsDistinct := by
  refine List.nodup_cons.mpr ⟨?_, h.erase key⟩
  simp [Table.erase]

/-- What is found under a key is the entry with this key. -/
theorem IsDistinct.find?_eq_some_iff (h : t.IsDistinct) :
    t.find? key = some b ↔ (key, b) ∈ t := by
  induction t with
  | nil => simp
  | cons p t ih =>
    obtain ⟨first, a⟩ := p
    obtain ⟨hfirst, hrest⟩ := List.nodup_cons.mp h
    rw [find?_cons, List.mem_cons, Prod.mk.injEq]
    by_cases hkey : key = first
    · subst hkey
      have hnot : (key, b) ∉ t := fun hmem => hfirst (List.mem_map.mpr ⟨_, hmem, rfl⟩)
      simp [hnot, eq_comm]
    · simp [hkey, ih hrest]

end Table

namespace State
variable {m : State} {now : Nat}

theorem isDistinct_deleteAll {t : Table Entry} (h : t.IsDistinct) (keys : List String) :
    (deleteAll now keys t).1.IsDistinct := by
  induction keys generalizing t with
  | nil => exact h
  | cons key keys ih => exact ih (h.erase key)

/-- No answer puts a second entry under a key. -/
theorem isDistinct_answer (h : m.entries.IsDistinct) (c : Call) :
    (m.answer now c).1.entries.IsDistinct := by
  cases hr : (m.answer now c).2 with
  | error r => rwa [answer_error hr]
  | ok a =>
    cases c with
    | set key value lifetime =>
      rw [answer_set hr]
      exact h.insert _ _
    | delete keys =>
      rw [(answer_delete hr).1]
      exact isDistinct_deleteAll h keys
    | get key =>
      simp only [answer]
      repeat' split
      all_goals first | exact h | exact h.erase key
    | ping => exact h

/-- What a removal counts: the live keys among those it names, each once. -/
theorem deleteAll_count (keys : List String) (t : Table Entry) :
    (deleteAll now keys t).2 =
      (keys.filter fun key => (t.find? key).any (·.isLive now)).dedup.length := by
  induction keys generalizing t with
  | nil => rfl
  | cons k keys ih =>
    -- Those that are left when `k` has been removed are the live ones other than `k`.
    have hrest : (keys.filter fun key => ((t.erase k).find? key).any (·.isLive now)) =
        keys.filter fun key => key != k && (t.find? key).any (·.isLive now) := by
      refine List.filter_congr fun key _ => ?_
      rw [Table.find?_erase]
      by_cases hkey : key = k <;> simp [hkey]
    simp only [deleteAll, ih, hrest, List.filter_cons]
    by_cases hlive : (t.find? k).any (·.isLive now) = true
    · rw [if_pos hlive, if_pos hlive, ← List.length_cons (a := k)]
      refine List.Perm.length_eq ((List.perm_ext_iff_of_nodup ?_ (List.nodup_dedup _)).mpr ?_)
      · exact List.nodup_cons.mpr ⟨by simp, List.nodup_dedup _⟩
      · intro key
        by_cases hkey : key = k <;> simp [hkey]
    · rw [if_neg hlive, if_neg hlive]
      refine congrArg (List.length ∘ List.dedup) (List.filter_congr fun key _ => ?_)
      by_cases hkey : key = k
      · subst hkey
        simpa using hlive
      · simp [hkey]

theorem count_of_answer_delete {keys : List String} {n : Nat}
    (h : (m.answer now (.delete keys)).2 = .ok n) :
    n = (keys.filter (m.contains now)).dedup.length := by
  rw [(answer_delete h).2, deleteAll_count]
  refine congrArg (List.length ∘ List.dedup) (List.filter_congr fun key _ => ?_)
  rw [contains, live?]
  cases m.entries.find? key with
  | none => rfl
  | some e => cases hlive : e.isLive now <;> simp [Option.filter, hlive]

end State

end SessionLedger.Store
