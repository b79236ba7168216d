import SessionLedger.Store.Table
/-! The variables that a program is started with: texts under names. -/
namespace SessionLedger.Config

/-- Texts under names. -/
abbrev Variables := Store.Table String

/-- Gives a value to a name that has none. -/
def Variables.insertNew (vars : Variables) (name value : String) : Variables :=
  if (vars.find? name).isSome then vars else vars.insert name value

theorem Variables.find?_insertNew (vars : Variables) (name value other : String) :
    (vars.insertNew name value).find? other =
      (vars.find? other).or (if other = name then some value else none) := by
  unfold Variables.insertNew
  split
  · next h =>
    obtain ⟨old, hold⟩ := Option.isSome_iff_exists.mp h
    by_cases hname : other = name
    · simp [hname, hold]
    · simp [hname]
  · next h =>
    rw [Store.Table.find?_insert]
    by_cases hname : other = name
    · simp_all
    · simp [hname]

end SessionLedger.Config
