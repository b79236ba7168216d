import Mathlib.Data.List.Forall2
import SessionLedger.Proofs.Text.Pieces
import SessionLedger.Proofs.Text.Trim
import SessionLedger.User.Snapshot

/-! Which permissions a user has. Users who are no administrators have the permissions that a text
lists, and no others. However names are set out in a text, with blanks around them and blank parts
in between, they are read back as they are. -/
namespace SessionLedger.User
open Text

/-! ## Names in a text -/

/-- A name that a permission can have in a text. -/
structure IsName (name : String) : Prop where
  ne_empty : name ≠ ""
  comma : ',' ∉ name.toList
  trimmed : IsTrimmed name.toList

instance {name : String} : Decidable (IsName name) :=
  decidable_of_iff (name ≠ "" ∧ ',' ∉ name.toList ∧ IsTrimmed name.toList)
    ⟨fun h => ⟨h.1, h.2.1, h.2.2⟩, fun h => ⟨h.ne_empty, h.comma, h.trimmed⟩⟩

/-- The names in some parts: what the parts that are not blank hold between the blanks around it,
one after another. -/
def NamesIn (parts : List (List Char)) (names : List String) : Prop :=
  List.Forall₂ (fun part name => IsStripped part name.toList)
    (parts.filter fun part => !part.all isBlank) names

/-- The names that a text lists are those in its parts between commas. Where there is no text,
there are none. -/
inductive Lists : Option String → List String → Prop
  | absent : Lists none []
  | split {text : String} {parts : List (List Char)} {names : List String}
      (hsplit : IsSplit ',' text.toList parts) (hnames : NamesIn parts names) :
      Lists (some text) names

/-- Segments in which names are set out: each name has one to itself, with blanks around it, and
there may be blank ones before, between and after them. -/
inductive SetsOut : List String → List String → Prop
  | nil : SetsOut [] []
  | blank {segment : String} {segments names : List String} (hblank : isAllBlank segment = true)
      (hrest : SetsOut segments names) : SetsOut (segment :: segments) names
  | name {before name after : String} {segments names : List String}
      (hbefore : isAllBlank before = true) (hafter : isAllBlank after = true)
      (hrest : SetsOut segments names) :
      SetsOut ((before ++ name ++ after) :: segments) (name :: names)

section
variable {text name segment : String} {names segments : List String} {part : List Char}
  {parts : List (List Char)}

theorem NamesIn.skip (hblank : part.all isBlank = true) (h : NamesIn parts names) :
    NamesIn (part :: parts) names := by
  rw [NamesIn, List.filter_cons_of_neg (by simp [hblank])]
  exact h

theorem NamesIn.cons (hname : name ≠ "") (hpart : IsStripped part name.toList)
    (h : NamesIn parts names) : NamesIn (part :: parts) (name :: names) := by
  have hkept : part.all isBlank = false := by
    rw [Bool.eq_false_iff, ne_eq, hpart.all_isBlank_iff, String.toList_eq_nil_iff]
    exact hname
  rw [NamesIn, List.filter_cons_of_pos (by simp [hkept])]
  exact .cons hpart h

/-! ## Reading -/

/-- Trimming all parts and dropping the empty ones leaves the names in them. -/
theorem namesIn_iff :
    NamesIn parts names ↔
      ((parts.map trim).filter (!·.isEmpty)).map String.ofList = names := by
  have hkept : ∀ part ∈ parts, (!part.all isBlank) = !(trim part).isEmpty := by
    intro part _
    rw [Bool.not_inj_iff, Bool.eq_iff_iff, List.isEmpty_iff]
    exact trim_eq_nil_iff.symm
  have hstripped : ∀ part (name : String),
      IsStripped part name.toList ↔ String.ofList (trim part) = name := by
    intro part name
    rw [← trim_eq_iff, ← String.toList_inj, String.toList_ofList]
  calc NamesIn parts names
      ↔ List.Forall₂ (fun part name => String.ofList (trim part) = name)
          (parts.filter fun part => !(trim part).isEmpty) names := by
        rw [NamesIn, List.filter_congr hkept]
        simp only [hstripped]
    _ ↔ (parts.filter fun part => !(trim part).isEmpty).map (String.ofList ∘ trim) = names := by
        rw [← List.forall₂_eq_eq_eq, List.forall₂_map_left_iff]
        rfl
    _ ↔ ((parts.map trim).filter (!·.isEmpty)).map String.ofList = names := by
        rw [List.filter_map, List.map_map]
        rfl

/-- The permissions that a text names are those that it lists. -/
theorem permissionsOf_eq_iff : permissionsOf text = names ↔ Lists (some text) names := by
  rw [permissionsOf, ← namesIn_iff]
  constructor
  · exact .split (isSplit_iff.mpr rfl)
  · rintro (_ | ⟨hsplit, hnames⟩)
    rwa [isSplit_iff.mp hsplit]

theorem isName_of_mem_permissionsOf (h : name ∈ permissionsOf text) : IsName name := by
  simp only [permissionsOf, List.mem_map, List.mem_filter, Bool.not_eq_true',
    List.isEmpty_eq_false_iff] at h
  obtain ⟨_, ⟨⟨part, hpart, rfl⟩, hne⟩, rfl⟩ := h
  have hsplit : IsSplit ',' text.toList (pieces (· == ',') text.toList) := isSplit_iff.mpr rfl
  refine ⟨?_, ?_, ?_⟩
  · rwa [ne_eq, String.ofList_eq_empty_iff]
  · rw [String.toList_ofList]
    intro hcomma
    exact hsplit.not_mem part hpart ((isStripped_trim part).subset hcomma)
  · rw [String.toList_ofList]
    exact isTrimmed_trim part

/-! ## Setting out -/

theorem not_mem_of_isAllBlank (h : isAllBlank segment = true) : ',' ∉ segment.toList := by
  intro hmem
  have hblank : isBlank ',' = true := List.all_eq_true.mp h _ hmem
  cases hblank

/-- The commas between segments are the only ones. -/
theorem SetsOut.not_mem (h : SetsOut segments names) (hnames : ∀ name ∈ names, IsName name) :
    ∀ segment ∈ segments, ',' ∉ segment.toList := by
  induction h with
  | nil => nofun
  | blank hblank _ ih =>
    intro segment hmem
    rcases List.mem_cons.mp hmem with rfl | hmem
    · exact not_mem_of_isAllBlank hblank
    · exact ih hnames segment hmem
  | name hbefore hafter _ ih =>
    intro segment hmem
    rcases List.mem_cons.mp hmem with rfl | hmem
    · have hname := (hnames _ (.head _)).comma
      simp [not_mem_of_isAllBlank hbefore, not_mem_of_isAllBlank hafter, hname]
    · exact ih (fun name hname => hnames name (.tail _ hname)) segment hmem

theorem SetsOut.namesIn (h : SetsOut segments names) (hnames : ∀ name ∈ names, IsName name) :
    NamesIn (segments.map String.toList) names := by
  induction h with
  | nil => exact .nil
  | blank hblank _ ih => exact (ih hnames).skip hblank
  | @name before name after _ _ hbefore hafter _ ih =>
    have hname := hnames name (.head _)
    have hstripped : IsStripped (before ++ name ++ after).toList name.toList :=
      ⟨⟨before.toList, after.toList, hbefore, hafter, by simp⟩, hname.trimmed⟩
    have hrest := ih fun name hname => hnames name (.tail _ hname)
    exact hrest.cons hname.ne_empty hstripped

/-- However names are set out in a text, they are read back from it. -/
theorem permissionsOf_intercalate (h : SetsOut segments names)
    (hnames : ∀ name ∈ names, IsName name) :
    permissionsOf (",".intercalate segments) = names := by
  cases segments with
  | nil =>
    -- The empty text is split into one part all the same.
    cases h
    decide
  | cons segment segments =>
    rw [permissionsOf_eq_iff]
    refine .split ⟨by simp, ?_, ?_⟩ (h.namesIn hnames)
    · rw [String.toList_intercalate]
      rfl
    · intro part hpart
      obtain ⟨s, hmem, rfl⟩ := List.mem_map.mp hpart
      exact h.not_mem hnames s hmem

/-- Names are set out by themselves, too. -/
theorem SetsOut.refl (names : List String) : SetsOut names names := by
  induction names with
  | nil => exact .nil
  | cons name names ih =>
    have hcons : SetsOut (("" ++ name ++ "") :: names) (name :: names) := .name rfl rfl ih
    rwa [String.empty_append, String.append_empty] at hcons

end

/-! ## Permissions of a user -/

namespace Snapshot
variable {p : Projection} {name : String} {names : List String}

theorem permissions_eq_iff : (ofProjection p).permissions = names ↔ Lists p.permissions names := by
  show permissionsOf (p.permissions.getD "") = names ↔ Lists p.permissions names
  cases p.permissions with
  | some text => exact permissionsOf_eq_iff
  | none =>
    have hnone : permissionsOf "" = [] := by decide
    rw [Option.getD_none, hnone]
    constructor
    · rintro rfl
      exact .absent
    · rintro ⟨⟩
      rfl

theorem isName_of_mem (h : name ∈ (ofProjection p).permissions) : IsName name :=
  isName_of_mem_permissionsOf h

theorem permits_iff_mem (hrole : p.isAdmin = false) :
    (ofProjection p).permits name = true ↔ name ∈ (ofProjection p).permissions := by
  have hadmin : (ofProjection p).isAdmin = false := hrole
  rw [permits, hadmin, Bool.false_or, List.contains_iff_mem]

theorem ofProjection_rejoined (p : Projection) :
    ofProjection { p with permissions := some (",".intercalate (ofProjection p).permissions) } =
      ofProjection p := by
  have hnames : permissionsOf (",".intercalate (ofProjection p).permissions) =
      (ofProjection p).permissions :=
    permissionsOf_intercalate (.refl _) fun _ => isName_of_mem
  rw [ofProjection, Option.getD_some, hnames]
  rfl

end Snapshot

/-- A user has exactly the permissions that the text of a projection lists. -/
structure PermitsAsListed (p : Projection) : Prop where
  /-- The snapshot has the names that the text lists, in their order and as often as they occur. -/
  listed : ∀ names, (Snapshot.ofProjection p).permissions = names ↔ Lists p.permissions names
  named : ∀ name ∈ (Snapshot.ofProjection p).permissions, IsName name
  /-- A permission is held just if it is one of these names. -/
  permits : ∀ name, (Snapshot.ofProjection p).permits name = true ↔
    ∃ names, Lists p.permissions names ∧ name ∈ names
  /-- So what is empty, has a comma or has blanks at its ends is never held. -/
  refuses : ∀ name, ¬ IsName name → (Snapshot.ofProjection p).permits name = false
  /-- From any text in which names are set out the snapshot has just these names again. -/
  returns : ∀ names segments, (∀ name ∈ names, IsName name) → SetsOut segments names →
    (Snapshot.ofProjection
      { p with permissions := some (",".intercalate segments) }).permissions = names
  /-- The names of a snapshot with commas between them lead to the same snapshot. -/
  rejoined : Snapshot.ofProjection
      { p with permissions := some (",".intercalate (Snapshot.ofProjection p).permissions) } =
    Snapshot.ofProjection p

/-- Whatever the text, a user who is no administrator has the permissions that it lists. -/
theorem permitsAsListed_of_role {p : Projection} (hrole : p.isAdmin = false) :
    PermitsAsListed p where
  listed names := Snapshot.permissions_eq_iff
  named name := Snapshot.isName_of_mem
  permits name := by
    rw [Snapshot.permits_iff_mem hrole]
    constructor
    · intro hmem
      exact ⟨_, Snapshot.permissions_eq_iff.mp rfl, hmem⟩
    · rintro ⟨names, hlists, hmem⟩
      rwa [Snapshot.permissions_eq_iff.mpr hlists]
  refuses name hname := by
    rw [Bool.eq_false_iff, ne_eq, Snapshot.permits_iff_mem hrole]
    intro hmem
    exact hname (Snapshot.isName_of_mem hmem)
  returns names segments hnames hsets := permissionsOf_intercalate hsets hnames
  rejoined := Snapshot.ofProjection_rejoined p

/-- A user with a permission that is listed twice, between blanks of several kinds and parts
without a name. -/
def clerk : Projection where
  id := 1
  firstName := "Ada"
  lastName := "Lovelace"
  email := "a@b.com"
  phone := none
  profilePicture := none
  companyId := some 3
  companyName := some "Acme"
  businessId := none
  businessName := none
  permissions := some ",fetch.user.all,\u2003update.user\u00a0,, \t,fetch.user.all"
  isAdmin := false
  isFirstLogin := false
  lastLogin := none

theorem permitsAsListed_of_clerk : clerk.isAdmin = false ∧ PermitsAsListed clerk ∧
    (Snapshot.ofProjection clerk).permissions =
      ["fetch.user.all", "update.user", "fetch.user.all"] ∧
    (Snapshot.ofProjection clerk).permits "update.user" = true ∧
    (Snapshot.ofProjection clerk).permits "update.user\u00a0" = false := by
  have hclerk : PermitsAsListed clerk := permitsAsListed_of_role rfl
  exact ⟨rfl, hclerk, by decide, by decide, hclerk.refuses _ (by decide)⟩

end SessionLedger.User
