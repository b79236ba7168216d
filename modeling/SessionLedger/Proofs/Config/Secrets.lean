import SessionLedger.Config.Dotenv
import SessionLedger.Proofs.Config.Accepted

/-! Where the secrets of a server in production come from. There is no standard value for them, so
each is given by the environment or by a line of a file. But nothing keeps these from spelling out
the secrets of development. -/
namespace SessionLedger.Config
open Session Token

/-! ## Files of assignments -/

namespace Dotenv
variable {vars : Variables} {name value : String}

/-- The lines of a text; a byte order mark in front of it does not count. -/
def linesOf (text : String) : List (List Char) :=
  lines .plain [] (rows (match text.toList with
    | '\ufeff' :: rest => rest
    | cs => cs))

theorem load_eq (vars : Variables) (text : String) :
    load vars text = loadLines vars (linesOf text) := rfl

/-- A line of the text assigns the value, given some variables that have a value before it. -/
def Assigns (text name value : String) : Prop :=
  ∃ vars, ∃ line ∈ linesOf text, Line.read vars line = .assignment name value

theorem find?_loadLines_of_some (lines : List (List Char)) (h : vars.find? name = some value) :
    (loadLines vars lines).find? name = some value := by
  fun_induction loadLines vars lines with
  | case1 => exact h
  | case2 vars line rest _ ih => exact ih h
  | case3 vars line rest other text _ ih =>
    refine ih ?_
    rw [Variables.find?_insertNew, h, Option.some_or]
  | case4 => exact h

/-- A value that a variable has after some lines is the one before them, or one of the lines
assigns it. -/
theorem of_find?_loadLines {lines : List (List Char)}
    (h : (loadLines vars lines).find? name = some value) :
    vars.find? name = some value ∨
      ∃ vars, ∃ line ∈ lines, Line.read vars line = .assignment name value := by
  fun_induction loadLines vars lines with
  | case1 => exact .inl h
  | case2 vars line rest _ ih =>
    exact (ih h).imp_right fun ⟨vars, line, hline, hread⟩ =>
      ⟨vars, line, .tail _ hline, hread⟩
  | case3 vars line rest other text hread ih =>
    rcases ih h with hfind | ⟨vars, line, hline, hread⟩
    · rw [Variables.find?_insertNew, Option.or_eq_some_iff] at hfind
      rcases hfind with hfind | ⟨-, hnew⟩
      · exact .inl hfind
      · obtain ⟨rfl, rfl⟩ : name = other ∧ text = value := by simpa using hnew
        exact .inr ⟨vars, line, .head _, hread⟩
    · exact .inr ⟨vars, line, .tail _ hline, hread⟩
  | case4 => exact .inl h

end Dotenv

/-- The variables that a server starts with: those of its environment, and those that a file
assigns if there is one. -/
def Variables.withFile (env : Variables) : Option String → Variables
  | none => env
  | some text => Dotenv.load env text

section
variable {env : Variables} {file : Option String} {name value : String}

/-- A variable of the environment keeps its value. -/
theorem Variables.find?_withFile_of_some (h : env.find? name = some value) :
    (env.withFile file).find? name = some value := by
  cases file with
  | none => exact h
  | some text =>
    rw [withFile, Dotenv.load_eq]
    exact Dotenv.find?_loadLines_of_some _ h

theorem Variables.of_find?_withFile (h : (env.withFile file).find? name = some value) :
    env.find? name = some value ∨ ∃ text, file = some text ∧ Dotenv.Assigns text name value := by
  cases file with
  | none => exact .inl h
  | some text =>
    rw [withFile, Dotenv.load_eq] at h
    exact (Dotenv.of_find?_loadLines h).imp_right fun hassigns => ⟨text, rfl, hassigns⟩

end

/-! ## Secrets -/

/-- The variable of a kind's secret. -/
def secretName : Kind → String
  | .access => "JWT_ACCESS_SECRET"
  | .refresh => "JWT_REFRESH_SECRET"

/-- The secrets that a server may start with although no variable gives any. -/
def builtInSecrets : List String :=
  [developmentAccessSecret, developmentRefreshSecret]

namespace Settings
variable {vars env : Variables} {file : Option String} {c : Settings}

/-- The secret of a kind of token. -/
def secretOf (c : Settings) (kind : Kind) : String :=
  c.issuer.signer.secret kind

/-- In production a secret is the text of its variable. -/
theorem secret_production_eq_ok_iff {name standard value : String} :
    secret vars .production name standard = .ok value ↔
      vars.find? name = some value ∧ value ≠ "" := by
  rw [secret]
  split
  next text h =>
    obtain ⟨hfind, hempty⟩ : vars.find? name = some text ∧ text ≠ "" := by
      simpa [Option.filter_eq_some_iff] using h
    rw [hfind, Except.ok.injEq, Option.some.injEq]
    exact ⟨fun heq => ⟨heq, heq ▸ hempty⟩, And.left⟩
  next h =>
    rw [if_pos rfl]
    refine ⟨nofun, fun ⟨hfind, hempty⟩ => ?_⟩
    rw [hfind] at h
    simp [hempty] at h

/-- In production the secrets of settings that are accepted are the texts of their variables. -/
theorem find?_secretName (h : ofVariables vars = .ok c) (hproduction : c.deployment = .production)
    (kind : Kind) :
    vars.find? (secretName kind) = some (c.secretOf kind) ∧ c.secretOf kind ≠ "" := by
  obtain ⟨-, htokens, -⟩ := of_ofVariables h
  rw [hproduction] at htokens
  obtain ⟨haccess, hrefresh, -⟩ := of_readTokens htokens
  cases kind with
  | access => exact secret_production_eq_ok_iff.mp haccess
  | refresh => exact secret_production_eq_ok_iff.mp hrefresh

/-- What is known of the secrets of a server that starts in production with an environment and
possibly a file. -/
structure GivenSecrets (env : Variables) (file : Option String) (c : Settings) : Prop where
  not_empty : ∀ kind, c.secretOf kind ≠ ""
  differ : c.secretOf .access ≠ c.secretOf .refresh
  /-- A secret is given by the environment or by a line of the file. -/
  given : ∀ kind, env.find? (secretName kind) = some (c.secretOf kind) ∨
    env.find? (secretName kind) = none ∧
      ∃ text, file = some text ∧ Dotenv.Assigns text (secretName kind) (c.secretOf kind)
  /-- It is a built-in one just if its variable spells that out. -/
  builtIn : ∀ kind, c.secretOf kind ∈ builtInSecrets ↔
    ∃ text ∈ builtInSecrets, (env.withFile file).find? (secretName kind) = some text

/-- Whatever the environment and the file, a server that starts in production has secrets that these
have given to it; so it has no built-in one unless they spell one out. -/
theorem givenSecrets_of_production (h : ofVariables (env.withFile file) = .ok c)
    (hproduction : c.deployment = .production) : GivenSecrets env file c := by
  have hfind := fun kind => (find?_secretName h hproduction kind).1
  refine ⟨fun kind => (find?_secretName h hproduction kind).2,
    (isChecked_of_ofVariables h).secrets, fun kind => ?_, fun kind => ?_⟩
  · match henv : env.find? (secretName kind) with
    | some value =>
      rw [← hfind, Variables.find?_withFile_of_some henv]
      exact .inl rfl
    | none =>
      rcases Variables.of_find?_withFile (hfind kind) with hsome | hfile
      · rw [henv] at hsome
        cases hsome
      · exact .inr ⟨rfl, hfile⟩
  · rw [hfind]
    constructor
    · exact fun hmem => ⟨c.secretOf kind, hmem, rfl⟩
    · rintro ⟨text, hmem, heq⟩
      cases heq
      exact hmem

/-- The settings of a server in production with the usual ones but for the secrets. -/
def productionSettings (access refresh : String) : Settings :=
  { sampleSettings 900 "user:" with
    deployment := .production
    tokens := ⟨access, refresh, 900, 7⟩ }

/-- The variables for these settings but for the refresh secret. -/
def productionVariables (access : String) : Variables :=
  [("ENVIRONMENT", "Prod"), ("DATABASE_URL", "postgres://localhost/sessions"),
    ("JWT_ACCESS_SECRET", access)]

/-- With one secret in the environment and the other one in a file a server starts. -/
theorem givenSecrets_of_file :
    ofVariables ((productionVariables "one").withFile
        (some "JWT_ACCESS_SECRET=other\nexport JWT_REFRESH_SECRET=two\n")) =
      .ok (productionSettings "one" "two") ∧
    GivenSecrets (productionVariables "one")
      (some "JWT_ACCESS_SECRET=other\nexport JWT_REFRESH_SECRET=two\n")
      (productionSettings "one" "two") := by
  have haccepted : ofVariables ((productionVariables "one").withFile
      (some "JWT_ACCESS_SECRET=other\nexport JWT_REFRESH_SECRET=two\n")) =
    .ok (productionSettings "one" "two") := eq_ok_of_toOption (by decide +kernel)
  exact ⟨haccepted, givenSecrets_of_production haccepted rfl⟩

/-- A server starts in production, too, if its variables spell out the built-in secrets, those of
its environment or those of its file. -/
theorem accepted_with_builtIn_secrets :
    ofVariables (("JWT_REFRESH_SECRET", developmentRefreshSecret) ::
        productionVariables developmentAccessSecret) =
      .ok (productionSettings developmentAccessSecret developmentRefreshSecret) ∧
    ofVariables ((productionVariables "one").withFile
        (some ("JWT_REFRESH_SECRET=" ++ developmentAccessSecret ++ "\n"))) =
      .ok (productionSettings "one" developmentAccessSecret) :=
  ⟨eq_ok_of_toOption (by decide +kernel), eq_ok_of_toOption (by decide +kernel)⟩

end Settings

end SessionLedger.Config
