import VersionCatalog.Proofs.Settings.Outcome

/-!
# What the settings depend on

A format that the command line gives decides nothing but how the outcome is shown: whether the
settings can be found, and all that they say besides, is the same for every format. Where settings
cannot be found for a reason that is told to the reader, the settings file is malformed or a value
is not among the choices.
-/

namespace VersionCatalog.Settings

open Text

variable {system : FileSystem} {environment : Environment} {start : Option Path} {given : Given}

/-- The same with a format that is given too. -/
def Given.withFormat (given : Given) (format : OutputFormat) : Given :=
  { given with format := .text format.name }

/-- The same settings with another format. -/
def withFormat (format : OutputFormat) (settings : Settings) : Settings :=
  { settings with format }

section

variable [CallStack]

theorem readChoice_format (key : String) (format : OutputFormat) :
    readChoice OutputFormat.ofName? OutputFormat.names key (.text format.name) = .ok format := by
  cases format <;> rfl

/-- The given format makes no difference to anything else. -/
theorem combine_withFormat (given : Given) (environment : Environment)
    (file : List (Datum × Datum)) (source : Option String) (format other : OutputFormat) :
    combine (given.withFormat other) environment file source =
      (combine (given.withFormat format) environment file source).map (withFormat other) := by
  have shown (format : OutputFormat) :
      value "format" (given.withFormat format).format environment file = .text format.name := rfl
  have scope : (given.withFormat other).scope = (given.withFormat format).scope := rfl
  have strict : (given.withFormat other).strict = (given.withFormat format).strict := rfl
  simp only [combine, shown, readChoice_format, scope, strict]
  cases readChoice KeyScope.ofName? KeyScope.names "key_scope"
      (value "key_scope" (given.withFormat format).scope environment file) with
  | error breakdown => rfl
  | ok scope =>
      cases readBool "strict"
          (value "strict" (given.withFormat format).strict environment file) with
      | error breakdown => rfl
      | ok strict => rfl

variable [Yaml.Library]

/-- The settings are looked for in the same places for every format that is given. -/
theorem resolve_withFormat (system : FileSystem) (environment : Environment) (start : Option Path)
    (given : Given) (format other : OutputFormat) :
    resolve system environment start (given.withFormat other) =
      ((resolve system environment start (given.withFormat format)).1,
        (resolve system environment start (given.withFormat format)).2.map (withFormat other)) := by
  simp only [resolve]
  cases start.elim (.ok none) (find system) with
  | error fault => rfl
  | ok location =>
      cases location with
      | none => rw [combine_withFormat]
      | some location =>
          simp only
          cases load system (.ofLocation location) with
          | error breakdown => rfl
          | ok file =>
              simp only
              cases unknownKeys? file with
              | none => rfl
              | some unknown =>
                  exact congrArg _ (combine_withFormat given environment file _ format other)

end

/-! ## Failures that are told to the reader -/

theorem kind_of_combine [CallStack] {file : List (Datum × Datum)} {source : Option String}
    {failure : Failure}
    (failed : combine given environment file source = .error (.failure failure)) :
    failure.kind = .invalidSetting := by
  have outcome := @combine_outcome environment given file source _
  generalize combine given environment file source = result at failed outcome
  cases outcome with
  | found => cases failed
  | failed fails =>
      cases failed
      cases fails <;> rfl
  | @unwritten obstacle _ => cases obstacle <;> cases failed

section

variable [Yaml.Library]

theorem kind_of_load {path : Path} {failure : Failure}
    (failed : load system path = .error (.failure failure)) :
    failure.kind = .unreadableSettings := by
  unfold load at failed
  split at failed
  · cases failed
  · cases failed
  · split at failed
    · cases failed
    · split at failed
      · cases failed
      · unfold readText at failed
        split at failed
        · cases failed
        · split at failed
          · cases failed
          · cases failed
          · cases failed
            rfl
          · cases failed
            rfl
          · cases failed

/-- A failure of the settings is a malformed file or a value that is not allowed. -/
theorem kind_of_resolve [CallStack] {failure : Failure}
    (failed : (resolve system environment start given).2 = .error (.failure failure)) :
    failure.kind = .unreadableSettings ∨ failure.kind = .invalidSetting := by
  simp only [resolve] at failed
  split at failed
  · cases failed
  · exact .inr (kind_of_combine failed)
  · split at failed
    · next breakdown unread =>
        cases failed
        exact .inl (kind_of_load unread)
    · split at failed
      · cases failed
      · exact .inr (kind_of_combine failed)

end

end VersionCatalog.Settings
