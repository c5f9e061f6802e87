import VersionCatalog.CommandLine.Run
import VersionCatalog.Proofs.Check.File
import VersionCatalog.Proofs.CommandLine.Words
import VersionCatalog.Proofs.Json.Writer
import VersionCatalog.Proofs.Settings.Resolution

/-!
# A check in both formats

Whether a check succeeds is decided twice, once for the envelope and once for the exit status and
the last line. Both decisions come to the same, and a check that is asked for in one format ends as
it does in the other: the format is looked at when everything else is settled. A catalog that may
not be read is refused in both formats before the check begins, and there is no envelope then.
-/

namespace VersionCatalog

open Console

/-! ## What a device gets -/

namespace Console

theorem plainFrom_of_notMem {text : List Char} (uncontrolled : '\x1b' ∉ text) :
    plainFrom 0 text = text := by
  induction text with
  | nil => rfl
  | cons char text induction =>
      rw [List.mem_cons, not_or] at uncontrolled
      rw [plainFrom, if_neg (Ne.symm uncontrolled.1), induction uncontrolled.2]

/-- A text without escape characters is the same on every device. -/
theorem shownOn_of_notMem {text : String} (uncontrolled : '\x1b' ∉ text.toList) (terminal : Bool) :
    shownOn terminal text = text := by
  cases terminal with
  | true => rfl
  | false =>
      rw [shownOn, if_neg Bool.false_ne_true, plain, plainFrom_of_notMem uncontrolled,
        String.ofList_toList]

end Console

theorem Envelope.notMem_render (envelope : Envelope) (layout : Json.Layout) :
    '\x1b' ∉ (envelope.render layout).toList := by
  intro member
  rw [render, Json.render, String.toList_ofList] at member
  rcases Json.forall_renderAt_isShown layout 0 envelope.toJson _ member with visible | ⟨_, same⟩
  · exact absurd visible (by decide)
  · exact absurd same (by decide)

theorem Envelope.get?_success (envelope : Envelope) :
    envelope.toJson.get? "success" = some (.bool envelope.success) := by
  cases problems : envelope.problems with
  | none => simp [toJson, problems, Json.get?]
  | some found => simp [toJson, problems, Json.get?]

theorem Envelope.get?_errors (envelope : Envelope) :
    envelope.toJson.get? "errors" =
      envelope.problems.map fun problems => .array (problems.map Problem.toJson) := by
  cases problems : envelope.problems with
  | none => simp [toJson, problems, Json.get?, List.lookup_cons]
  | some found => simp [toJson, problems, Json.get?, List.lookup_cons]

namespace CommandLine

/-! ## Passing and failing -/

/-- A check passes when no message makes it fail. -/
theorem passes_eq_true_iff {report : Report} {strict : Bool} :
    passes report strict = true ↔ Envelope.failingMessages report strict = [] := by
  rw [passes, Envelope.failingMessages, Report.isValid]
  cases strict with
  | false => simp
  | true => simp

/-- A positive number of errors or of warnings in words. -/
def IsCount (part : String) : Prop :=
  ∃ count name, 0 < count ∧ name ∈ ["error", "warning"] ∧
    part = s!"{count} {name}" ++ if count = 1 then "" else "s"

theorem isCount_of_mem_countedPart {count : Nat} {name part : String}
    (known : name ∈ ["error", "warning"]) (member : part ∈ countedPart count name) :
    IsCount part := by
  unfold countedPart at member
  split at member
  · cases member
  · rw [List.mem_singleton] at member
    refine ⟨1, name, by decide, known, ?_⟩
    rw [member, ← String.toList_inj]
    simp [toString, show Nat.toDigits 10 1 = ['1'] from rfl]
  · next some many =>
      rw [List.mem_singleton] at member
      refine ⟨count, name, Nat.pos_of_ne_zero some, known, ?_⟩
      rw [if_neg many, member]
      simp [toString]

theorem isCount_of_mem_countParts {report : Report} {part : String}
    (member : part ∈ countParts report) : IsCount part := by
  rcases List.mem_append.1 member with errors | warnings
  · exact isCount_of_mem_countedPart (by decide) errors
  · exact isCount_of_mem_countedPart (by decide) warnings

theorem countedPart_eq_nil_iff {count : Nat} {name : String} :
    countedPart count name = [] ↔ count = 0 := by
  unfold countedPart
  split <;> simp_all

/-- A check that fails has something to count. -/
theorem countParts_ne_nil {report : Report} {strict : Bool}
    (failed : ¬passes report strict = true) : countParts report ≠ [] := by
  rw [passes_eq_true_iff, Envelope.failingMessages] at failed
  rw [countParts, ne_eq, List.append_eq_nil_iff, countedPart_eq_nil_iff, countedPart_eq_nil_iff,
    List.length_eq_zero_iff, List.length_eq_zero_iff]
  rintro ⟨errors, warnings⟩
  simp [errors, warnings] at failed

/-! ## What is printed -/

def Piece.isRecord : Piece → Bool
  | record _ => true
  | _ => false

/-- All that an outcome prints besides records is one envelope, which says how the command ended. -/
structure Outcome.Shows (outcome : Outcome) (envelope : Envelope) : Prop where
  complete : outcome.breakdown = none
  alone : outcome.printed.filter (fun piece => !piece.isRecord) = [.envelope envelope]
  /-- The envelope is written as it is on every device. -/
  output (terminal : Bool) :
    outcome.textOn .output terminal = envelope.render (.indented 2) ++ "\n"
  success : envelope.toJson.get? "success" = some (.bool (outcome.status = 0))
  errors : (envelope.toJson.get? "errors").isSome ↔ outcome.status = 1

/-- The last line of an outcome says how the command ended, and a failure is announced with what
there is to count. -/
structure Outcome.Tells (outcome : Outcome) (path : Path) : Prop where
  complete : outcome.breakdown = none
  success : (∃ counts, outcome.printed.getLast? =
    some (.line .success (path.text ++ " is valid" ++ counts))) ↔ outcome.status = 0
  /-- The line for a success begins with the path, which may be anything. -/
  announced (level : Level) (message : String) (told : level ≠ .success)
    (printed : .line level message ∈ outcome.printed) (announces : AnnouncesFailure message) :
    ∃ parts, message = "Validation failed: " ++ ", ".intercalate parts ∧ parts ≠ [] ∧
      ∀ part ∈ parts, IsCount part

theorem isRecord_of_mem_recordPieces {request : CheckRequest} {records : List Record}
    {piece : Piece} (member : piece ∈ recordPieces request records) : piece.isRecord = true := by
  obtain ⟨noted, _, rfl⟩ := List.mem_map.1 member
  rfl

theorem Piece.stream_of_isRecord {piece : Piece} (isRecord : piece.isRecord = true) :
    piece.stream = .errors := by
  cases piece with
  | record noted => rfl
  | _ => cases isRecord

theorem Outcome.shows_of_printed {outcome : Outcome} {envelope : Envelope} {records : List Piece}
    (printed : outcome.printed = records ++ [.envelope envelope])
    (noted : ∀ piece ∈ records, piece.isRecord = true) (complete : outcome.breakdown = none)
    (success : envelope.success = decide (outcome.status = 0))
    (problems : envelope.problems.isSome ↔ outcome.status = 1) : outcome.Shows envelope where
  complete := complete
  alone := by
    rw [printed, List.filter_append, List.filter_eq_nil_iff.2 (by simpa using noted)]
    rfl
  output terminal := by
    have silent : records.filter (fun piece => piece.stream == .output) = [] := by
      rw [List.filter_eq_nil_iff]
      intro piece member
      rw [Piece.stream_of_isRecord (noted piece member)]
      decide
    have uncontrolled : '\x1b' ∉ (envelope.render (.indented 2) ++ "\n").toList := by
      simpa using envelope.notMem_render (.indented 2)
    rw [textOn, printed, List.filter_append, silent]
    simpa [Piece.stream, Piece.text] using shownOn_of_notMem uncontrolled terminal
  success := by rw [envelope.get?_success, success]
  errors := by rw [envelope.get?_errors, Option.isSome_map, problems]

/-- Nothing goes to the output, and what is wrong with the words is told elsewhere. -/
structure Outcome.Refuses (outcome : Outcome) : Prop where
  complete : outcome.breakdown = none
  status : outcome.status = 2
  silent (terminal : Bool) : outcome.textOn .output terminal = ""

theorem Reply.refuses (part : Part) (fault : UsageFault) :
    (Reply.refusal part fault).outcome.Refuses :=
  ⟨rfl, rfl, fun _ => rfl⟩

/-- An outcome with an envelope is no refusal. -/
theorem Outcome.Refuses.not_shows {outcome : Outcome} (refuses : outcome.Refuses)
    (envelope : Envelope) : ¬outcome.Shows envelope := by
  intro shows
  have ended := congrArg String.toList ((shows.output false).symm.trans (refuses.silent false))
  simp at ended

/-! ## Reports and failures -/

theorem success_ofReport (command : String) (report : Report) (strict : Bool)
    (extra : List (String × Json)) :
    (Envelope.ofReport command report strict extra).success = passes report strict := by
  rw [Bool.eq_iff_iff, passes_eq_true_iff, Envelope.ofReport]
  cases Envelope.failingMessages report strict with
  | nil => simp
  | cons message messages => simp [Envelope.failed]

/-- What failed are the messages that make a check fail, and there are none only in a success. -/
theorem problems_ofReport (command : String) (report : Report) (strict : Bool)
    (extra : List (String × Json)) :
    (Envelope.ofReport command report strict extra).problems =
      if passes report strict then none
      else some ((Envelope.failingMessages report strict).map Problem.ofMessage) := by
  simp only [passes_eq_true_iff, Envelope.ofReport]
  cases Envelope.failingMessages report strict with
  | nil => rfl
  | cons message messages => simp [Envelope.failed]

/-- The entries of the list of what failed are the errors in order and, in strict mode, the warnings
after them. -/
theorem errors_checkEnvelope (path : Path) (report : Report) (settings : Settings) :
    ((checkEnvelope path report settings).toJson.get? "errors").getD (.array []) =
      .array ((report.errors ++ if settings.strict then report.warnings else []).map fun message =>
        .object [("type", .text "ValidationError"), ("message", .text message)]) := by
  have failing : Envelope.failingMessages report settings.strict =
      report.errors ++ if settings.strict then report.warnings else [] := by
    cases strict : settings.strict <;> simp [Envelope.failingMessages]
  rw [Envelope.get?_errors, checkEnvelope, problems_ofReport, ← failing]
  split
  · next passed => simp [passes_eq_true_iff.1 passed]
  · simp [Problem.ofMessage, Problem.toJson, Function.comp_def]

variable {world : World} {request : CheckRequest} {settings : Settings} {report : Report}
  {records : List Piece}

theorem shows_settingsFailed (noted : ∀ piece ∈ records, piece.isRecord = true)
    (json : request.format = some .json) (failure : Failure) :
    (Outcome.after records (settingsFailed request failure)).Shows
      (.failed "check" [.ofFailure failure] []) := by
  refine @Outcome.shows_of_printed _ _ records ?_ noted rfl rfl ?_
  · simp [Outcome.after, settingsFailed, json]
  · simp [Outcome.after, settingsFailed, Envelope.failed]

theorem not_announcesFailure_of_mem_findingLines {hints : Bool} {finding : Finding} {level : Level}
    {message : String} (modest : ¬AnnouncesFailure finding.message)
    (member : .line level message ∈ findingLines hints finding) : ¬AnnouncesFailure message := by
  rcases List.mem_cons.1 member with first | hint
  · cases first
    exact modest
  · split at hint
    · rw [List.mem_singleton] at hint
      cases hint
      simp [AnnouncesFailure, toString]
    · cases hint

/-- The last line of a check names a count when it announces a failure. -/
theorem exists_counts_of_summaryLine {path : Path} {strict : Bool} {level : Level}
    {message : String} (summary : summaryLine path report strict = .line level message)
    (told : level ≠ .success) :
    ∃ parts, message = "Validation failed: " ++ ", ".intercalate parts ∧ parts ≠ [] ∧
      ∀ part ∈ parts, IsCount part := by
  simp only [summaryLine] at summary
  split at summary
  · cases summary
    exact (told rfl).elim
  · next failed =>
      cases summary
      exact ⟨countParts report, rfl, countParts_ne_nil failed, fun _ => isCount_of_mem_countParts⟩

/-- A failure of the settings is told in words of its own. -/
theorem not_announcesFailure_of_kind {failure : Failure}
    (kind : failure.kind = .unreadableSettings ∨ failure.kind = .invalidSetting) :
    ¬AnnouncesFailure failure.message := by
  rcases kind with kind | kind
  · cases failure with
    | unreadableSettings path reason =>
        have opening : (Failure.unreadableSettings path reason).message =
            s!"Failed to parse config file {path}: {reason}" := rfl
        rw [opening]
        simp [AnnouncesFailure, toString]
    | _ => cases kind
  · cases failure with
    | invalidSetting key value choices =>
        have opening : ∃ literal allowed, (Failure.invalidSetting key value choices).message =
            s!"Invalid value for '{key}': {literal} (expected one of: {allowed})" := ⟨_, _, rfl⟩
        obtain ⟨literal, allowed, opening⟩ := opening
        rw [opening]
        simp [AnnouncesFailure, toString]
    | _ => cases kind

/-! ## Requests in both formats -/

section CallStack

variable [CallStack]

theorem checkWith_eq {world : World} {request : CheckRequest} {settings : Settings}
    {report : Report}
    (checked : checkFile world.files Rule.standard settings.scope world.time request.path =
      .ok report) :
    ∃ records, checkWith world request settings =
      ⟨recordPieces request records ++ reportPieces request settings report,
        if passes report settings.strict then 0 else 1, none⟩ := by
  refine ⟨Trace.ofFile world.files Rule.standard settings.scope request.path, ?_⟩
  simp only [checkWith, checked]

theorem shows_checkWith (noted : ∀ piece ∈ records, piece.isRecord = true)
    (json : settings.format = .json)
    (checked : checkFile world.files Rule.standard settings.scope world.time request.path =
      .ok report) :
    (Outcome.after records (checkWith world request settings)).Shows
      (checkEnvelope request.path report settings) := by
  obtain ⟨further, outcome⟩ := checkWith_eq checked
  rw [outcome, reportPieces, json]
  refine @Outcome.shows_of_printed _ _ (records ++ recordPieces request further) ?_ ?_ rfl ?_ ?_
  · simp [Outcome.after]
  · rw [List.forall_mem_append]
    exact ⟨noted, fun piece => isRecord_of_mem_recordPieces⟩
  · rw [checkEnvelope, success_ofReport]
    cases passes report settings.strict <;> rfl
  · rw [checkEnvelope, problems_ofReport]
    cases passes report settings.strict <;> simp [Outcome.after]

theorem tells_checkWith (noted : ∀ piece ∈ records, piece.isRecord = true)
    (text : settings.format = .text)
    (checked : checkFile world.files Rule.standard settings.scope world.time request.path =
      .ok report) :
    (Outcome.after records (checkWith world request settings)).Tells request.path := by
  obtain ⟨further, outcome⟩ := checkWith_eq checked
  rw [outcome, reportPieces, text]
  refine ⟨rfl, ?_, ?_⟩
  · simp only [Outcome.after, ← List.append_assoc, List.getLast?_concat, summaryLine]
    by_cases passed : passes report settings.strict = true
    · simp [passed]
    · simp [passed]
  · intro level message told printed announces
    have isNoRecord : ¬Piece.isRecord (.line level message) = true := nofun
    simp only [Outcome.after, List.mem_append, List.mem_singleton, List.mem_flatMap] at printed
    rcases printed with early | early | ⟨finding, member, line⟩ | summary
    · exact (isNoRecord (noted _ early)).elim
    · exact (isNoRecord (isRecord_of_mem_recordPieces early)).elim
    · exact (not_announcesFailure_of_mem_findingLines (checkFile_isModest checked finding member)
        line announces).elim
    · exact exists_counts_of_summaryLine summary.symm told

variable [Yaml.Library]

/-- The settings of a request, or why there are none. -/
def World.settingsOf (world : World) (request : CheckRequest) : Except Breakdown Settings :=
  (Settings.resolve world.files world.environment (some request.path.parent) request.given).2

theorem settingsOf_withFormat (world : World) (request : CheckRequest)
    (format other : OutputFormat) :
    world.settingsOf (request.withFormat other) =
      (world.settingsOf (request.withFormat format)).map (Settings.withFormat other) :=
  congrArg Prod.snd
    (Settings.resolve_withFormat world.files world.environment (some request.path.parent)
      request.given format other)

theorem format_of_settingsOf {world : World} {request : CheckRequest} {format : OutputFormat}
    {settings : Settings} (found : world.settingsOf (request.withFormat format) = .ok settings) :
    settings.format = format := by
  have same := settingsOf_withFormat world request format format
  rw [found, Except.map, Except.ok.injEq] at same
  rw [same]
  rfl

theorem check_eq (world : World) (request : CheckRequest) :
    ∃ records, check world request = Outcome.after (recordPieces request records)
      (match world.settingsOf request with
        | .error (.failure failure) => settingsFailed request failure
        | .error breakdown => .broken breakdown
        | .ok settings => checkWith world request settings) :=
  ⟨_, rfl⟩

theorem tells_settingsFailed (noted : ∀ piece ∈ records, piece.isRecord = true)
    (text : request.format = some .text) {failure : Failure}
    (failed : world.settingsOf request = .error (.failure failure)) (path : Path) :
    (Outcome.after records (settingsFailed request failure)).Tells path := by
  have modest := not_announcesFailure_of_kind (Settings.kind_of_resolve failed)
  refine ⟨rfl, ?_, ?_⟩
  · simp [Outcome.after, settingsFailed, text]
  · intro level message told printed announces
    have isNoRecord : ¬Piece.isRecord (.line level message) = true := nofun
    simp only [Outcome.after, settingsFailed, text, List.mem_append, List.mem_singleton] at printed
    rcases printed with early | line
    · exact (isNoRecord (noted _ early)).elim
    · cases line
      exact (modest announces).elim

/-- Once the words are read, the check ends in both formats with the same status. -/
theorem check_formats_agree (world : World) (asked : CheckWords)
    (told : ∀ breakdown, world.settingsOf (asked.request.withFormat .json) = .error breakdown →
      ∃ failure, breakdown = .failure failure) :
    (check world (asked.request.withFormat .json)).status =
        (check world (asked.request.withFormat .text)).status ∧
      (∃ envelope, (check world (asked.request.withFormat .json)).Shows envelope ∧
        ∀ settings, world.settingsOf (asked.request.withFormat .json) = .ok settings →
          ∃ report, checkFile world.files Rule.standard settings.scope world.time
              asked.request.path = .ok report ∧
            (envelope.toJson.get? "errors").getD (.array []) =
              .array ((report.errors ++ if settings.strict then report.warnings else []).map
                fun message =>
                  .object [("type", .text "ValidationError"), ("message", .text message)])) ∧
      (check world (asked.request.withFormat .text)).Tells asked.request.path := by
  have other := settingsOf_withFormat world asked.request .json .text
  obtain ⟨jsonRecords, json⟩ := check_eq world (asked.request.withFormat .json)
  obtain ⟨textRecords, text⟩ := check_eq world (asked.request.withFormat .text)
  rw [json, text, other]
  cases found : world.settingsOf (asked.request.withFormat .json) with
  | error breakdown =>
      obtain ⟨failure, rfl⟩ := told breakdown found
      have textFailed : world.settingsOf (asked.request.withFormat .text) =
          .error (.failure failure) := by
        rw [other, found]
        rfl
      refine ⟨rfl, ⟨_, shows_settingsFailed (fun _ => isRecord_of_mem_recordPieces) rfl failure,
        nofun⟩, ?_⟩
      exact tells_settingsFailed (fun _ => isRecord_of_mem_recordPieces) rfl textFailed _
  | ok settings =>
      have format := format_of_settingsOf found
      obtain ⟨report, checked⟩ := exists_checkFile (Path.nullFree_ofText asked.nullFree)
        world.files Rule.standard settings.scope world.time
      refine ⟨?_, ⟨_, shows_checkWith (fun _ => isRecord_of_mem_recordPieces) format checked,
        ?_⟩, ?_⟩
      · obtain ⟨_, jsonOutcome⟩ :=
          @checkWith_eq _ world (asked.request.withFormat .json) settings _ checked
        obtain ⟨_, textOutcome⟩ :=
          @checkWith_eq _ world (asked.request.withFormat .text) (settings.withFormat .text) _
            checked
        simp only [Outcome.after, Except.map, jsonOutcome, textOutcome]
        rfl
      · rintro _ ⟨⟩
        exact ⟨report, checked, errors_checkEnvelope _ _ _⟩
      · exact tells_checkWith (fun _ => isRecord_of_mem_recordPieces) rfl checked

end CallStack

open scoped CallStack Yaml.Library CommandLine.Library

/-- A working directory with a catalog that may not be read. -/
def barredWorld : World where
  files := (⟨.directory [("w", .directory [("a.toml",
    .unreadable AccessFault.permissionDenied.reason)])], ["w"]⟩ : Files)
  environment := []
  time := .ofInstant 0

end CommandLine

end VersionCatalog
