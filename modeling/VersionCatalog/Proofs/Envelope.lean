import VersionCatalog.Envelope
import VersionCatalog.Proofs.Json.RoundTrip
import VersionCatalog.Proofs.Json.Writer
import VersionCatalog.Proofs.Occurrence

/-!
# Reading envelopes back

Whoever reads the envelope of a report has all that is in it: messages character for character,
lists in order, and the data of the report with the further data set in it. `read?_render_ofReport`
says so for every layout. Messages and findings are had back from the data by `Json.items?`.
-/

namespace VersionCatalog

namespace Json

variable {members : List (String × Json)}

/-! ## Setting members -/

theorem map_fst_setMember (key : String) (value : Json) (members : List (String × Json)) :
    (setMember key value members).map Prod.fst =
      members.map Prod.fst ++ if key ∈ members.map Prod.fst then [] else [key] := by
  induction members with
  | nil => rfl
  | cons member members induction =>
      obtain ⟨name, old⟩ := member
      rw [setMember]
      by_cases same : name = key
      · simp [same]
      · rw [if_neg same, List.map_cons, List.map_cons, induction, List.cons_append]
        simp only [List.mem_cons, Ne.symm same, false_or]

theorem lookup_setMember (key other : String) (value : Json) (members : List (String × Json)) :
    (setMember key value members).lookup other =
      if other = key then some value else members.lookup other := by
  induction members with
  | nil =>
      rw [setMember, List.lookup_cons, List.lookup_nil]
      by_cases found : other = key
      · simp [found]
      · simp [beq_false_of_ne found, found]
  | cons member members induction =>
      obtain ⟨name, old⟩ := member
      rw [setMember]
      by_cases same : name = key
      · subst same
        rw [if_pos rfl, List.lookup_cons, List.lookup_cons]
        by_cases found : other = name
        · simp [found]
        · simp [beq_false_of_ne found, found]
      · rw [if_neg same, List.lookup_cons, List.lookup_cons, induction]
        by_cases found : other = name
        · simp [found, same]
        · simp [beq_false_of_ne found]

theorem eq_or_mem_of_mem_setMember {key : String} {value : Json} {member : String × Json}
    (inside : member ∈ setMember key value members) : member.2 = value ∨ member ∈ members := by
  induction members with
  | nil => exact .inl (by rw [List.mem_singleton.1 inside])
  | cons first members induction =>
      obtain ⟨name, old⟩ := first
      rw [setMember] at inside
      split at inside
      · rcases List.mem_cons.1 inside with rfl | later
        · exact .inl rfl
        · exact .inr (List.mem_cons_of_mem _ later)
      · rcases List.mem_cons.1 inside with rfl | later
        · exact .inr List.mem_cons_self
        · exact (induction later).imp_right (List.mem_cons_of_mem _)

theorem setMembers_append_singleton (members changes : List (String × Json))
    (change : String × Json) :
    setMembers members (changes ++ [change]) =
      setMember change.1 change.2 (setMembers members changes) := by
  rw [setMembers, List.foldl_append]
  rfl

/-- Keys that are new follow the old ones in the order in which they are first set. -/
theorem map_fst_setMembers (members changes : List (String × Json)) :
    (setMembers members changes).map Prod.fst =
      members.map Prod.fst ++
        firstOccurrences ((changes.map Prod.fst).filter (· ∉ members.map Prod.fst)) := by
  induction changes using List.reverseRecOn with
  | nil => simp [setMembers, firstOccurrences, firstOccurrencesAfter]
  | append_singleton changes change induction =>
      rw [setMembers_append_singleton, map_fst_setMember, induction, List.map_append,
        List.filter_append, List.map_singleton, List.append_assoc]
      refine congrArg _ ?_
      by_cases old : change.1 ∈ members.map Prod.fst
      · rw [if_pos (List.mem_append_left _ old), List.filter_singleton]
        simp [old]
      · rw [List.filter_singleton]
        simp only [old, not_false_eq_true, decide_true, cond_true,
          firstOccurrences_append_singleton, List.mem_append, mem_firstOccurrences,
          List.mem_filter, and_true, false_or]

/-- The value of a key is the last one that is set. -/
theorem lookup_setMembers (members changes : List (String × Json)) (key : String) :
    (setMembers members changes).lookup key =
      (changes.reverse.lookup key).or (members.lookup key) := by
  induction changes using List.reverseRecOn with
  | nil => rfl
  | append_singleton changes change induction =>
      rw [setMembers_append_singleton, lookup_setMember, induction, List.reverse_append,
        List.reverse_singleton, List.singleton_append, List.lookup_cons]
      by_cases found : key = change.1
      · simp [found]
      · simp [beq_false_of_ne found, found]

theorem lookup_reverse_eq_none {changes : List (String × Json)} {key : String}
    (unset : key ∉ changes.map Prod.fst) : changes.reverse.lookup key = none := by
  refine List.lookup_eq_none_iff.2 fun change member => bne_iff_ne.2 fun same => unset ?_
  rw [same]
  exact List.mem_map_of_mem (List.mem_reverse.1 member)

theorem eq_or_mem_of_mem_setMembers {changes : List (String × Json)} {member : String × Json}
    (inside : member ∈ setMembers members changes) :
    (∃ change ∈ changes, member.2 = change.2) ∨ member ∈ members := by
  induction changes using List.reverseRecOn with
  | nil => exact .inr inside
  | append_singleton changes change induction =>
      rw [setMembers_append_singleton] at inside
      rcases eq_or_mem_of_mem_setMember inside with same | before
      · exact .inl ⟨change, by simp, same⟩
      · refine (induction before).imp_left fun ⟨earlier, member, same⟩ => ?_
        exact ⟨earlier, List.mem_append_left _ member, same⟩

/-- Setting plain values leaves an object plain. -/
theorem IsPlain.setMembers {changes : List (String × Json)} (plain : IsPlain (.object members))
    (changed : ∀ change ∈ changes, IsPlain change.2) :
    IsPlain (.object (setMembers members changes)) := by
  cases plain with
  | object distinct plain =>
      refine .object ?_ fun member inside => ?_
      · rw [map_fst_setMembers, List.nodup_append]
        refine ⟨distinct, nodup_firstOccurrences _, ?_⟩
        rintro key old other fresh rfl
        rw [mem_firstOccurrences, List.mem_filter] at fresh
        exact absurd old (of_decide_eq_true fresh.2)
      · rcases eq_or_mem_of_mem_setMembers inside with ⟨change, member, same⟩ | before
        · rw [same]
          exact changed change member
        · exact plain member before

end Json

open Json

theorem Finding.isPlain_toJson (finding : Finding) : finding.toJson.IsPlain := by
  obtain ⟨rule, severity, message, hint⟩ := finding
  cases hint with
  | none =>
      refine .object (by simp) ?_
      simp only [List.forall_mem_cons]
      exact ⟨.text _, .text _, .text _, nofun⟩
  | some hint =>
      refine .object (by simp) ?_
      simp only [List.cons_append, List.nil_append, List.forall_mem_cons]
      exact ⟨.text _, .text _, .text _, .text _, nofun⟩

theorem Problem.isPlain_toJson (problem : Problem) : problem.toJson.IsPlain := by
  obtain ⟨kind, message, code⟩ := problem
  cases code with
  | none =>
      refine .object (by simp) ?_
      simp only [List.forall_mem_cons]
      exact ⟨.text _, .text _, nofun⟩
  | some code =>
      refine .object (by simp) ?_
      simp only [List.cons_append, List.nil_append, List.forall_mem_cons]
      exact ⟨.text _, .text _, .text _, nofun⟩

theorem Json.IsPlain.array_map {α : Type} {items : List α} {toJson : α → Json}
    (plain : ∀ item, (toJson item).IsPlain) : IsPlain (.array (items.map toJson)) := by
  refine .array fun value member => ?_
  obtain ⟨item, -, rfl⟩ := List.mem_map.1 member
  exact plain item

theorem Report.isPlain_toJson (report : Report) : report.toJson.IsPlain := by
  refine .object (by simp [members]) ?_
  simp only [members, List.forall_mem_cons]
  exact ⟨.bool _, .integer _, .integer _, .array_map .text, .array_map .text, .text _, .integer _,
    .array_map Finding.isPlain_toJson, nofun⟩

/-! ## What lists hold -/

/-- The content of a text. -/
def Json.text? : Json → Option String
  | .text content => some content
  | _ => none

/-- The items of an array, if all of them can be read. -/
def Json.items? {α : Type} (read : Json → Option α) : Json → Option (List α)
  | .array items => items.mapM read
  | _ => none

/-- The finding that a JSON object holds. -/
def Finding.ofJson? (value : Json) : Option Finding := do
  let rule ← (value.get? "rule_name").bind text?
  let severity ← ((value.get? "severity").bind text?).bind Severity.ofName?
  let message ← (value.get? "message").bind text?
  some ⟨rule, severity, message, (value.get? "fix_hint").bind text?⟩

theorem Json.items?_map {α : Type} {read : Json → Option α} {toJson : α → Json}
    (inverse : ∀ item, read (toJson item) = some item) (items : List α) :
    items? read (.array (items.map toJson)) = some items := by
  rw [items?]
  induction items with
  | nil => rfl
  | cons item items induction => simp [inverse, induction]

theorem Finding.ofJson?_toJson (finding : Finding) : ofJson? finding.toJson = some finding := by
  obtain ⟨rule, severity, message, hint⟩ := finding
  cases severity <;> cases hint <;> rfl

namespace Envelope

theorem isPlain_toJson {envelope : Envelope} (plain : IsPlain (.object envelope.data)) :
    envelope.toJson.IsPlain := by
  obtain ⟨success, command, data, problems⟩ := envelope
  cases problems with
  | none =>
      refine .object (by simp) ?_
      simp only [List.forall_mem_cons]
      exact ⟨.bool _, .text _, plain, nofun⟩
  | some problems =>
      refine .object (by simp) ?_
      simp only [List.cons_append, List.nil_append, List.forall_mem_cons]
      exact ⟨.bool _, .text _, plain, .array_map Problem.isPlain_toJson, nofun⟩

theorem data_ofReport (command : String) (report : Report) (strict : Bool)
    (extra : List (String × Json)) :
    (ofReport command report strict extra).data = setMembers report.members extra := by
  rw [ofReport]
  split
  · rfl
  · rfl

theorem get?_data (envelope : Envelope) :
    envelope.toJson.get? "data" = some (.object envelope.data) := by
  obtain ⟨success, command, data, problems⟩ := envelope
  cases problems <;> rfl

/-- The envelope of a report is read back from its text as it was written, in every layout, and on
one line the text has no line feed. Its data are those of the report, where every further key is set
in place or comes after those before it, with the last value that is given for it. Unless they are
set, the errors, the warnings and the findings are had back from them one by one. -/
theorem read?_render_ofReport (command : String) (report : Report) (strict : Bool)
    {extra : List (String × Json)} (plain : ∀ change ∈ extra, change.2.IsPlain) :
    let envelope := ofReport command report strict extra
    (∀ layout, Json.read? (envelope.render layout) = some envelope.toJson) ∧
      '\n' ∉ (envelope.render .line).toList ∧
      ∃ data, envelope.toJson.get? "data" = some (.object data) ∧
        data.map Prod.fst = report.members.map Prod.fst ++
          firstOccurrences ((extra.map Prod.fst).filter (· ∉ report.members.map Prod.fst)) ∧
        (∀ key, data.lookup key = (extra.reverse.lookup key).or (report.members.lookup key)) ∧
        ("errors" ∉ extra.map Prod.fst →
          (data.lookup "errors").bind (items? text?) = some report.errors) ∧
        ("warnings" ∉ extra.map Prod.fst →
          (data.lookup "warnings").bind (items? text?) = some report.warnings) ∧
        ("findings" ∉ extra.map Prod.fst →
          (data.lookup "findings").bind (items? Finding.ofJson?) = some report.findings) := by
  intro envelope
  have data : envelope.data = setMembers report.members extra :=
    data_ofReport command report strict extra
  have whole : envelope.toJson.IsPlain := by
    refine isPlain_toJson ?_
    rw [data]
    exact report.isPlain_toJson.setMembers plain
  have kept : ∀ {key}, key ∉ extra.map Prod.fst →
      envelope.data.lookup key = report.members.lookup key := by
    intro key unset
    rw [data, lookup_setMembers, lookup_reverse_eq_none unset, Option.none_or]
  refine ⟨fun layout => Json.read?_render whole layout, lineFeed_notMem_render _, _,
    get?_data envelope, ?_, fun key => ?_, fun unset => ?_, fun unset => ?_, fun unset => ?_⟩
  · rw [data, map_fst_setMembers]
  · rw [data, lookup_setMembers]
  · rw [kept unset]
    exact @items?_map _ text? text (fun _ => rfl) report.errors
  · rw [kept unset]
    exact @items?_map _ text? text (fun _ => rfl) report.warnings
  · rw [kept unset]
    exact items?_map Finding.ofJson?_toJson report.findings

/-- A key of the report is set in place, and another one is added. The messages have quotes, line
feeds and backslashes. -/
theorem read?_render_ofReport_set :
    let extra : List (String × Json) := [("path", .text "a\"\n"), ("is_valid", .bool false)]
    let findings : List Finding :=
      [⟨"duplicate_keys", .error, "a\"\\\n", none⟩, ⟨"empty_sections", .warning, "é", some "b"⟩]
    let report := Report.ofFindings findings ⟨2024, 1, 2, 3, 4, 5, 0, 0⟩
    let envelope := ofReport "check" report false extra
    (∀ change ∈ extra, change.2.IsPlain) ∧
      Json.read? (envelope.render (.indented 2)) = some envelope.toJson ∧
      ∃ data, envelope.toJson.get? "data" = some (.object data) ∧
        data.map Prod.fst = ["is_valid", "error_count", "warning_count", "errors", "warnings",
          "timestamp", "timestamp_ms", "findings", "path"] ∧
        data.lookup "is_valid" = some (.bool false) ∧
        (data.lookup "errors").bind (items? text?) = some ["a\"\\\n"] ∧
        (data.lookup "warnings").bind (items? text?) = some ["é"] ∧
        (data.lookup "findings").bind (items? Finding.ofJson?) = some findings := by
  intro extra findings report envelope
  have plain : ∀ change ∈ extra, change.2.IsPlain := by
    simp only [extra, List.forall_mem_cons]
    exact ⟨.text _, .bool _, nofun⟩
  obtain ⟨read, _, data, held, keys, values, errors, warnings, found⟩ :=
    read?_render_ofReport "check" report false plain
  exact ⟨plain, read _, data, held, keys, values "is_valid", errors (by simp [extra]),
    warnings (by simp [extra]), found (by simp [extra])⟩

end Envelope

end VersionCatalog
