import VersionCatalog.Proofs.Document.Escapes

/-!
# Quoted texts of one line

A text between single quotes, or between double ones, ends on the line that it begins on. Where the
next character is read, a line feed is a fault; but an escape is read as a whole, whatever comes
after its backslash. `LineQuotes.read_outcome` says that a text is returned only if its closing
quote comes before the first line feed outside of escapes, and that it is unterminated otherwise,
unless a code is reported before that. Two inputs show line feeds that escapes take.
-/

namespace VersionCatalog.Document

open Text

/-- The quotes around a text of one line. -/
inductive LineQuotes where
  | double
  | single
deriving DecidableEq

/-- A backslash and the character after it, with as many others as this character says that there
are in a code. -/
def IsEscape (text : List Char) : Prop :=
  ∃ marker code, text = '\\' :: marker :: code ∧ code.length = (codeWidth? marker).getD 0

theorem IsEscape.length_pos {escape : List Char} (formed : IsEscape escape) :
    0 < escape.length := by
  obtain ⟨marker, code, rfl, _⟩ := formed
  exact Nat.succ_pos _

/-- A backslash begins an escape, or one that the text ends in the middle of. -/
theorem exists_isEscape (rest : List Char) :
    (∃ escape more, '\\' :: rest = escape ++ more ∧ IsEscape escape) ∨
      ∃ missing, missing ≠ [] ∧ IsEscape ('\\' :: rest ++ missing) := by
  cases rest with
  | nil => exact .inr ⟨['n'], List.cons_ne_nil _ _, 'n', [], rfl, rfl⟩
  | cons marker more =>
      generalize width : (codeWidth? marker).getD 0 = count
      by_cases enough : count ≤ more.length
      · refine .inl ⟨'\\' :: marker :: more.take count, more.drop count, ?_, marker, _, rfl, ?_⟩
        · simp only [List.cons_append, List.take_append_drop]
        · rw [width, List.length_take_of_le enough]
      · refine .inr ⟨List.replicate (count - more.length) '0', ?_, marker,
          more ++ List.replicate (count - more.length) '0', rfl, ?_⟩
        · rw [← List.length_pos_iff, List.length_replicate]
          omega
        · rw [width, List.length_append, List.length_replicate]
          omega

namespace LineQuotes

def mark : LineQuotes → Char
  | double => '"'
  | single => '\''

/-- Reads a text between such quotes, the cursor being before the first. -/
def read : LineQuotes → Reader (List Char)
  | double => readBasic
  | single => readLiteral

/-- What may come before the closing quote. Line feeds stand only in escapes, and escapes only
between double quotes. -/
inductive Body (quotes : LineQuotes) : List Char → Prop where
  | nil : Body quotes []
  /-- A character that neither closes the text nor ends the line. -/
  | plain {char : Char} {body : List Char} (inside : char ≠ quotes.mark) (sameLine : char ≠ '\n')
      (unescaped : quotes = double → char ≠ '\\') (others : Body quotes body) :
      Body quotes (char :: body)
  /-- An escape is taken as a whole. -/
  | escape {escape body : List Char} (escapes : quotes = double) (formed : IsEscape escape)
      (others : Body quotes body) : Body quotes (escape ++ body)

/-- The line ends here, or the text does, which may be in the middle of an escape. -/
inductive EndsLine (quotes : LineQuotes) : List Char → Prop where
  | feed (later : List Char) : EndsLine quotes ('\n' :: later)
  | text : EndsLine quotes []
  | escape {tail missing : List Char} (escapes : quotes = double)
      (formed : IsEscape (tail ++ missing)) (short : missing ≠ []) : EndsLine quotes tail

/-- An escape between double quotes takes a line feed. -/
def HasEscapedFeed (body : List Char) : Prop :=
  ∃ front escape back, double.Body front ∧ IsEscape escape ∧ '\n' ∈ escape ∧
    body = front ++ escape ++ back

/-- A fault is that of an escape by a code, before which neither the closing quote nor the end of
the line comes. -/
def Miscoded (quotes : LineQuotes) (text : List Char) (fault : Fault) : Prop :=
  quotes = double ∧ ∃ front marker rest width, double.Body front ∧
    text = front ++ '\\' :: marker :: rest ∧ codeWidth? marker = some width ∧
    fault.cause = .invalidEscape marker (String.ofList (rest.take width))

variable {quotes : LineQuotes} {body rest later : List Char} {line opening : Nat}

/-! ## Bodies -/

theorem Body.append {front : List Char} (between : quotes.Body front) (others : quotes.Body body) :
    quotes.Body (front ++ body) := by
  induction between with
  | nil => exact others
  | plain inside sameLine unescaped _ induction =>
      exact .plain inside sameLine unescaped induction
  | escape escapes formed _ induction =>
      rw [List.append_assoc]
      exact .escape escapes formed induction

/-- Only escapes take line feeds. -/
theorem Body.hasEscapedFeed (between : quotes.Body body) (broken : '\n' ∈ body) :
    quotes = double ∧ HasEscapedFeed body := by
  induction between with
  | nil => cases broken
  | @plain char body inside sameLine unescaped _ induction =>
      rcases List.mem_cons.1 broken with same | later
      · exact (sameLine same.symm).elim
      · obtain ⟨rfl, front, escape, back, before, formed, taken, rfl⟩ := induction later
        exact ⟨rfl, char :: front, escape, back,
          .plain inside sameLine unescaped before, formed, taken, rfl⟩
  | @escape text body escapes formed _ induction =>
      rcases List.mem_append.1 broken with taken | later
      · exact ⟨escapes, [], text, body, .nil, formed, taken, rfl⟩
      · obtain ⟨rfl, front, escape, back, before, well, taken, rfl⟩ := induction later
        exact ⟨rfl, text ++ front, escape, back, .escape rfl formed before, well, taken,
          by simp only [List.append_assoc]⟩

theorem body_single_iff : single.Body body ↔ ∀ char ∈ body, isLiteralChar char = true := by
  constructor
  · intro between
    induction between with
    | nil => exact List.forall_mem_nil _
    | plain inside sameLine _ _ induction =>
        rw [List.forall_mem_cons]
        exact ⟨by simpa [isLiteralChar] using ⟨inside, sameLine⟩, induction⟩
    | escape escapes => cases escapes
  · intro literal
    induction body with
    | nil => exact .nil
    | cons char body induction =>
        rw [List.forall_mem_cons] at literal
        have apart : char ≠ '\'' ∧ char ≠ '\n' := by simpa [isLiteralChar] using literal.1
        exact .plain apart.1 apart.2 (fun same => by cases same) (induction literal.2)

theorem Miscoded.append {text : List Char} {fault : Fault} (between : double.Body body)
    (coded : quotes.Miscoded text fault) : quotes.Miscoded (body ++ text) fault := by
  obtain ⟨escapes, front, marker, rest, width, before, rfl, parts⟩ := coded
  exact ⟨escapes, body ++ front, marker, rest, width, between.append before, by simp, parts⟩

/-! ## Reading escapes -/

theorem readBasicPart_backslash (text : List Char) :
    readBasicPart opening ⟨'\\' :: text, line⟩ =
      (readEscape ⟨text, line⟩).map fun part => (.more part.1, part.2) := by
  rw [readBasicPart_escape rfl, advance_one_cons rfl]

/-- A text goes on after as many characters as the code should have, or after all of them, unless
the code is a fault. -/
theorem readBasicPart_code {marker : Char} {width : Nat} (coded : codeWidth? marker = some width)
    (rest : List Char) :
    (∃ chars after, after.rest = rest.drop width ∧
        readBasicPart opening ⟨'\\' :: marker :: rest, line⟩ = .ok (.more chars, after)) ∨
      ∃ fault, double.Miscoded ('\\' :: marker :: rest) fault ∧
        readBasicPart opening ⟨'\\' :: marker :: rest, line⟩ = .error fault := by
  rw [readBasicPart_backslash, readEscape_code coded]
  cases (readLooseHex (rest.take width)).bind charOfCode? with
  | some char => exact .inl ⟨[char], _, rfl, rfl⟩
  | none => exact .inr ⟨_, ⟨rfl, [], marker, rest, width, .nil, rfl, coded, rfl⟩, rfl⟩

/-- A text of one line goes on after an escape, unless its code is a fault. -/
theorem readBasicPart_isEscape {escape : List Char} (formed : IsEscape escape) :
    (∃ chars after, after.rest = later ∧
        readBasicPart opening ⟨escape ++ later, line⟩ = .ok (.more chars, after)) ∨
      ∃ fault, double.Miscoded (escape ++ later) fault ∧
        readBasicPart opening ⟨escape ++ later, line⟩ = .error fault := by
  obtain ⟨marker, code, rfl, length⟩ := formed
  cases width : codeWidth? marker with
  | none =>
      rw [width, Option.getD_none, List.length_eq_zero_iff] at length
      subst length
      refine .inl ?_
      simp only [List.cons_append, List.nil_append, readBasicPart_backslash]
      cases simple : simpleEscape? marker with
      | some char => exact ⟨[char], _, rfl, by simp [readEscape, simple]; rfl⟩
      | none => exact ⟨['\\', marker], _, rfl, by simp [readEscape, simple, width]; rfl⟩
  | some count =>
      rw [width, Option.getD_some] at length
      subst length
      have read := @readBasicPart_code line opening _ _ width (code ++ later)
      rwa [List.drop_left] at read

/-- A text that ends in the middle of an escape has no closing quote. -/
theorem result_of_broken_escape {tail missing : List Char} (formed : IsEscape (tail ++ missing))
    (short : missing ≠ []) :
    (many (readBasicPart opening) ⟨tail, line⟩).result = .error ⟨.unclosedString, opening⟩ ∨
      ∃ fault, double.Miscoded tail fault ∧
        (many (readBasicPart opening) ⟨tail, line⟩).result = .error fault := by
  have ended {after : Cursor} {chars : List Char} (rest : after.rest = [])
      (read : readBasicPart opening ⟨tail, line⟩ = .ok (.more chars, after)) :
      (many (readBasicPart opening) ⟨tail, line⟩).result = .error ⟨.unclosedString, opening⟩ := by
    have missing : readBasicPart opening after = .error ⟨.unclosedString, opening⟩ := by
      simp only [readBasicPart, rest]
    rw [many_result_of_more (progressive_readBasicPart _) read,
      many_result_of_error (progressive_readBasicPart _) missing]
    rfl
  obtain ⟨marker, code, whole, length⟩ := formed
  cases tail with
  | nil => exact .inl (many_result_of_error (progressive_readBasicPart _) rfl)
  | cons first others =>
      rw [List.cons_append, List.cons.injEq] at whole
      obtain ⟨rfl, whole⟩ := whole
      cases others with
      | nil => exact .inl (ended rfl rfl)
      | cons second begun =>
          rw [List.cons_append, List.cons.injEq] at whole
          obtain ⟨rfl, rfl⟩ := whole
          have some_left := List.length_pos_iff.2 short
          rw [List.length_append] at length
          cases width : codeWidth? second with
          | none =>
              rw [width, Option.getD_none] at length
              omega
          | some count =>
              rw [width, Option.getD_some] at length
              have nothing : begun.drop count = [] := List.drop_of_length_le (by omega)
              rcases readBasicPart_code width begun with
                ⟨chars, after, rest, read⟩ | ⟨fault, coded, failed⟩
              · exact .inl (ended (rest.trans nothing) read)
              · exact .inr ⟨fault, coded, many_result_of_error (progressive_readBasicPart _) failed⟩

/-! ## Reading a body -/

/-- Between double quotes, reading goes on with a tail of the text, unless a code before it is a
fault. -/
def GoesOn (opening : Nat) (cursor : Cursor) (tail : List Char) : Prop :=
  (∃ parts middle, middle.rest = tail ∧ (many (readBasicPart opening) cursor).result =
      (many (readBasicPart opening) middle).result.map fun (others, after) =>
        (parts ++ others, after)) ∨
    ∃ fault, double.Miscoded cursor.rest fault ∧
      (many (readBasicPart opening) cursor).result = .error fault

theorem GoesOn.of_more {front chars tail : List Char} {cursor after : Cursor}
    (passed : double.Body front) (taken : cursor.rest = front ++ after.rest)
    (read : readBasicPart opening cursor = .ok (.more chars, after))
    (others : GoesOn opening after tail) : GoesOn opening cursor tail := by
  rw [GoesOn, many_result_of_more (progressive_readBasicPart _) read]
  rcases others with ⟨parts, middle, rest, result⟩ | ⟨fault, coded, failed⟩
  · refine .inl ⟨chars :: parts, middle, rest, ?_⟩
    rw [result]
    cases (many (readBasicPart opening) middle).result <;> rfl
  · rw [taken, failed]
    exact .inr ⟨fault, coded.append passed, rfl⟩

theorem Body.goesOn (between : double.Body body) {tail : List Char} {cursor : Cursor}
    (whole : cursor.rest = body ++ tail) : GoesOn opening cursor tail := by
  induction between generalizing cursor with
  | nil =>
      refine .inl ⟨[], cursor, whole, ?_⟩
      cases (many (readBasicPart opening) cursor).result <;> rfl
  | @plain char body inside sameLine unescaped _ induction =>
      have read : readBasicPart opening cursor = .ok (.more [char], cursor.advance 1) :=
        readBasicPart_plain (by simp [whole]) sameLine inside (unescaped rfl)
      have behind : (cursor.advance 1).rest = body ++ tail := by simp [Cursor.advance, whole]
      refine .of_more (.plain inside sameLine unescaped .nil) ?_ read (induction behind)
      rw [behind, whole]
      rfl
  | @escape escape body _ formed _ induction =>
      obtain ⟨text, line⟩ := cursor
      simp only at whole
      rw [List.append_assoc] at whole
      subst whole
      rcases readBasicPart_isEscape formed with ⟨chars, after, rest, read⟩ | ⟨fault, coded, failed⟩
      · have passed : double.Body escape := by simpa using Body.escape rfl formed .nil
        exact .of_more passed (by rw [rest]) read (induction rest)
      · exact .inr ⟨fault, coded, many_result_of_error (progressive_readBasicPart _) failed⟩

/-! ## Reading a text of one line -/

/-- A text is returned when a quote comes after a body, unless a code in the body is a fault. -/
theorem Body.read (between : quotes.Body body) (later : List Char) (line : Nat) :
    (∃ content after, quotes.read ⟨quotes.mark :: (body ++ quotes.mark :: later), line⟩ =
        .ok (content, after) ∧ after.rest = later) ∨
      ∃ fault, quotes.Miscoded (body ++ quotes.mark :: later) fault ∧
        quotes.read ⟨quotes.mark :: (body ++ quotes.mark :: later), line⟩ = .error fault := by
  cases quotes with
  | double =>
      have opened : (⟨'"' :: (body ++ '"' :: later), line⟩ : Cursor).advance 1 =
          ⟨body ++ '"' :: later, line⟩ := advance_one_cons rfl
      simp only [LineQuotes.read, mark, readBasic, opened]
      have on : GoesOn line ⟨body ++ '"' :: later, line⟩ ('"' :: later) := between.goesOn rfl
      rcases on with ⟨parts, middle, rest, result⟩ | ⟨fault, coded, failed⟩
      · have closed : readBasicPart line middle = .ok (.stop, middle.advance 1) :=
          readBasicPart_quote (by simp [rest])
        refine .inl ⟨parts.flatten, middle.advance 1, ?_, by simp [Cursor.advance, rest]⟩
        rw [result, many_eq (progressive_readBasicPart line), closed]
        simp [Items.result, Except.map]
      · exact .inr ⟨fault, coded, by rw [failed]; rfl⟩
  | single =>
      refine .inl ⟨body, ⟨later, line⟩, ?_, rfl⟩
      refine readLiteral_eq_ok_iff.2 ⟨?_, body_single_iff.1 between, ?_⟩
      · simp [Cursor.advance, mark]
      · rw [mark, advance_one_cons rfl]

/-- A text is unterminated when its line ends after a body, unless a code before that is a fault. -/
theorem Body.read_endsLine {tail : List Char} (between : quotes.Body body)
    (ended : quotes.EndsLine tail) (line : Nat) :
    quotes.read ⟨quotes.mark :: (body ++ tail), line⟩ = .error ⟨.unclosedString, line⟩ ∨
      ∃ fault, quotes.Miscoded (body ++ tail) fault ∧
        quotes.read ⟨quotes.mark :: (body ++ tail), line⟩ = .error fault := by
  cases quotes with
  | double =>
      have opened : (⟨'"' :: (body ++ tail), line⟩ : Cursor).advance 1 = ⟨body ++ tail, line⟩ :=
        advance_one_cons rfl
      simp only [LineQuotes.read, mark, readBasic, opened]
      have on : GoesOn line ⟨body ++ tail, line⟩ tail := between.goesOn rfl
      rcases on with ⟨parts, ⟨rest, middle⟩, rfl, result⟩ | ⟨fault, coded, failed⟩
      · have unclosed : (many (readBasicPart line) ⟨rest, middle⟩).result =
            .error ⟨.unclosedString, line⟩ ∨ ∃ fault, double.Miscoded rest fault ∧
              (many (readBasicPart line) ⟨rest, middle⟩).result = .error fault := by
          cases ended with
          | feed later => exact .inl (many_result_of_error (progressive_readBasicPart _) rfl)
          | text => exact .inl (many_result_of_error (progressive_readBasicPart _) rfl)
          | escape _ formed short => exact result_of_broken_escape formed short
        rcases unclosed with failed | ⟨fault, coded, failed⟩
        · exact .inl (by rw [result, failed]; rfl)
        · exact .inr ⟨fault, coded.append between, by rw [result, failed]; rfl⟩
      · exact .inr ⟨fault, coded, by rw [failed]; rfl⟩
  | single =>
      left
      have literal := body_single_iff.1 between
      have opened : (⟨'\'' :: (body ++ tail), line⟩ : Cursor).advance 1 = ⟨body ++ tail, line⟩ :=
        advance_one_cons rfl
      have stops : Stops isLiteralChar tail := by
        cases ended with
        | feed later => exact stops_cons rfl
        | text => exact stops_nil
        | escape escapes => cases escapes
      have spanned : (body ++ tail).takeWhile (fun char => char != '\'' && char != '\n') = body :=
        takeWhile_of_stops literal stops
      simp only [LineQuotes.read, mark, readLiteral, opened, spanned, List.drop_left]
      cases ended with
      | feed later => rfl
      | text => rfl
      | escape escapes => cases escapes

/-- Either a quote comes after a body, or the line ends after one. -/
theorem exists_body (quotes : LineQuotes) (rest : List Char) :
    (∃ body later, quotes.Body body ∧ rest = body ++ quotes.mark :: later) ∨
      ∃ body tail, quotes.Body body ∧ quotes.EndsLine tail ∧ rest = body ++ tail := by
  generalize bound : rest.length = length
  induction length using Nat.strongRecOn generalizing rest with
  | ind length induction =>
      have goesOn {front text : List Char} (passed : quotes.Body front) (some : 0 < front.length)
          (whole : rest = front ++ text) :
          (∃ body later, quotes.Body body ∧ rest = body ++ quotes.mark :: later) ∨
            ∃ body tail, quotes.Body body ∧ quotes.EndsLine tail ∧ rest = body ++ tail := by
        subst whole
        have shorter : text.length < length := by
          rw [← bound, List.length_append]
          exact Nat.lt_add_of_pos_left some
        rcases induction _ shorter text rfl with
          ⟨body, later, between, rfl⟩ | ⟨body, tail, between, ended, rfl⟩
        · exact .inl ⟨front ++ body, later, passed.append between, by simp⟩
        · exact .inr ⟨front ++ body, tail, passed.append between, ended, by simp⟩
      cases rest with
      | nil => exact .inr ⟨[], [], .nil, .text, rfl⟩
      | cons char rest =>
          by_cases closes : char = quotes.mark
          · exact .inl ⟨[], rest, .nil, by rw [closes]; rfl⟩
          by_cases feed : char = '\n'
          · exact .inr ⟨[], _, .nil, feed ▸ .feed rest, rfl⟩
          by_cases opens : quotes = double ∧ char = '\\'
          · obtain ⟨rfl, rfl⟩ := opens
            rcases exists_isEscape rest with
              ⟨escape, more, whole, formed⟩ | ⟨missing, short, formed⟩
            · have passed : double.Body escape := by simpa using Body.escape rfl formed .nil
              exact goesOn passed formed.length_pos whole
            · exact .inr ⟨[], _, .nil, .escape rfl formed short, rfl⟩
          · refine goesOn (.plain closes feed ?_ .nil) Nat.one_pos rfl
            exact fun same opened => opens ⟨same, opened⟩

/-- A text is returned only up to a quote outside of escapes, and the characters before it are on
one line but for the line feeds that its escapes take. A text whose line ends before such a quote is
unterminated where it was opened, and one with such a quote before the end of its line is returned,
unless a code in it is a fault. -/
theorem read_outcome (quotes : LineQuotes) (rest : List Char) (line : Nat) :
    (∀ content after, quotes.read ⟨quotes.mark :: rest, line⟩ = .ok (content, after) →
      ∃ body, quotes.Body body ∧ rest = body ++ quotes.mark :: after.rest ∧
        ('\n' ∈ body → quotes = double ∧ HasEscapedFeed body)) ∧
    (∀ body tail, quotes.Body body → quotes.EndsLine tail → rest = body ++ tail →
      quotes.read ⟨quotes.mark :: rest, line⟩ = .error ⟨.unclosedString, line⟩ ∨
        ∃ fault, quotes.Miscoded rest fault ∧
          quotes.read ⟨quotes.mark :: rest, line⟩ = .error fault) ∧
    (∀ body later, quotes.Body body → rest = body ++ quotes.mark :: later →
      (∃ content after, quotes.read ⟨quotes.mark :: rest, line⟩ = .ok (content, after) ∧
        after.rest = later) ∨
        ∃ fault, quotes.Miscoded rest fault ∧
          quotes.read ⟨quotes.mark :: rest, line⟩ = .error fault) := by
  refine ⟨fun content after returned => ?_, ?_, ?_⟩
  · rcases exists_body quotes rest with
      ⟨body, later, between, rfl⟩ | ⟨body, tail, between, ended, rfl⟩
    · refine ⟨body, between, ?_, between.hasEscapedFeed⟩
      rcases between.read later line with ⟨_, _, read, rfl⟩ | ⟨fault, _, failed⟩
      · rw [returned] at read
        cases read
        rfl
      · rw [returned] at failed
        cases failed
    · rcases between.read_endsLine ended line with failed | ⟨fault, _, failed⟩ <;>
        (rw [returned] at failed; cases failed)
  · rintro body tail between ended rfl
    exact between.read_endsLine ended line
  · rintro body later between rfl
    exact between.read later line

/-- A backslash before a line feed is kept as it is, and a line feed among the digits of a code is
white space around its number: these texts are returned, and end on the line after their first. -/
theorem read_escaped_feed :
    double.read ⟨"\"a\\\nb\"".toList, 1⟩ = .ok ("a\\\nb".toList, ⟨[], 2⟩) ∧
      double.read ⟨"\"\\u041\n\"".toList, 1⟩ = .ok ("A".toList, ⟨[], 2⟩) := by
  decide +kernel

end LineQuotes

end VersionCatalog.Document
