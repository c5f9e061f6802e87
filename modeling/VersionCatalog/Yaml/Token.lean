import VersionCatalog.Yaml.Text

/-!
# Tokens of a settings file

The text of a settings file is read as marks and texts. Indentation opens and closes blocks. A text
turns out to be a key only when a colon follows it on its line, so that the mark of the key is put
before it afterwards. Where the text is broken, the tokens before that place are still given as far
as they are settled.
-/

namespace VersionCatalog.Yaml

/-- A mark or a text. -/
inductive Token where
  /-- Three hyphens before a document. -/
  | documentStart
  /-- Three dots after a document. -/
  | documentEnd
  /-- The beginning of an indented list. -/
  | blockListStart
  /-- The beginning of an indented mapping. -/
  | blockMappingStart
  /-- The end of an indented list or mapping. -/
  | blockEnd
  /-- An opening square bracket. -/
  | flowListStart
  /-- A closing square bracket. -/
  | flowListEnd
  /-- An opening brace. -/
  | flowMappingStart
  /-- A closing brace. -/
  | flowMappingEnd
  /-- A comma between brackets. -/
  | flowEntry
  /-- The hyphen of a list item. -/
  | blockEntry
  | key
  /-- The colon after a key. -/
  | value
  /-- A text without quotes. -/
  | word (content : String)
  | quoted (content : String)
  /-- The place from which on no more can be read. -/
  | broken (fault : Fault)
deriving DecidableEq, Repr

/-- A place where a key may turn out to begin. -/
structure Candidate where
  /-- How many tokens stand before the key. -/
  number : Nat
  /-- Whether only a key can stand there. -/
  required : Bool
  /-- Where it begins. -/
  position : Position

/-- What is known after a part of the text. -/
structure Scan where
  position : Position
  /-- The column of the innermost block, or -1 outside of blocks. -/
  indent : Int
  /-- The columns of the blocks around it. -/
  indents : List Int
  /-- Whether a key may begin here. -/
  keyAllowed : Bool
  /-- Where a key may have begun inside the innermost brackets. -/
  candidate : Option Candidate
  /-- Where keys may have begun in the brackets around them, one for every opening bracket. -/
  outer : List (Option Candidate)
  /-- The tokens of that part, the last one first. -/
  tokens : List Token

namespace Scan

/-- The state before a text. -/
def start (text : List Char) : Scan :=
  ⟨Position.start text, -1, [], true, none, [], []⟩

/-- Whether the position is between brackets. -/
def inFlow (scan : Scan) : Bool := !scan.outer.isEmpty

/-- The state with one more token. -/
def push (scan : Scan) (token : Token) : Scan :=
  { scan with tokens := token :: scan.tokens }

/-- The state after characters that make a token. -/
def pushMark (scan : Scan) (token : Token) (length : Nat) : Scan :=
  { scan.push token with position := scan.position.advance length }

/-- Puts tokens before those from a number on. -/
def insert (scan : Scan) (number : Nat) (tokens : List Token) : Scan :=
  let after := scan.tokens.length - number
  { scan with
    tokens := scan.tokens.take after ++ tokens.reverse ++ scan.tokens.drop after }

/-- Gives up the candidate for a key, which is malformed when only a key could stand there. -/
def dropCandidate (scan : Scan) : Option Scan :=
  match scan.candidate with
  | some candidate => if candidate.required then none else some { scan with candidate := none }
  | none => some scan

/-- Whether a candidate lies on another line or too far back. -/
def isStale (scan : Scan) (candidate : Candidate) : Bool :=
  candidate.position.line != scan.position.line ||
    1024 < scan.position.index - candidate.position.index

/-- Gives up the candidates that lie on another line or too far back. -/
def dropStale (scan : Scan) : Option Scan :=
  let stale (candidate : Option Candidate) : Bool := candidate.any scan.isStale
  let refused (candidate : Option Candidate) : Bool :=
    candidate.any fun candidate => scan.isStale candidate && candidate.required
  if (scan.candidate :: scan.outer).any refused then none
  else
    let kept (candidate : Option Candidate) := if stale candidate then none else candidate
    some { scan with candidate := kept scan.candidate, outer := scan.outer.map kept }

/-- Notes that a key may begin here, if one is allowed to. -/
def noteCandidate (scan : Scan) : Option Scan :=
  if scan.keyAllowed then do
    let dropped ← scan.dropCandidate
    let required := !scan.inFlow && scan.indent == scan.position.column
    some { dropped with candidate := some ⟨scan.tokens.length, required, scan.position⟩ }
  else some scan

/-- Closes the blocks that are indented by more than a column. -/
def unwindTo (scan : Scan) (column : Int) : Scan :=
  if scan.inFlow then scan
  else
    let closed := (scan.indent :: scan.indents).takeWhile fun indent => column < indent
    match (scan.indent :: scan.indents).drop closed.length with
    | indent :: indents =>
        { scan with
          indent
          indents
          tokens := closed.map (fun _ => Token.blockEnd) ++ scan.tokens }
    | [] => scan

/-- Opens a block at a column, if that is indented by more than the innermost block. -/
def openBlock? (scan : Scan) (column : Nat) : Option Scan :=
  if scan.indent < column then
    some { scan with indent := column, indents := scan.indent :: scan.indents }
  else none

/-- Opens a block at a column with its mark, if that is indented by more than the innermost one. -/
def openBlock (scan : Scan) (token : Token) : Scan :=
  match scan.openBlock? scan.position.column with
  | some opened => opened.push token
  | none => scan

/-- The state after spaces, comments and line ends. A key may begin on a new line. -/
def skipToToken (rounds : List Char) (scan : Scan) : Scan :=
  let position := scan.position.skipWhile (· == ' ')
  let position :=
    if position.peek? == some '#' then position.skipWhile (!isBreak ·) else position
  match position.rest, rounds with
  | char :: _, _ :: rounds =>
      if isBreak char then
        skipToToken rounds
          { scan with
            position := position.passBreak
            keyAllowed := scan.keyAllowed || !scan.inFlow }
      else { scan with position }
  | _, _ => { scan with position }

/-- Takes a mark between documents, which closes all blocks. -/
def takeDocumentMark (scan : Scan) (token : Token) : Option Scan := do
  let dropped ← (scan.unwindTo (-1)).dropCandidate
  some { dropped.pushMark token 3 with keyAllowed := false }

/-- Takes an opening bracket. -/
def takeOpening (scan : Scan) (token : Token) : Option Scan := do
  let noted ← scan.noteCandidate
  some { noted.pushMark token 1 with
    keyAllowed := true
    candidate := none
    outer := noted.candidate :: noted.outer }

/-- Takes a closing bracket, for which there must be an opening one. -/
def takeClosing (scan : Scan) (token : Token) : Option Scan := do
  let dropped ← scan.dropCandidate
  match dropped.outer with
  | candidate :: outer =>
      some { dropped.pushMark token 1 with keyAllowed := false, candidate, outer }
  | [] => none

def takeComma (scan : Scan) : Option Scan := do
  let dropped ← scan.dropCandidate
  some { dropped.pushMark .flowEntry 1 with keyAllowed := true }

/-- Takes the hyphen of a list item. -/
def takeHyphen (scan : Scan) : Option Scan :=
  if scan.inFlow || !scan.keyAllowed then none
  else do
    let dropped ← (scan.openBlock .blockListStart).dropCandidate
    some { dropped.pushMark .blockEntry 1 with keyAllowed := true }

/-- Takes a colon: what stands before it is a key if one may have begun there. -/
def takeColon (scan : Scan) : Option Scan :=
  match scan.candidate with
  | some candidate =>
      let scan := { scan with candidate := none }
      let scan :=
        if scan.inFlow then scan.insert candidate.number [.key]
        else
          match scan.openBlock? candidate.position.column with
          | some opened => opened.insert candidate.number [.blockMappingStart, .key]
          | none => scan.insert candidate.number [.key]
      some { scan.pushMark .value 1 with keyAllowed := false }
  | none =>
      if scan.inFlow then some { scan.pushMark .value 1 with keyAllowed := false }
      else if !scan.keyAllowed then none
      else
        let opened := scan.openBlock .blockMappingStart
        some { opened.pushMark .value 1 with keyAllowed := true }

/-- Takes the question mark before a key. -/
def takeQuestion (scan : Scan) : Option Scan :=
  if !scan.inFlow && !scan.keyAllowed then none
  else do
    let opened := if scan.inFlow then scan else scan.openBlock .blockMappingStart
    let dropped ← opened.dropCandidate
    some { dropped.pushMark .key 1 with keyAllowed := !scan.inFlow }

/-- Takes a text between quotes. -/
def takeQuoted (scan : Scan) (quote : Char) : Except Fault Scan := do
  let noted ← required scan.noteCandidate
  let (content, position) ← readQuoted quote scan.position
  return { noted.push (.quoted (String.ofList content)) with position, keyAllowed := false }

/-- Whether a text without quotes may begin here. -/
def beginsPlain (inFlow : Bool) (text : List Char) : Bool :=
  match text with
  | [] => false
  | char :: rest =>
      let marks := "-?:,[]\x7b\x7d#&*!|>'\"%@`".toList
      if isGap char || isBreak char then false
      else if marks.contains char then
        !endsWord rest && (char == '-' || (!inFlow && (char == '?' || char == ':')))
      else true

/-- Takes a text without quotes. -/
def takePlain (scan : Scan) : Option Scan :=
  if beginsPlain scan.inFlow scan.position.rest then do
    let noted ← scan.noteCandidate
    let (content, position, ended) :=
      readPlain scan.inFlow (scan.indent + 1) scan.position.rest [] false scan.position
    some { noted.push (.word (String.ofList content)) with position, keyAllowed := ended }
  else none

/-- Takes the next token, which begins with the given character. -/
def takeToken (scan : Scan) (char : Char) (rest : List Char) : Except Fault Scan :=
  if char = '-' ∧ scan.position.column = 0 ∧ atDocumentMark scan.position.rest then
    required (scan.takeDocumentMark .documentStart)
  else if char = '.' ∧ scan.position.column = 0 ∧ atDocumentMark scan.position.rest then
    required (scan.takeDocumentMark .documentEnd)
  else
    match char with
    | '[' => required (scan.takeOpening .flowListStart)
    | '\x7b' => required (scan.takeOpening .flowMappingStart)
    | ']' => required (scan.takeClosing .flowListEnd)
    | '\x7d' => required (scan.takeClosing .flowMappingEnd)
    | ',' => required (if scan.inFlow then scan.takeComma else none)
    | '\'' => scan.takeQuoted '\''
    | '"' => scan.takeQuoted '"'
    | '-' => required (if endsWord rest then scan.takeHyphen else scan.takePlain)
    | '?' => required (if scan.inFlow || endsWord rest then scan.takeQuestion else scan.takePlain)
    | ':' => required (if scan.inFlow || endsWord rest then scan.takeColon else scan.takePlain)
    | _ => required scan.takePlain

/-- The state after the next token, and whether there is one: at the end of the text, only the
blocks are closed. -/
def takeNext (scan : Scan) : Except Fault (Scan × Bool) := do
  let scan ← required (scan.skipToToken scan.position.rest).dropStale
  let scan := scan.unwindTo scan.position.column
  match scan.position.rest with
  | char :: rest => return (← scan.takeToken char rest, true)
  | [] => return (← required (scan.unwindTo (-1)).dropCandidate, false)

/-- The tokens that cannot change any more, since no place of a key before them or at them is
open. -/
def settled (scan : Scan) : List Token :=
  let numbers := (scan.candidate :: scan.outer).filterMap fun candidate =>
    (candidate.filter (!scan.isStale ·)).map Candidate.number
  scan.tokens.reverse.take (numbers.foldl min scan.tokens.length)

/-- Reads tokens until the text ends, or up to the place where it is broken. -/
def run (rounds : List Char) (scan : Scan) : List Token :=
  match scan.takeNext, rounds with
  | .ok (next, true), _ :: rounds => run rounds next
  | .ok (next, _), _ => next.tokens.reverse
  | .error fault, _ => scan.settled ++ [.broken fault]

end Scan

/-- The tokens of a text. A leading byte-order mark does not count. -/
def tokens (text : List Char) : List Token :=
  if text.all isAllowed then
    let text :=
      match text with
      | '\ufeff' :: rest => rest
      | _ => text
    Scan.run text (Scan.start text)
  else [.broken .malformed]

end VersionCatalog.Yaml
