/-!
# Patterns

A pattern describes the front of a text: characters of a class, parts one after the other, a part
that may be missing, a part any number of times. Where there is a choice, a part is taken rather
than left out, and repeated rather than not. The other ways are tried only when what comes after
does not fit, so the ways to match form a list and the first one counts. A group keeps the text
that it was matched with.
-/

namespace VersionCatalog.Text

/-- A pattern. -/
inductive Pattern where
  /-- One character of a class. -/
  | oneOf (accepts : Char → Bool)
  /-- One part, then another. -/
  | andThen (first second : Pattern)
  /-- A part, or nothing. -/
  | optional (part : Pattern)
  /-- A part any number of times. -/
  | many (part : Pattern)
  /-- A part whose text is kept. -/
  | group (part : Pattern)

/-- What a pattern was matched with: the texts of its groups, and what is left of the text. -/
structure Match where
  groups : List (List Char)
  rest : List Char
deriving DecidableEq, Repr

/-- Two matches, one after the other. -/
def Match.followedBy (earlier later : Match) : Match :=
  ⟨earlier.groups ++ later.groups, later.rest⟩

namespace Pattern

/-- One character. -/
def mark (char : Char) : Pattern := .oneOf (· == char)

/-- A part at least once. -/
def atLeastOnce (part : Pattern) : Pattern := .andThen part (.many part)

/-- The ways to match a part repeatedly, more rounds before fewer. A round that takes nothing is
none, so there are no more rounds than characters. -/
def rounds (matched : List Char → List Match) : Nat → List Char → List Match
  | 0, text => [⟨[], text⟩]
  | rounds + 1, text =>
      ((matched text).filter fun once => once.rest.length < text.length).flatMap
        (fun once => (Pattern.rounds matched rounds once.rest).map once.followedBy) ++ [⟨[], text⟩]

/-- The ways to match a pattern with the front of a text, in the order in which they are tried. -/
def matched : Pattern → List Char → List Match
  | oneOf _, [] => []
  | oneOf accepts, char :: rest => if accepts char then [⟨[], rest⟩] else []
  | andThen first second, text =>
      (first.matched text).flatMap fun earlier =>
        (second.matched earlier.rest).map earlier.followedBy
  | optional part, text => part.matched text ++ [⟨[], text⟩]
  | many part, text => rounds part.matched text.length text
  | group part, text =>
      (part.matched text).map fun inside =>
        ⟨text.take (text.length - inside.rest.length) :: inside.groups, inside.rest⟩

/-- The first way to match a pattern with the front of a text. -/
def match? (pattern : Pattern) (text : List Char) : Option Match :=
  (pattern.matched text).head?

/-- The end of a text, a line feed right before it not counting. -/
def isEnd (rest : List Char) : Bool :=
  rest.isEmpty || rest == ['\n']

/-- The first way to match a pattern up to the end of a text. -/
def matchLine? (pattern : Pattern) (text : List Char) : Option Match :=
  (pattern.matched text).find? (isEnd ·.rest)

/-- The matches found from left to right, none of which begins inside another. The first `skipped`
characters belong to a match that was found before. -/
def findAllFrom (pattern : Pattern) (skipped : Nat) : List Char → List Match
  | [] => []
  | char :: rest =>
      match skipped with
      | skipped + 1 => findAllFrom pattern skipped rest
      | 0 =>
          match pattern.match? (char :: rest) with
          | none => findAllFrom pattern 0 rest
          | some found =>
              found :: findAllFrom pattern (rest.length - found.rest.length) rest

/-- The matches found from left to right, for a pattern that does not match the empty text. -/
def findAll (pattern : Pattern) (text : List Char) : List Match :=
  findAllFrom pattern 0 text

end Pattern

end VersionCatalog.Text
