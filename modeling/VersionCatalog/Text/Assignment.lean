import VersionCatalog.Text.Alphanumeric
import VersionCatalog.Text.Blank
import VersionCatalog.Text.Pattern

/-!
# Assignments in a plain text

A text can be searched for assignments without regard to its structure: a word, an equals sign, and
possibly a quoted value, with white space of any kind between them. The search goes from left to
right and does not go back behind an assignment that was found.
-/

namespace VersionCatalog.Text

/-- The pattern of a word that is assigned to, `(\w+)\s*=`. -/
def assignedWordPattern : Pattern :=
  .andThen (.group (.atLeastOnce (.oneOf isWord))) <|
    .andThen (.many (.oneOf isBlank)) (.mark '=')

/-- The pattern of a word with a quoted value, `(\w+)\s*=\s*"([^"]+)"`. -/
def quotedAssignmentPattern : Pattern :=
  .andThen assignedWordPattern <| .andThen (.many (.oneOf isBlank)) <|
    .andThen (.mark '"') <| .andThen (.group (.atLeastOnce (.oneOf (· != '"')))) (.mark '"')

/-- The text after a word, white space and an equals sign. -/
def afterEquals? (afterWord : List Char) : Option (List Char) :=
  match stripStart afterWord with
  | '=' :: rest => some rest
  | _ => none

/-- The quoted text that follows an equals sign, which is not empty. -/
def quotedValue? (afterEquals : List Char) : Option (List Char) :=
  match stripStart afterEquals with
  | '"' :: rest =>
      let value := rest.takeWhile (· != '"')
      if value.isEmpty || value.length = rest.length then none else some value
  | _ => none

/-- The words before equals signs. The word that ends here, if any, is given in reverse. -/
def assignedWordsFrom (word : List Char) : List Char → List (List Char)
  | [] => []
  | char :: rest =>
      if isWord char then assignedWordsFrom (char :: word) rest
      else if !word.isEmpty && (afterEquals? (char :: rest)).isSome then
        word.reverse :: assignedWordsFrom [] rest
      else assignedWordsFrom [] rest

/-- The words that are assigned to, in order. -/
def assignedWords (text : List Char) : List (List Char) :=
  assignedWordsFrom [] text

/-- The words that quoted values are assigned to, with the values. The first `skipped` characters
belong to an assignment that was found before; the word that ends here is given in reverse. -/
def quotedAssignmentsFrom (skipped : Nat) (word : List Char) :
    List Char → List (List Char × List Char)
  | [] => []
  | char :: rest =>
      match skipped with
      | skipped + 1 => quotedAssignmentsFrom skipped [] rest
      | 0 =>
          if isWord char then quotedAssignmentsFrom 0 (char :: word) rest
          else if word.isEmpty then quotedAssignmentsFrom 0 [] rest
          else
            match afterEquals? (char :: rest) with
            | none => quotedAssignmentsFrom 0 [] rest
            | some value =>
                match quotedValue? value with
                | none => quotedAssignmentsFrom 0 [] rest
                | some content =>
                    let left := ((stripStart value).drop (content.length + 2)).length
                    (word.reverse, content) ::
                      quotedAssignmentsFrom (rest.length - left) [] rest

/-- The words that quoted values are assigned to, with the values, in order. -/
def quotedAssignments (text : List Char) : List (List Char × List Char) :=
  quotedAssignmentsFrom 0 [] text

end VersionCatalog.Text
