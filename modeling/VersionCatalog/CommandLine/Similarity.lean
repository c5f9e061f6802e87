/-!
# Similar words

A word that is not known may have been mistyped. Its similarity to a known word is the number of
characters in common blocks: the longest common block, and then those before and after it.
-/

namespace VersionCatalog.CommandLine

/-- How many characters two texts have in common at their beginning. -/
def commonStart : List Char → List Char → Nat
  | left :: lefts, right :: rights => if left = right then commonStart lefts rights + 1 else 0
  | _, _ => 0

/-- A block that two texts have in common. -/
structure Block where
  /-- How many characters stand before it in the left text. -/
  left : Nat
  /-- How many characters stand before it in the right text. -/
  right : Nat
  /-- How many characters it has. -/
  size : Nat

/-- The longest common block of two texts, of several the one that begins first on the left and then
on the right. -/
def longestBlock (left right : List Char) : Block :=
  let candidates := (List.range left.length).flatMap fun before =>
    (List.range right.length).map fun other =>
      ⟨before, other, commonStart (left.drop before) (right.drop other)⟩
  candidates.foldl (fun best block => if best.size < block.size then block else best) ⟨0, 0, 0⟩

/-- The number of characters in common blocks, found in at most as many rounds as `rounds` has
characters. -/
def commonWithin (rounds left right : List Char) : Nat :=
  match rounds with
  | [] => 0
  | _ :: rounds =>
      let block := longestBlock left right
      if block.size = 0 then 0
      else
        block.size + commonWithin rounds (left.take block.left) (right.take block.right) +
          commonWithin rounds (left.drop (block.left + block.size))
            (right.drop (block.right + block.size))

/-- The number of characters in common blocks. -/
def common (left right : String) : Nat :=
  commonWithin left.toList left.toList right.toList

/-- Whether at least three fifths of the characters of both words are in common blocks. -/
def isSimilar (left right : String) : Bool :=
  3 * (left.length + right.length) ≤ 10 * common left right

/-- Whether a known word is a better match for a word than another, by their similarities. -/
def isBetter (word left right : String) : Bool :=
  let leftScore := common left word * (right.length + word.length)
  let rightScore := common right word * (left.length + word.length)
  rightScore < leftScore || (leftScore == rightScore && decide (right ≤ left))

/-- The known words that a word may stand for, at most three, in alphabetical order. -/
def similarWords (known : List String) (word : String) : List String :=
  let similar := known.filter fun candidate => isSimilar candidate word
  ((similar.mergeSort (isBetter word)).take 3).mergeSort fun left right => decide (left ≤ right)

end VersionCatalog.CommandLine
