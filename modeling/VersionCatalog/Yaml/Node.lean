import VersionCatalog.Yaml.Scalar

/-!
# Nodes of a settings file

A settings file is first put together from words and texts between quotes, and then given its datum,
level by level: all items and pairs of one level come before those inside of them. So of several
faults the one of the least depth is reported, and of those the first.
-/

namespace VersionCatalog.Yaml

/-- What is written in a settings file. -/
inductive Node where
  /-- A text without quotes. -/
  | word (content : String)
  | quoted (content : String)
  | list (items : List Node)
  | mapping (pairs : List (Node × Node))
  /-- A mapping that takes over pairs from something else than mappings. -/
  | misfit

namespace Node

/-- Where nothing is written. -/
def blank : Node := word ""

def isWord (expected : String) : Node → Bool
  | word content => content == expected
  | _ => false

/-- The pairs of a mapping. -/
def pairs? : Node → Option (List (Node × Node))
  | mapping pairs => some pairs
  | _ => none

/-- The pairs that a mapping takes over from a mapping or from a list of mappings, in which earlier
mappings come last, so that their values count. -/
def mergedPairs? : Node → Option (List (Node × Node))
  | list items => (items.mapM pairs?).map fun mappings => mappings.reverse.flatten
  | node => node.pairs?

/-- The mapping of some pairs. The pairs that are taken over come before its own, whose values
count. -/
def ofPairs (pairs : List (Node × Node)) : Node :=
  let (merges, own) := pairs.partition fun pair => pair.1.isWord mergeWord
  match merges.mapM fun pair => pair.2.mergedPairs? with
  | some merged => mapping (merged.flatten ++ own)
  | none => misfit

end Node

/-- A fault at a depth. -/
structure DeepFault where
  /-- How many lists and mappings are around it. -/
  depth : Nat
  fault : Fault
deriving DecidableEq, Repr

/-- Two parts, the first of which stands before the other. If both have faults, the less deep one
counts, and of two as deep the first. -/
def both {α β : Type} (first : Except DeepFault α) (second : Except DeepFault β) :
    Except DeepFault (α × β) :=
  match first, second with
  | .ok left, .ok right => .ok (left, right)
  | .error left, .error right => .error (if right.depth < left.depth then right else left)
  | .error left, .ok _ => .error left
  | .ok _, .error right => .error right

namespace Node

/-- The datum of a key at a depth, which is no list and no mapping. -/
def keyAt (depth : Nat) : Node → Except DeepFault Datum
  | word content =>
      if content == valueWord then .ok (.text content)
      else (datumOfWord content).mapError (DeepFault.mk depth)
  | quoted content => .ok (.text content)
  | _ => .error ⟨depth, .malformed⟩

mutual

def datumAt (depth : Nat) : Node → Except DeepFault Datum
  | word content => (datumOfWord content).mapError (DeepFault.mk depth)
  | quoted content => .ok (.text content)
  | list items => (itemsAt (depth + 1) items).map .list
  | mapping pairs =>
      (pairsAt (depth + 1) pairs).map fun pairs =>
        .mapping (pairs.foldl (fun mapping pair => Datum.setPair pair.1 pair.2 mapping) [])
  | misfit => .error ⟨depth + 1, .malformed⟩

/-- The data of the items of a list at a depth. -/
def itemsAt (depth : Nat) : List Node → Except DeepFault (List Datum)
  | [] => .ok []
  | item :: items =>
      (both (datumAt depth item) (itemsAt depth items)).map fun (item, items) => item :: items

/-- The data of the pairs of a mapping at a depth. -/
def pairsAt (depth : Nat) : List (Node × Node) → Except DeepFault (List (Datum × Datum))
  | [] => .ok []
  | (key, value) :: pairs =>
      (both (both (keyAt depth key) (datumAt depth value)) (pairsAt depth pairs)).map
        fun (pair, pairs) => pair :: pairs

end

def datum (node : Node) : Except Fault Datum :=
  (node.datumAt 0).mapError DeepFault.fault

end Node

end VersionCatalog.Yaml
