import VersionCatalog.Yaml.Node
import VersionCatalog.Yaml.Token

/-!
# Reading a settings file

The tokens of a settings file are put together to one node. Where a value is left out, it is blank.
When the tokens end at a place where the text is broken, that fault counts only if the tokens before
it fit together.
-/

namespace VersionCatalog.Yaml

/-- Reads a part of the tokens, giving what stands after it too. -/
abbrev TokenReader (α : Type) := List Token → Except Fault (α × List Token)

/-- Reads a node that may be a list without indentation of its own, or not. -/
abbrev NodeReader := (bareList : Bool) → TokenReader Node

/-- What is wrong when the next token does not fit. -/
def misplaced : List Token → Fault
  | .broken fault :: _ => fault
  | _ => .malformed

/-- Reads a node unless one of the given tokens stands in its place. -/
def readUnless (absent : Token → Bool) (readNode : TokenReader Node) : TokenReader Node
  | [] => .ok (.blank, [])
  | token :: tokens =>
      if absent token then .ok (.blank, token :: tokens) else readNode (token :: tokens)

/-- Reads the items of a list that stand after hyphens. -/
def readBlockItems (readNode : NodeReader) (absent : Token → Bool) (rounds : List Token) :
    TokenReader (List Node)
  | .blockEntry :: tokens =>
      match readUnless absent (readNode false) tokens, rounds with
      | .ok (item, tokens), _ :: rounds =>
          (readBlockItems readNode absent rounds tokens).map fun (items, tokens) =>
            (item :: items, tokens)
      | .error fault, _ => .error fault
      | _, [] => .error .malformed
  | tokens => .ok ([], tokens)

/-- Reads the pairs of an indented mapping. -/
def readBlockPairs (readNode : NodeReader) (rounds : List Token) :
    TokenReader (List (Node × Node))
  | .key :: tokens => do
      let absent (token : Token) : Bool := token == .key || token == .value || token == .blockEnd
      let (key, tokens) ← readUnless absent (readNode true) tokens
      let (value, tokens) ←
        match tokens with
        | .value :: tokens => readUnless absent (readNode true) tokens
        | _ => .ok (.blank, tokens)
      match rounds with
      | _ :: rounds =>
          let (pairs, tokens) ← readBlockPairs readNode rounds tokens
          return ((key, value) :: pairs, tokens)
      | [] => .error .malformed
  | .blockEnd :: tokens => .ok ([], tokens)
  | tokens => .error (misplaced tokens)

/-- Reads the value after a colon, if there is a colon. -/
def readFlowValue (readNode : TokenReader Node) (closing : Token) : TokenReader Node
  | .value :: tokens =>
      readUnless (fun token => token == .flowEntry || token == closing) readNode tokens
  | tokens => .ok (.blank, tokens)

/-- Reads a pair between brackets, the mark of its key having been read. -/
def readFlowPair (readNode : TokenReader Node) (closing : Token) :
    TokenReader (Node × Node) := fun tokens => do
  let absent (token : Token) : Bool :=
    token == .value || token == .flowEntry || token == closing
  let (key, tokens) ← readUnless absent readNode tokens
  let (value, tokens) ← readFlowValue readNode closing tokens
  return ((key, value), tokens)

/-- Reads an item between square brackets; a pair there is a mapping of its own. -/
def readFlowItem (readNode : TokenReader Node) : TokenReader Node
  | .key :: tokens => do
      let (pair, tokens) ← readFlowPair readNode .flowListEnd tokens
      return (.ofPairs [pair], tokens)
  | tokens => readNode tokens

/-- Reads the items up to the closing square bracket. -/
def readFlowItems (readNode : TokenReader Node) (rounds : List Token) : TokenReader (List Node)
  | .flowListEnd :: tokens => .ok ([], tokens)
  | tokens => do
      let (item, tokens) ← readFlowItem readNode tokens
      match tokens, rounds with
      | .flowEntry :: tokens, _ :: rounds =>
          let (items, tokens) ← readFlowItems readNode rounds tokens
          return (item :: items, tokens)
      | .flowListEnd :: tokens, _ => return ([item], tokens)
      | tokens, _ => .error (misplaced tokens)

/-- Reads a pair between braces; a key without a colon has no value. -/
def readFlowMember (readNode : TokenReader Node) : TokenReader (Node × Node)
  | .key :: tokens => readFlowPair readNode .flowMappingEnd tokens
  | tokens => do
      let (key, tokens) ← readNode tokens
      return ((key, .blank), tokens)

/-- Reads the pairs up to the closing brace. -/
def readFlowPairs (readNode : TokenReader Node) (rounds : List Token) :
    TokenReader (List (Node × Node))
  | .flowMappingEnd :: tokens => .ok ([], tokens)
  | tokens => do
      let (pair, tokens) ← readFlowMember readNode tokens
      match tokens, rounds with
      | .flowEntry :: tokens, _ :: rounds =>
          let (pairs, tokens) ← readFlowPairs readNode rounds tokens
          return (pair :: pairs, tokens)
      | .flowMappingEnd :: tokens, _ => return ([pair], tokens)
      | tokens, _ => .error (misplaced tokens)

/-- Whether a token stands in the place of an item of an indented list. -/
def endsBlockItem (token : Token) : Bool :=
  token == .blockEntry || token == .blockEnd

/-- Whether a token stands in the place of an item of a list without indentation of its own. -/
def endsBareItem (token : Token) : Bool :=
  endsBlockItem token || token == .key || token == .value

/-- Reads a node that is nested at most as deep as there are tokens in `depth`. Between brackets,
there are no blocks. -/
def readWithin (depth : List Token) (inFlow bareList : Bool) : TokenReader Node := fun tokens =>
  match tokens, depth with
  | .word content :: tokens, _ => .ok (.word content, tokens)
  | .quoted content :: tokens, _ => .ok (.quoted content, tokens)
  | .flowListStart :: tokens, _ :: depth =>
      (readFlowItems (readWithin depth true false) tokens tokens).map fun (items, tokens) =>
        (.list items, tokens)
  | .flowMappingStart :: tokens, _ :: depth =>
      (readFlowPairs (readWithin depth true false) tokens tokens).map fun (pairs, tokens) =>
        (.ofPairs pairs, tokens)
  | .blockListStart :: tokens, _ :: depth =>
      if inFlow then .error .malformed
      else do
        let (items, tokens) ← readBlockItems (readWithin depth false) endsBlockItem tokens tokens
        match tokens with
        | .blockEnd :: tokens => return (.list items, tokens)
        | tokens => .error (misplaced tokens)
  | .blockMappingStart :: tokens, _ :: depth =>
      if inFlow then .error .malformed
      else
        (readBlockPairs (readWithin depth false) tokens tokens).map fun (pairs, tokens) =>
          (.ofPairs pairs, tokens)
  | .blockEntry :: rest, _ :: depth =>
      if bareList then
        (readBlockItems (readWithin depth false) endsBareItem tokens
          (.blockEntry :: rest)).map fun (items, tokens) => (.list items, tokens)
      else .error .malformed
  | tokens, _ => .error (misplaced tokens)

/-- Whether a token stands in the place of the node of a document. -/
def endsDocument (token : Token) : Bool :=
  token == .documentStart || token == .documentEnd

/-- Reads the node of a document, which may be left out after its mark. -/
def readDocument (depth : List Token) : TokenReader Node
  | [] => .ok (.blank, [])
  | .documentStart :: tokens => readUnless endsDocument (readWithin depth false false) tokens
  | tokens => readWithin depth false false tokens

/-- The node of a settings file, which holds a single document. -/
def nodeOfTokens (tokens : List Token) : Except Fault Node := do
  let (node, tokens) ← readDocument tokens tokens
  match tokens.dropWhile (· == .documentEnd) with
  | [] => return node
  | tokens => .error (misplaced tokens)

/-- The datum of a settings file. -/
def read (text : List Char) : Except Fault Datum := do
  (← nodeOfTokens (tokens text)).datum

end VersionCatalog.Yaml
