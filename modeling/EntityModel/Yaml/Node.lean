import EntityModel.Yaml.Scalar
import EntityModel.Yaml.Token

/-!
# Nodes of a YAML text

A document as a tree of scalars, lists and mappings, each with its type. An alias stands for the
node with its anchor. Trees are finite: a node that holds an alias of itself would be a value that
contains itself, which no `Value` does, and so the alias stands for an empty node there. What is
said of the values that a document can have is not said of such values.
-/

namespace EntityModel.Yaml

/-- A part of a document. -/
inductive Node where
  | scalar (type : NodeType) (text : String)
  | list (type : NodeType) (items : List Node)
  | map (type : NodeType) (entries : List (Node × Node))
  deriving Repr

/-- The nodes that have an anchor, the latest first. -/
abbrev Anchors := List (String × Node)

namespace Node

def empty : Node := .scalar .null ""

/-! ### Properties -/

/-- The anchor and the tag before a node, in either order, and what follows them. -/
structure Properties where
  anchor : Option String := none
  tag : Option WrittenTag := none
  rest : List Token

/-- The anchor and the tag at the start of the tokens. -/
def properties : List Token → Properties
  | .anchor name :: .tag t :: rest => ⟨some name, some t, rest⟩
  | .tag t :: .anchor name :: rest => ⟨some name, some t, rest⟩
  | .anchor name :: rest => ⟨some name, none, rest⟩
  | .tag t :: rest => ⟨none, some t, rest⟩
  | rest => ⟨none, none, rest⟩

/-- The type of a node that has the given tag, or else the given type. A lone exclamation mark is no
tag of its own. -/
def typeOf (tag : Option String) (type : NodeType) : NodeType :=
  match tag with
  | none | some "!" => type
  | some name => .ofTag name

/-- The type of a scalar: a plain one without a tag, or one with a lone exclamation mark, has the
type that it looks like. -/
def scalarType (tag : Option String) (text : String) (plain : Bool) : NodeType :=
  match tag with
  | none => if plain then .ofPlain text else .text
  | some "!" => .ofPlain text
  | some name => .ofTag name

def Anchors.add (anchor : Option String) (n : Node) (anchors : Anchors) : Anchors :=
  match anchor with
  | none => anchors
  | some name => (name, n) :: anchors

/-! ### Reading -/

/-- What was read, the tokens after it, and the anchors up to there. -/
structure Parsed (α : Type) where
  result : α
  rest : List Token
  anchors : Anchors

/-- Where a node stands. -/
inductive Place where
  | inBrackets | inBlock
  /-- under a key of a block mapping, where the items of a list need not be indented -/
  | underKey
  deriving DecidableEq, Repr

/-- Whether an item of a list that is not indented is empty. -/
def endsItem : List Token → Bool
  | .item :: _ | .key :: _ | .value :: _ | .blockEnd :: _ => true
  | _ => false

/-- Whether a key or a value of a block mapping is empty. -/
def endsEntry : List Token → Bool
  | .key :: _ | .value :: _ | .blockEnd :: _ => true
  | _ => false

/-- Whether a key between brackets is empty. -/
def endsKey (closing : Token) : List Token → Bool
  | .value :: _ | .separator :: _ => true
  | t :: _ => t = closing
  | [] => false

/-- Whether a value between brackets is empty. -/
def endsValue (closing : Token) : List Token → Bool
  | .separator :: _ => true
  | t :: _ => t = closing
  | [] => false

/-- What follows the separator, which stands before every part between brackets but the first. -/
def afterSeparator? (first : Bool) : List Token → Option (List Token)
  | .separator :: rest => if first then some (.separator :: rest) else some rest
  | toks => if first then some toks else none

mutual

def read? (handles : Handles) (place : Place) : Nat → List Token → Anchors → Option (Parsed Node)
  | 0, _, _ => none
  | fuel + 1, toks, anchors => match toks with
    | .alias name :: rest => do return ⟨← anchors.lookup name, rest, anchors⟩
    | toks => do
      let ⟨anchor, written, toks⟩ := properties toks
      let tag ← match written with
        | none => some none
        | some t => some (← t.expand? handles)
      if anchor.any fun name => (anchors.lookup name).isSome then none
      else
        let listType := typeOf tag .list
        let mapType := typeOf tag .map
        let inList := Anchors.add anchor (.list listType []) anchors
        let inMap := Anchors.add anchor (.map mapType []) anchors
        let finish (n : Node) (rest : List Token) (inside : Anchors) : Parsed Node :=
          ⟨n, rest, Anchors.add anchor n inside⟩
        let list (read : Option (Parsed (List Node))) : Option (Parsed Node) :=
          read.map fun p => finish (.list listType p.result) p.rest p.anchors
        let map (read : Option (Parsed (List (Node × Node)))) : Option (Parsed Node) :=
          read.map fun p => finish (.map mapType p.result) p.rest p.anchors
        match toks, place with
        | .item :: _, .underKey => list (readFlushItems? handles fuel toks inList)
        | .scalar text plain :: rest, _ =>
          some (finish (.scalar (scalarType tag text plain) text) rest anchors)
        | .sequenceStart :: rest, _ => list (readParts? handles true fuel rest inList)
        | .mappingStart :: rest, _ => map (readPairs? handles true fuel rest inMap)
        | .blockSequenceStart :: rest, .inBlock | .blockSequenceStart :: rest, .underKey =>
          list (readItems? handles fuel rest inList)
        | .blockMappingStart :: rest, .inBlock | .blockMappingStart :: rest, .underKey =>
          map (readEntries? handles fuel rest inMap)
        | rest, _ =>
          if anchor.isNone && tag.isNone then none
          else some (finish (.scalar (scalarType tag "" true) "") rest anchors)

/-- A node, or the empty one where nothing is written. -/
def readOr? (handles : Handles) (place : Place) (isEmpty : Bool) :
    Nat → List Token → Anchors → Option (Parsed Node)
  | 0, _, _ => none
  | fuel + 1, toks, anchors =>
    if isEmpty then some ⟨empty, toks, anchors⟩ else read? handles place fuel toks anchors

def readItems? (handles : Handles) :
    Nat → List Token → Anchors → Option (Parsed (List Node))
  | 0, _, _ => none
  | fuel + 1, toks, anchors => match toks with
    | .item :: rest => do
      let isEmpty := match rest with
        | .item :: _ | .blockEnd :: _ => true
        | _ => false
      let ⟨n, rest, anchors⟩ ← readOr? handles .inBlock isEmpty fuel rest anchors
      let ⟨ns, rest, anchors⟩ ← readItems? handles fuel rest anchors
      return ⟨n :: ns, rest, anchors⟩
    | .blockEnd :: rest => some ⟨[], rest, anchors⟩
    | _ => none

/-- The items of a block list that is not indented, to the first token that is no item. -/
def readFlushItems? (handles : Handles) :
    Nat → List Token → Anchors → Option (Parsed (List Node))
  | 0, _, _ => none
  | fuel + 1, toks, anchors => match toks with
    | .item :: rest => do
      let ⟨n, rest, anchors⟩ ← readOr? handles .inBlock (endsItem rest) fuel rest anchors
      let ⟨ns, rest, anchors⟩ ← readFlushItems? handles fuel rest anchors
      return ⟨n :: ns, rest, anchors⟩
    | rest => some ⟨[], rest, anchors⟩

/-- The entries of a block mapping, to its end. -/
def readEntries? (handles : Handles) :
    Nat → List Token → Anchors → Option (Parsed (List (Node × Node)))
  | 0, _, _ => none
  | fuel + 1, toks, anchors => match toks with
    | .key :: rest => do
      let ⟨k, rest, anchors⟩ ← readOr? handles .underKey (endsEntry rest) fuel rest anchors
      let ⟨v, rest, anchors⟩ ← match rest with
        | .value :: rest => readOr? handles .underKey (endsEntry rest) fuel rest anchors
        | rest => some ⟨empty, rest, anchors⟩
      let ⟨entries, rest, anchors⟩ ← readEntries? handles fuel rest anchors
      return ⟨(k, v) :: entries, rest, anchors⟩
    | .blockEnd :: rest => some ⟨[], rest, anchors⟩
    | _ => none

/-- The items of a list between brackets, to its bracket; an entry alone is a mapping. -/
def readParts? (handles : Handles) (first : Bool) :
    Nat → List Token → Anchors → Option (Parsed (List Node))
  | 0, _, _ => none
  | fuel + 1, toks, anchors => match toks with
    | .sequenceEnd :: rest => some ⟨[], rest, anchors⟩
    | toks => do match ← afterSeparator? first toks with
      | .sequenceEnd :: rest => return ⟨[], rest, anchors⟩
      | .key :: rest =>
        let ⟨entry, rest, anchors⟩ ← readPair? handles .sequenceEnd fuel rest anchors
        let ⟨ns, rest, anchors⟩ ← readParts? handles false fuel rest anchors
        return ⟨.map .map [entry] :: ns, rest, anchors⟩
      | rest =>
        let ⟨n, rest, anchors⟩ ← read? handles .inBrackets fuel rest anchors
        let ⟨ns, rest, anchors⟩ ← readParts? handles false fuel rest anchors
        return ⟨n :: ns, rest, anchors⟩

/-- The entries of a mapping between braces, to its brace; a node without a colon is a key. -/
def readPairs? (handles : Handles) (first : Bool) :
    Nat → List Token → Anchors → Option (Parsed (List (Node × Node)))
  | 0, _, _ => none
  | fuel + 1, toks, anchors => match toks with
    | .mappingEnd :: rest => some ⟨[], rest, anchors⟩
    | toks => do match ← afterSeparator? first toks with
      | .mappingEnd :: rest => return ⟨[], rest, anchors⟩
      | .key :: rest =>
        let ⟨entry, rest, anchors⟩ ← readPair? handles .mappingEnd fuel rest anchors
        let ⟨entries, rest, anchors⟩ ← readPairs? handles false fuel rest anchors
        return ⟨entry :: entries, rest, anchors⟩
      | rest =>
        let ⟨k, rest, anchors⟩ ← read? handles .inBrackets fuel rest anchors
        let ⟨entries, rest, anchors⟩ ← readPairs? handles false fuel rest anchors
        return ⟨(k, empty) :: entries, rest, anchors⟩

/-- An entry between brackets, after the token that says that it is one. -/
def readPair? (handles : Handles) (closing : Token) :
    Nat → List Token → Anchors → Option (Parsed (Node × Node))
  | 0, _, _ => none
  | fuel + 1, toks, anchors => do
    let ⟨k, rest, anchors⟩ ← readOr? handles .inBrackets (endsKey closing toks) fuel toks anchors
    let ⟨v, rest, anchors⟩ ← match rest with
      | .value :: rest => readOr? handles .inBrackets (endsValue closing rest) fuel rest anchors
      | rest => some ⟨empty, rest, anchors⟩
    return ⟨(k, v), rest, anchors⟩

end

/-! ### Documents -/

/-- The handles that the directives before a document introduce, and what follows the directives.
Each may be introduced once; only version one is supported, stated once. -/
def readDirectives? (version : Bool) (handles : Handles) :
    List Token → Option (Handles × List Token)
  | .directive d :: rest => match d with
    | .version major => if version || major ≠ 1 then none else readDirectives? true handles rest
    | .handle handle expansion =>
      if (handles.lookup handle).isSome then none
      else readDirectives? version ((handle, expansion) :: handles) rest
    | .unknown => readDirectives? version handles rest
  | rest => some (handles ++ Handles.standard, rest)

/-- The node of a document after its opening mark; nothing may be written there. -/
def readContent? (handles : Handles) (fuel : Nat) : List Token → Option (Parsed Node)
  | [] => some ⟨empty, [], []⟩
  | .directive d :: rest => some ⟨empty, .directive d :: rest, []⟩
  | .documentStart :: rest => some ⟨empty, .documentStart :: rest, []⟩
  | .documentEnd :: rest => some ⟨empty, .documentEnd :: rest, []⟩
  | toks => read? handles .inBlock fuel toks []

/-- The node of the only document of a text; none in an empty text. -/
def ofTokens? (toks : List Token) : Option (Option Node) := do
  let fuel := 2 * toks.length + 2
  let finish (p : Parsed Node) : Option (Option Node) :=
    if (p.rest.dropWhile (· = .documentEnd)).isEmpty then some (some p.result) else none
  match toks with
  | [] => some none
  | .directive _ :: _ | .documentStart :: _ => do
    match ← readDirectives? false [] toks with
    | (handles, .documentStart :: rest) => finish (← readContent? handles fuel rest)
    | _ => none
  | _ => finish (← read? Handles.standard .inBlock fuel toks [])

end Node

end EntityModel.Yaml
