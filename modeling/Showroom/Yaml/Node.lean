import Showroom.Binary64.Decimal
import Showroom.Yaml.Token

/-!
# Showroom.Yaml.Node

YAML documents as trees. A plain scalar stands for nothing, a truth value, a whole number or a real
number if it is written like one, and for its text otherwise; a quoted scalar always stands for its
text. A name that is set at a node stands for the same node wherever it is used later.

The nodes in a map are keys and values in turn, but a blank, which stands where a tag asks for
another kind of scalar, cannot be a key: the node after it takes that place.

* `Node.documents`   the documents of a text.
-/

namespace Showroom.Yaml

inductive Node where
  | blank
  | nothing
  | flag (value : Bool)
  | whole (value : Int)
  | real (text : List Char)
  | text (value : List Char)
  | list (items : List Node)
  | map (pairs : List (Node × Node))
deriving Inhabited

namespace Node

/-- The whole number of 64 bits that a text of digits of a base stands for, with or without a
sign. -/
def readWhole (base : Nat) (cs : List Char) : Option Int :=
  let (negative, digits) := match cs with
    | '-' :: ds => (true, ds)
    | '+' :: ds => (false, ds)
    | ds => (false, ds)
  if digits.isEmpty then none
  else match digits.mapM Bytes.hexValue? with
    | none => none
    | some ds =>
      let n : Int := (ds.foldl (fun v d => base * v + d) 0 : Nat)
      let n := if negative then -n else n
      if ds.all (· < base) && -0x8000000000000000 ≤ n && n < 0x8000000000000000 then some n else none

/-- The names of infinities and of what is not a number. -/
def specialReals : List String :=
  [".inf", ".Inf", ".INF", "+.inf", "+.Inf", "+.INF", "-.inf", "-.Inf", "-.INF", ".nan", "NaN",
   ".NAN"]

def isReal (cs : List Char) : Bool :=
  specialReals.contains (String.ofList cs) || (Binary64.ofDecimal? cs).isSome

/-- A whole number in one of its notations: `0x` and sixteen digits, `0o` and eight, or a plus sign
and ten. -/
def ofNotation (cs : List Char) : Option Int :=
  match cs with
  | '0' :: 'x' :: ds => readWhole 16 ds
  | '0' :: 'o' :: ds => readWhole 8 ds
  | '+' :: ds => readWhole 10 ds
  | _ => none

def ofPlain (cs : List Char) : Node :=
  match ofNotation cs with
  | some n => whole n
  | none =>
    if cs = "~".toList ∨ cs = "null".toList then nothing
    else if cs = "true".toList then flag true
    else if cs = "false".toList then flag false
    else match readWhole 10 cs with
      | some n => whole n
      | none => if isReal cs then real cs else text cs

/-- What a plain scalar stands for whose kind is given by a tag. -/
def ofTagged (kind cs : List Char) : Node :=
  if kind = "bool".toList then
    if cs = "true".toList then flag true else if cs = "false".toList then flag false else blank
  else if kind = "int".toList then (readWhole 10 cs).elim blank whole
  else if kind = "float".toList then if isReal cs then real cs else blank
  else if kind = "null".toList then
    if cs = "~".toList ∨ cs = "null".toList then nothing else blank
  else text cs

def ofScalar (isPlain : Bool) (tag : Option (List Char × List Char)) (cs : List Char) : Node :=
  if !isPlain then text cs
  else match tag with
    | none => ofPlain cs
    | some (handle, kind) => if handle = ['!', '!'] then ofTagged kind cs else text cs

def isBlankNode : Node → Bool
  | blank => true
  | _ => false

def isText (cs : List Char) : Node → Bool
  | text value => value = cs
  | _ => false

/-- The pairs of keys and values that nodes in a row make up. A key without a value is left out. -/
def pairUp (key : Option Node) : List Node → List (Node × Node)
  | [] => []
  | n :: ns =>
    match key with
    | none => if n.isBlankNode then pairUp none ns else pairUp (some n) ns
    | some k => (k, n) :: pairUp none ns

def ofPairs (pairs : List (Node × Node)) : Node := map (pairUp none (pairs.flatMap fun p => [p.1, p.2]))

/-- The nodes that have names, the latest first. -/
abbrev Names := List (List Char × Node)

/-- Gives the name that was set when there were `count` names the node it stands for. Until then it
stands for a blank. -/
def fillName (count : Nat) (n : Node) (names : Names) : Names :=
  names.modify (names.length - 1 - count) fun entry => (entry.1, n)

/-- What has been read, the tokens after it, and the names known there. -/
abbrev Read (α : Type) := α × List Token × Names

/-- The name and the tag in front of a node, in either order. -/
def properties : List Token → Option (List Char) × Option (List Char × List Char) × List Token
  | .anchor name :: .tag handle kind :: ts => (some name, some (handle, kind), ts)
  | .tag handle kind :: .anchor name :: ts => (some name, some (handle, kind), ts)
  | .anchor name :: ts => (some name, none, ts)
  | .tag handle kind :: ts => (none, some (handle, kind), ts)
  | ts => (none, none, ts)

mutual

/-- Reads a node. In a flow collection it cannot be a block collection; `asEntries` says that a list
may stand without being indented further. -/
def readNode (inBlock asEntries : Bool) : (fuel : Nat) → List Token → Names → Option (Read Node)
  | 0, _, _ => none
  | _ + 1, .alias name :: ts, names => (names.lookup name).map fun n => (n, ts, names)
  | fuel + 1, ts, names =>
    let count := names.length
    let (name, tag, ts) := properties ts
    let known := match name with
      | some name => (name, blank) :: names
      | none => names
    match readContent inBlock asEntries tag (name.isSome || tag.isSome) fuel ts known with
    | none => none
    | some (n, ts, names) =>
      some (n, ts, if name.isSome then fillName count n names else names)

def readContent (inBlock asEntries : Bool) (tag : Option (List Char × List Char))
    (mayBeEmpty : Bool) : (fuel : Nat) → List Token → Names → Option (Read Node)
  | 0, _, _ => none
  | fuel + 1, ts, names =>
    match ts with
    | .scalar isPlain cs :: ts => some (ofScalar isPlain tag cs, ts, names)
    | .flowListStart :: ts => (readFlowList true fuel ts names).map fun r => (list r.1, r.2)
    | .flowMapStart :: ts => (readFlowMap true fuel ts names).map fun r => (ofPairs r.1, r.2)
    | .entry :: _ =>
      if asEntries then (readEntries fuel ts names).map fun r => (list r.1, r.2)
      else if mayBeEmpty then some (ofScalar true tag [], ts, names)
      else none
    | .listStart :: rest =>
      if inBlock then (readList fuel rest names).map fun r => (list r.1, r.2)
      else if mayBeEmpty then some (ofScalar true tag [], ts, names)
      else none
    | .mapStart :: rest =>
      if inBlock then (readMap fuel rest names).map fun r => (ofPairs r.1, r.2)
      else if mayBeEmpty then some (ofScalar true tag [], ts, names)
      else none
    | _ => if mayBeEmpty then some (ofScalar true tag [], ts, names) else none

/-- Reads the entries of a list that is not indented further than the map it is in. -/
def readEntries : (fuel : Nat) → List Token → Names → Option (Read (List Node))
  | 0, _, _ => none
  | fuel + 1, .entry :: ts, names => do
    let (n, ts, names) ← match ts with
      | .entry :: _ => some (nothing, ts, names)
      | .key :: _ => some (nothing, ts, names)
      | .value :: _ => some (nothing, ts, names)
      | .blockEnd :: _ => some (nothing, ts, names)
      | _ => readNode true false fuel ts names
    let (items, ts, names) ← readEntries fuel ts names
    return (n :: items, ts, names)
  | _ + 1, ts, names => some ([], ts, names)

def readList : (fuel : Nat) → List Token → Names → Option (Read (List Node))
  | 0, _, _ => none
  | _ + 1, .blockEnd :: ts, names => some ([], ts, names)
  | fuel + 1, .entry :: ts, names => do
    let (n, ts, names) ← match ts with
      | .entry :: _ => some (nothing, ts, names)
      | .blockEnd :: _ => some (nothing, ts, names)
      | _ => readNode true false fuel ts names
    let (items, ts, names) ← readList fuel ts names
    return (n :: items, ts, names)
  | _ + 1, _, _ => none

/-- Reads a key or a value of a block map, which may be missing. -/
def readPart : (fuel : Nat) → List Token → Names → Option (Read Node)
  | 0, _, _ => none
  | fuel + 1, ts, names =>
    match ts with
    | .key :: _ => some (nothing, ts, names)
    | .value :: _ => some (nothing, ts, names)
    | .blockEnd :: _ => some (nothing, ts, names)
    | _ => readNode true true fuel ts names

def readMap : (fuel : Nat) → List Token → Names → Option (Read (List (Node × Node)))
  | 0, _, _ => none
  | _ + 1, .blockEnd :: ts, names => some ([], ts, names)
  | fuel + 1, ts, names => do
    let (k, ts, names) ← match ts with
      | .key :: ts => readPart fuel ts names
      | .value :: _ => some (nothing, ts, names)
      | _ => none
    let (v, ts, names) ← match ts with
      | .value :: ts => readPart fuel ts names
      | _ => some (nothing, ts, names)
    let (pairs, ts, names) ← readMap fuel ts names
    return ((k, v) :: pairs, ts, names)

/-- Reads the items of a flow list to its end. A pair without braces is a map of its own. -/
def readFlowList (isFirst : Bool) : (fuel : Nat) → List Token → Names → Option (Read (List Node))
  | 0, _, _ => none
  | _ + 1, .flowListEnd :: ts, names => some ([], ts, names)
  | fuel + 1, ts, names => do
    let ts ← if isFirst then some ts else match ts with
      | .comma :: ts => some ts
      | _ => none
    match ts with
    | .flowListEnd :: ts => return ([], ts, names)
    | .key :: ts =>
      let (k, ts, names) ← match ts with
        | .value :: ts => some (nothing, ts, names)
        | .comma :: ts => some (nothing, ts, names)
        | .flowListEnd :: ts => some (nothing, ts, names)
        | _ => readNode false false fuel ts names
      let (v, ts, names) ← match ts with
        | .value :: .comma :: ts => some (nothing, .comma :: ts, names)
        | .value :: .flowListEnd :: ts => some (nothing, .flowListEnd :: ts, names)
        | .value :: ts => readNode false false fuel ts names
        | _ => some (nothing, ts, names)
      let (items, ts, names) ← readFlowList false fuel ts names
      return (ofPairs [(k, v)] :: items, ts, names)
    | _ =>
      let (n, ts, names) ← readNode false false fuel ts names
      let (items, ts, names) ← readFlowList false fuel ts names
      return (n :: items, ts, names)

def readFlowValue : (fuel : Nat) → List Token → Names → Option (Read Node)
  | 0, _, _ => none
  | fuel + 1, ts, names =>
    match ts with
    | .value :: .comma :: ts => some (nothing, .comma :: ts, names)
    | .value :: .flowMapEnd :: ts => some (nothing, .flowMapEnd :: ts, names)
    | .value :: ts => readNode false false fuel ts names
    | _ => some (nothing, ts, names)

def readFlowMap (isFirst : Bool) : (fuel : Nat) → List Token → Names → Option (Read (List (Node × Node)))
  | 0, _, _ => none
  | _ + 1, .flowMapEnd :: ts, names => some ([], ts, names)
  | fuel + 1, ts, names => do
    let ts ← if isFirst then some ts else match ts with
      | .comma :: ts => some ts
      | _ => none
    match ts with
    | .flowMapEnd :: ts => return ([], ts, names)
    | .key :: ts =>
      let (k, ts, names) ← match ts with
        | .value :: _ => some (nothing, ts, names)
        | .comma :: _ => some (nothing, ts, names)
        | .flowMapEnd :: _ => some (nothing, ts, names)
        | _ => readNode false false fuel ts names
      let (v, ts, names) ← readFlowValue fuel ts names
      let (pairs, ts, names) ← readFlowMap false fuel ts names
      return ((k, v) :: pairs, ts, names)
    | .value :: _ =>
      let (v, ts, names) ← readFlowValue fuel ts names
      let (pairs, ts, names) ← readFlowMap false fuel ts names
      return ((nothing, v) :: pairs, ts, names)
    | _ =>
      let (k, ts, names) ← readNode false false fuel ts names
      let (pairs, ts, names) ← readFlowMap false fuel ts names
      return ((k, nothing) :: pairs, ts, names)

end

/-- Reads the content of a document, which may be missing after an explicit start. -/
def readDocument (fuel : Nat) (ts : List Token) : Option (Read Node) :=
  match ts with
  | [] => some (nothing, ts, [])
  | .directive :: _ => some (nothing, ts, [])
  | .documentStart :: _ => some (nothing, ts, [])
  | .documentEnd :: _ => some (nothing, ts, [])
  | _ => readNode true false fuel ts []

/-- Reads documents to the end. Only the first may come without an explicit start. -/
def readDocuments (isFirst : Bool) : (fuel : Nat) → List Token → Option (List Node)
  | 0, _ => none
  | fuel + 1, ts => do
    let ts := if isFirst then ts else ts.dropWhile (· = .documentEnd)
    if ts.isEmpty then return []
    let isExplicit := !isFirst || ts.head? = some .directive || ts.head? = some .documentStart
    let ts ← if !isExplicit then some ts else match ts.dropWhile (· = .directive) with
      | .documentStart :: ts => some ts
      | _ => none
    let (n, ts, _) ← if isExplicit then readDocument (8 * fuel) ts
      else readNode true false (8 * fuel) ts []
    let ts := match ts with
      | .documentEnd :: ts => ts
      | _ => ts
    return n :: (← readDocuments false fuel ts)

def documents (text : List Char) : Option (List Node) := do
  let tokens ← Token.scan text
  readDocuments true (tokens.length + 2) tokens

end Node

end Showroom.Yaml
