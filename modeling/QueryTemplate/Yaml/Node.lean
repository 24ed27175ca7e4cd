import QueryTemplate.Yaml.Token

/-!
# The tree of a YAML text

The tokens of a text are read as one tree: scalars, sequences and mappings with their tags.
References are replaced by the nodes they refer to. The last node in front of a reference that has
the name counts. A collection has its name already inside itself, and a reference to it there stays
a reference, so that trees are finite. A reference to a name that has not been given is an error,
and so are further documents behind the first.
-/

namespace QueryTemplate.Yaml

/-- The two types of collections. -/
inductive CollectionType where
  | sequence
  | mapping
  deriving DecidableEq

/-- A tree. -/
inductive Node where
  /-- A scalar: its tag, whether its type is to be found from its text, and its text. -/
  | scalar (tag : Option Text) (implicit : Bool) (text : Text)
  /-- A sequence. -/
  | sequence (tag : Option Text) (items : List Node)
  /-- A mapping. -/
  | mapping (tag : Option Text) (entries : List (Node × Node))
  /-- A sequence or a mapping inside itself. -/
  | enclosing (type : CollectionType)
  deriving Inhabited

namespace Node

/-- The node of a place where nothing is written. -/
def empty : Node := .scalar none true []

end Node

/-- The tokens left, and the nodes that have names. -/
structure Reader where
  /-- The tokens left. -/
  tokens : List Token
  /-- The nodes that have names, the last one first. While a collection is still being read, its
  name stands for an enclosing one. -/
  named : List (Text × Node)

namespace Reader

/-- The next token. -/
def head? (r : Reader) : Option Token := r.tokens.head?

/-- The reader behind the next token. -/
def tail (r : Reader) : Reader := { r with tokens := r.tokens.tail }

/-- Whether the next token is one of a list. -/
def atOneOf (r : Reader) (ts : List Token) : Bool :=
  match r.head? with
  | some t => ts.contains t
  | none => false

/-- What is written in front of a node. -/
structure Properties where
  /-- The name. -/
  anchor : Option Text
  /-- The tag. -/
  tag : Option Text

/-- The properties of a node, at most one of each sort, in either order. -/
def properties (r : Reader) : Properties × Reader :=
  match r.tokens with
  | .anchor a :: .tag t :: rest => (⟨some a, some t⟩, { r with tokens := rest })
  | .tag t :: .anchor a :: rest => (⟨some a, some t⟩, { r with tokens := rest })
  | .anchor a :: rest => (⟨some a, none⟩, { r with tokens := rest })
  | .tag t :: rest => (⟨none, some t⟩, { r with tokens := rest })
  | _ => (⟨none, none⟩, r)

/-- The tag that says nothing. -/
def silentTag : Text := ['!']

/-- The tag of a collection. -/
def collectionTag (tag : Option Text) : Option Text :=
  if tag = some silentTag then none else tag

/-- A scalar with its tag. Its type is found from its text if it is plain and has no tag, or if its
tag says nothing. -/
def scalarNode (tag : Option Text) (text : Text) (plain : Bool) : Node :=
  if tag = some silentTag then .scalar none true text else .scalar tag (plain && tag.isNone) text

/-- The node that a name refers to. -/
def named? (r : Reader) (name : Text) : Option Node := r.named.lookup name

/-- A name is given to a node. -/
def name (r : Reader) (anchor : Option Text) (n : Node) : Reader :=
  match anchor with
  | none => r
  | some a => { r with named := (a, n) :: r.named }

/-- A name is given to a collection that is yet to be read. -/
def announce (r : Reader) (anchor : Option Text) (type : CollectionType) : Reader :=
  r.name anchor (.enclosing type)

/-- The collection that was announced last under a name is there. -/
def settle (a : Text) (n : Node) : List (Text × Node) → List (Text × Node)
  | [] => []
  | (b, .enclosing type) :: rest =>
    if b = a then (b, n) :: rest else (b, .enclosing type) :: settle a n rest
  | (b, m) :: rest => (b, m) :: settle a n rest

/-- A collection has been read. -/
def finish (r : Reader) (anchor : Option Text) (n : Node) : Node × Reader :=
  match anchor with
  | none => (n, r)
  | some a => (n, { r with named := settle a n r.named })

/-- The node of properties without content. -/
def bare (r : Reader) (p : Properties) : Option (Node × Reader) :=
  if p.anchor.isSome || p.tag.isSome then
    let n := scalarNode p.tag [] true
    some (n, r.name p.anchor n)
  else none

/-- What may follow an entry or a key inside a block where nothing is written. -/
def blockEnds : List Token := [.blockEntry, .key, .value, .blockEnd]

/-- What may follow a key or a value inside a block mapping where nothing is written. -/
def mappingEnds : List Token := [.key, .value, .blockEnd]

mutual

/-- A node, in a block or inside brackets. In a mapping a sequence may begin without being indented
more than the mapping. -/
def node (fuel : Nat) (block indentless : Bool) (r : Reader) : Option (Node × Reader) :=
  match fuel with
  | 0 => none
  | fuel + 1 =>
    match r.tokens with
    | .alias a :: rest => (r.named? a).map fun n => (n, { r with tokens := rest })
    | _ => do
      let (p, r) := r.properties
      let tag := collectionTag p.tag
      match r.head? with
      | some .blockEntry =>
        if indentless then
          let (items, r) ← indentlessItems fuel (r.announce p.anchor .sequence)
          return r.finish p.anchor (.sequence tag items)
        else r.bare p
      | some (.scalar text plain) =>
        let n := scalarNode p.tag text plain
        return (n, r.tail.name p.anchor n)
      | some .flowSequenceStart =>
        let (items, r) ← flowItems fuel true (r.tail.announce p.anchor .sequence)
        return r.finish p.anchor (.sequence tag items)
      | some .flowMappingStart =>
        let (entries, r) ← flowEntries fuel true (r.tail.announce p.anchor .mapping)
        return r.finish p.anchor (.mapping tag entries)
      | some .blockSequenceStart =>
        if block then
          let (items, r) ← blockItems fuel (r.tail.announce p.anchor .sequence)
          return r.finish p.anchor (.sequence tag items)
        else r.bare p
      | some .blockMappingStart =>
        if block then
          let (entries, r) ← blockEntries fuel (r.tail.announce p.anchor .mapping)
          return r.finish p.anchor (.mapping tag entries)
        else r.bare p
      | _ => r.bare p

/-- The items of a block sequence, up to its end. -/
def blockItems (fuel : Nat) (r : Reader) : Option (List Node × Reader) :=
  match fuel with
  | 0 => none
  | fuel + 1 =>
    match r.head? with
    | some .blockEnd => some ([], r.tail)
    | some .blockEntry => do
      let (item, r) ←
        if r.tail.atOneOf [.blockEntry, .blockEnd] then some (Node.empty, r.tail)
        else node fuel true false r.tail
      let (items, r) ← blockItems fuel r
      return (item :: items, r)
    | _ => none

/-- The items of a sequence that is indented like the mapping around it. -/
def indentlessItems (fuel : Nat) (r : Reader) : Option (List Node × Reader) :=
  match fuel with
  | 0 => none
  | fuel + 1 =>
    match r.head? with
    | some .blockEntry => do
      let (item, r) ←
        if r.tail.atOneOf blockEnds then some (Node.empty, r.tail) else node fuel true false r.tail
      let (items, r) ← indentlessItems fuel r
      return (item :: items, r)
    | _ => some ([], r)

/-- The entries of a block mapping, up to its end. A value may stand without a key. -/
def blockEntries (fuel : Nat) (r : Reader) : Option (List (Node × Node) × Reader) :=
  match fuel with
  | 0 => none
  | fuel + 1 =>
    match r.head? with
    | some .blockEnd => some ([], r.tail)
    | some .value => do
      let (value, r) ← blockValue fuel r
      let (entries, r) ← blockEntries fuel r
      return ((Node.empty, value) :: entries, r)
    | some .key => do
      let (key, r) ←
        if r.tail.atOneOf mappingEnds then some (Node.empty, r.tail) else node fuel true true r.tail
      let (value, r) ← blockValue fuel r
      let (entries, r) ← blockEntries fuel r
      return ((key, value) :: entries, r)
    | _ => none

/-- The value of an entry of a block mapping, which may be left out. -/
def blockValue (fuel : Nat) (r : Reader) : Option (Node × Reader) :=
  match fuel with
  | 0 => none
  | fuel + 1 =>
    if r.head? = some .value then
      if r.tail.atOneOf mappingEnds then some (Node.empty, r.tail) else node fuel true true r.tail
    else some (Node.empty, r)

/-- The items of a sequence in brackets, up to its end. An item may be a mapping of one pair. -/
def flowItems (fuel : Nat) (first : Bool) (r : Reader) : Option (List Node × Reader) :=
  match fuel with
  | 0 => none
  | fuel + 1 =>
    match r.head? with
    | some .flowSequenceEnd => some ([], r.tail)
    | _ => do
      let r ← if first then some r else if r.head? = some .flowEntry then some r.tail else none
      match r.head? with
      | some .flowSequenceEnd => return ([], r.tail)
      | some .key =>
        let (key, r) ←
          if r.tail.atOneOf [.value, .flowEntry, .flowSequenceEnd] then some (Node.empty, r.tail)
          else node fuel false false r.tail
        let (value, r) ← flowValue fuel .flowSequenceEnd r
        let (items, r) ← flowItems fuel false r
        return (.mapping none [(key, value)] :: items, r)
      | _ =>
        let (item, r) ← node fuel false false r
        let (items, r) ← flowItems fuel false r
        return (item :: items, r)

/-- The value of a pair in brackets, which may be left out. -/
def flowValue (fuel : Nat) (close : Token) (r : Reader) : Option (Node × Reader) :=
  match fuel with
  | 0 => none
  | fuel + 1 =>
    if r.head? = some .value then
      if r.tail.atOneOf [.flowEntry, close] then some (Node.empty, r.tail)
      else node fuel false false r.tail
    else some (Node.empty, r)

/-- The entries of a mapping in brackets, up to its end. A key may stand without a value, and a
value without a key. -/
def flowEntries (fuel : Nat) (first : Bool) (r : Reader) : Option (List (Node × Node) × Reader) :=
  match fuel with
  | 0 => none
  | fuel + 1 =>
    match r.head? with
    | some .flowMappingEnd => some ([], r.tail)
    | _ => do
      let r ← if first then some r else if r.head? = some .flowEntry then some r.tail else none
      match r.head? with
      | some .flowMappingEnd => return ([], r.tail)
      | some .value =>
        let (value, r) ← flowValue fuel .flowMappingEnd r
        let (entries, r) ← flowEntries fuel false r
        return ((Node.empty, value) :: entries, r)
      | some .key =>
        let (key, r) ←
          if r.tail.atOneOf [.value, .flowEntry, .flowMappingEnd] then some (Node.empty, r.tail)
          else node fuel false false r.tail
        let (value, r) ← flowValue fuel .flowMappingEnd r
        let (entries, r) ← flowEntries fuel false r
        return ((key, value) :: entries, r)
      | _ =>
        let (key, r) ← node fuel false false r
        let (entries, r) ← flowEntries fuel false r
        return ((key, Node.empty) :: entries, r)

end

/-- The tree of the only document; nothing if there is no document. -/
def document (fuel : Nat) (r : Reader) : Option (Option Node) := do
  let explicit := r.head? = some .documentStart
  let r := if explicit then r.tail else r
  if r.tokens.isEmpty && !explicit then return none
  else
    let (n, r) ←
      if r.tokens.isEmpty || r.atOneOf [.documentStart, .documentEnd] && explicit then
        some (Node.empty, r)
      else node fuel true false r
    match r.tokens with
    | [] | [.documentEnd] => return some n
    | _ => none

end Reader

/-- The tree of a text; nothing inside if the text holds no document. Every step of the reading
takes a token or goes one level down, so the fuel lasts. -/
def document (t : Text) : Except Fault (Option Node) := do
  let ts ← tokens t
  Scanner.orInvalid (Reader.document (4 * ts.length + 8) ⟨ts, []⟩)

end QueryTemplate.Yaml
