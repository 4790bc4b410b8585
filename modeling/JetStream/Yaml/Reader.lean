import JetStream.Yaml.Token

/-!
# Reading YAML

A document is read from its tokens.  Where an item, a name or a value is missing an empty scalar
stands for it.  An alias stands for the node that was last given its name.

Where a text cannot be read, what came before is kept.  What comes before is what can be told
without the place that cannot be read: a scalar on its line is certain once it ends, but that a
value is missing is certain only when the token after its place is.
-/

namespace JetStream.Yaml

/-- A document while it is read. -/
structure Reading where
  tokens : TokenStream
  /-- What the handles of tags stand for. -/
  handles : List (String × String)
  /-- The nodes with names, the last one first; those that are not read to their end have no node
  yet. -/
  anchors : List (String × Option Node)

/-- What was read, and what follows it; nothing follows a place that cannot be read. -/
structure Parsed (α : Type) where
  value : α
  rest : Option Reading

/-- What was read, changed. -/
def Parsed.map {α β : Type} (f : α → β) (parsed : Parsed α) : Parsed β :=
  ⟨f parsed.value, parsed.rest⟩

namespace Reading

/-- The next token. -/
def peek? (r : Reading) : Option (Token × Reading) :=
  r.tokens.peek?.map fun (token, tokens) => (token, { r with tokens })

/-- Takes the next token. -/
def advance (r : Reading) : Reading := { r with tokens := r.tokens.advance }

/-- Gives a name to a node that begins here. -/
def beginNode (name : Option String) (r : Reading) : Reading :=
  { r with anchors := name.toList.map (·, none) ++ r.anchors }

/-- The node that was given a name when so many other nodes had one is this one. -/
def endNode (before : Nat) (name : Option String) (node : Node) (r : Reading) : Reading :=
  match name with
  | some name =>
      { r with anchors := r.anchors.set (r.anchors.length - 1 - before) (name, some node) }
  | none => r

/-- The node of a name, if it is read to its end. -/
def named? (name : String) (r : Reading) : Option Node := (r.anchors.lookup name).join

/-- The tag that is meant, where its handle is known. -/
def meaning? (tag : Tag) (r : Reading) : Option String :=
  if tag.handle = "" then some tag.suffix
  else (r.handles.lookup tag.handle).map (· ++ tag.suffix)

end Reading

/-- What stands before a node. -/
structure Properties where
  anchor : Option String
  tag : Option Tag

/-- The anchor and the tag before a node, in either order, the token behind them, and what
follows. -/
def properties? (r : Reading) : Option (Properties × Token × Reading) := do
  let (token, r) ← r.peek?
  match token with
  | .anchor name => do
      let (token, r) ← r.advance.peek?
      match token with
      | .tag tag => do
          let (token, r) ← r.advance.peek?
          some (⟨some name, some tag⟩, token, r)
      | _ => some (⟨some name, none⟩, token, r)
  | .tag tag => do
      let (token, r) ← r.advance.peek?
      match token with
      | .anchor name => do
          let (token, r) ← r.advance.peek?
          some (⟨some name, some tag⟩, token, r)
      | _ => some (⟨none, some tag⟩, token, r)
  | _ => some (⟨none, none⟩, token, r)

/-- Where a node stands. -/
inductive Place where
  /-- In a flow collection. -/
  | flow
  /-- In a block. -/
  | block
  /-- Beside a name in a block, where items need no indentation of their own. -/
  | entry
  deriving DecidableEq

namespace Token

/-- No item stands before this token of a block sequence. -/
def endsItem : Token → Bool
  | item | blockEnd => true
  | _ => false

/-- No name and no value stands before this token of a block mapping. -/
def endsEntry : Token → Bool
  | key | value | blockEnd => true
  | _ => false

/-- No item stands before this token of a sequence that is not indented. -/
def endsEntryItem (token : Token) : Bool := token.endsItem || token.endsEntry

/-- No value stands before this token of a flow sequence. -/
def endsFlowItem : Token → Bool
  | comma | flowSequenceEnd => true
  | _ => false

/-- No value stands before this token of a flow mapping. -/
def endsFlowEntry : Token → Bool
  | comma | flowMappingEnd => true
  | _ => false

/-- The end of a flow sequence. -/
def isFlowSequenceEnd : Token → Bool
  | flowSequenceEnd => true
  | _ => false

/-- The end of a flow mapping. -/
def isFlowMappingEnd : Token → Bool
  | flowMappingEnd => true
  | _ => false

/-- A colon. -/
def isValue : Token → Bool
  | value => true
  | _ => false

/-- No content of a document stands before this token. -/
def endsContent : Token → Bool
  | directive _ | documentStart | documentEnd | streamEnd => true
  | _ => false

end Token

/-- A part of a list and what `more` reads behind it; nothing is behind a part that is missing or
not read to its end. -/
def Parsed.cons {α : Type} (part : Option (Parsed α)) (more : Reading → Parsed (List α)) :
    Parsed (List α) :=
  match part with
  | none => ⟨[], none⟩
  | some part =>
      match part.rest with
      | none => ⟨[part.value], none⟩
      | some r => (more r).map (part.value :: ·)

/-- A pair of a name and the value that `value` reads behind it. -/
def Parsed.pair (name : Option (Parsed Node)) (value : Reading → Option (Parsed Node)) :
    Option (Parsed (Node × Node)) := do
  let name ← name
  let value ← value (← name.rest)
  some ⟨(name.value, value.value), value.rest⟩

/-- The token that the next part of a flow collection begins with, or the end `isEnd` of the
collection; before all but the first part stands a comma. -/
def afterComma? (isEnd : Token → Bool) (isFirst : Bool) (r : Reading) :
    Option (Token × Reading) := do
  let (token, r) ← r.peek?
  if isFirst || isEnd token then some (token, r)
  else
    match token with
    | .comma => r.advance.peek?
    | _ => none

mutual

/-- The node at a place. -/
def node? (fuel : Nat) (place : Place) (r : Reading) : Option (Parsed Node) :=
  match fuel with
  | 0 => none
  | fuel + 1 => do
      let (properties, token, r) ← properties? r
      let tag ← match properties.tag with
        | some tag => (r.meaning? tag).map some
        | none => some none
      let before := r.anchors.length
      let finish := fun (node : Node) (r : Option Reading) =>
        let node := tag.elim node (Node.tagged · node)
        some (⟨node, r.map (·.endNode before properties.anchor node)⟩ : Parsed Node)
      let r := r.beginNode properties.anchor
      let sequence := fun (items : Parsed (List Node)) => finish (.sequence items.value) items.rest
      let mapping := fun (entries : Parsed (List (Node × Node))) =>
        finish (.mapping entries.value) entries.rest
      let hasProperties := properties.anchor.isSome || properties.tag.isSome
      match token with
      | .alias name =>
          if hasProperties then finish .empty (some r)
          else (r.named? name).map fun node => ⟨node, some r.advance⟩
      | .scalar scalar => finish (.scalar scalar) (some r.advance)
      | .flowSequence => sequence (flowItems fuel true r.advance)
      | .flowMapping => mapping (flowEntries fuel true r.advance)
      | .blockSequence =>
          if place ≠ .flow then sequence (blockItems fuel r.advance)
          else if hasProperties then finish .empty (some r)
          else none
      | .blockMapping =>
          if place ≠ .flow then mapping (blockEntries fuel r.advance)
          else if hasProperties then finish .empty (some r)
          else none
      | .item =>
          if place = .entry then sequence (entryItems fuel r)
          else if hasProperties then finish .empty (some r)
          else none
      | _ => if hasProperties then finish .empty (some r) else none

/-- The node at a place, or an empty one where the next token shows that there is none. -/
def optionalNode? (fuel : Nat) (place : Place) (isMissing : Token → Bool) (r : Reading) :
    Option (Parsed Node) :=
  match fuel with
  | 0 => none
  | fuel + 1 => do
      let (token, r) ← r.peek?
      if isMissing token then some ⟨.empty, some r⟩ else node? fuel place r

/-- The items of a block sequence. -/
def blockItems (fuel : Nat) (r : Reading) : Parsed (List Node) :=
  match fuel with
  | 0 => ⟨[], none⟩
  | fuel + 1 =>
      match r.peek? with
      | some (.item, r) =>
          .cons (optionalNode? fuel .block Token.endsItem r.advance) (blockItems fuel ·)
      | some (.blockEnd, r) => ⟨[], some r.advance⟩
      | _ => ⟨[], none⟩

/-- The items of a sequence beside a name, which are indented no further than the name. -/
def entryItems (fuel : Nat) (r : Reading) : Parsed (List Node) :=
  match fuel with
  | 0 => ⟨[], none⟩
  | fuel + 1 =>
      match r.peek? with
      | some (.item, r) =>
          .cons (optionalNode? fuel .block Token.endsEntryItem r.advance) (entryItems fuel ·)
      | some (_, r) => ⟨[], some r⟩
      | none => ⟨[], none⟩

/-- The value of an entry. -/
def entryValue? (fuel : Nat) (place : Place) (isMissing : Token → Bool) (r : Reading) :
    Option (Parsed Node) :=
  match fuel with
  | 0 => none
  | fuel + 1 => do
      match ← r.peek? with
      | (.value, r) => optionalNode? fuel place isMissing r.advance
      | (_, r) => some ⟨.empty, some r⟩

/-- The entries of a block mapping. -/
def blockEntries (fuel : Nat) (r : Reading) : Parsed (List (Node × Node)) :=
  match fuel with
  | 0 => ⟨[], none⟩
  | fuel + 1 =>
      match r.peek? with
      | some (.key, r) =>
          .cons
            (Parsed.pair (optionalNode? fuel .entry Token.endsEntry r.advance)
              (entryValue? fuel .entry Token.endsEntry ·))
            (blockEntries fuel ·)
      | some (.blockEnd, r) => ⟨[], some r.advance⟩
      | _ => ⟨[], none⟩

/-- The name of a pair in a flow sequence; the token that shows that there is none goes with it. -/
def pairName? (fuel : Nat) (r : Reading) : Option (Parsed Node) :=
  match fuel with
  | 0 => none
  | fuel + 1 => do
      let (token, r) ← r.peek?
      if token.isValue || token.endsFlowItem then some ⟨.empty, some r.advance⟩
      else node? fuel .flow r

/-- The items of a flow sequence; a pair is a mapping of one entry. -/
def flowItems (fuel : Nat) (isFirst : Bool) (r : Reading) : Parsed (List Node) :=
  match fuel with
  | 0 => ⟨[], none⟩
  | fuel + 1 =>
      match afterComma? Token.isFlowSequenceEnd isFirst r with
      | some (.flowSequenceEnd, r) => ⟨[], some r.advance⟩
      | some (.key, r) =>
          .cons
            ((Parsed.pair (pairName? fuel r.advance)
              (entryValue? fuel .flow Token.endsFlowItem ·)).map
                (·.map fun pair => .mapping [pair]))
            (flowItems fuel false ·)
      | some (_, r) => .cons (node? fuel .flow r) (flowItems fuel false ·)
      | none => ⟨[], none⟩

/-- The entries of a flow mapping; a node that is no name before a colon has no value. -/
def flowEntries (fuel : Nat) (isFirst : Bool) (r : Reading) : Parsed (List (Node × Node)) :=
  match fuel with
  | 0 => ⟨[], none⟩
  | fuel + 1 =>
      match afterComma? Token.isFlowMappingEnd isFirst r with
      | some (.flowMappingEnd, r) => ⟨[], some r.advance⟩
      | some (.key, r) =>
          .cons
            (Parsed.pair
              (optionalNode? fuel .flow (fun token => token.isValue || token.endsFlowEntry)
                r.advance)
              (entryValue? fuel .flow Token.endsFlowEntry ·))
            (flowEntries fuel false ·)
      | some (_, r) =>
          .cons
            (Parsed.pair (node? fuel .flow r) fun r => r.peek?.map fun (_, r) => ⟨.empty, some r⟩)
            (flowEntries fuel false ·)
      | none => ⟨[], none⟩

end

/-! ### Documents -/

/-- The version of the language can be read. -/
def isKnownVersion (major minor : Nat) : Bool := major = 1 && (minor = 1 || minor = 2)

/-- Takes in the directives before a document: one version at most, and no handle twice. -/
def directives? : Nat → Bool → Reading → Option Reading
  | 0, _, _ => none
  | fuel + 1, hasVersion, r => do
      let (token, r) ← r.peek?
      match token with
      | .directive (.version major minor) =>
          if hasVersion || !isKnownVersion major minor then none
          else directives? fuel true r.advance
      | .directive (.tagHandle handle meaning) =>
          if (r.handles.lookup handle).isSome then none
          else
            directives? fuel hasVersion
              { r.advance with handles := (handle, meaning) :: r.handles }
      | _ => some r

/-- What the handles mean that no directive declares. -/
def commonHandles : List (String × String) := [("!", "!"), ("!!", "tag:yaml.org,2002:")]

/-- Nothing follows the document but marks of its end. -/
def isFinished : Nat → Reading → Bool
  | 0, _ => false
  | fuel + 1, r =>
      match r.peek? with
      | some (.documentEnd, r) => isFinished fuel r.advance
      | some (.streamEnd, _) => true
      | _ => false

/-- The document that a node makes. -/
def Document.ofParsed (fuel : Nat) (parsed : Option (Parsed Node)) : Document :=
  match parsed with
  | none => ⟨none, false⟩
  | some node => ⟨some node.value, node.rest.any (isFinished fuel)⟩

/-- The document after its directives and the mark of its start. -/
def markedDocument (fuel : Nat) (r : Reading) : Document :=
  match (directives? fuel false r).bind Reading.peek? with
  | some (.documentStart, r) =>
      .ofParsed fuel
        (optionalNode? fuel .block Token.endsContent
          { r.advance with handles := r.handles ++ commonHandles })
  | _ => ⟨none, false⟩

/-- The document that begins here. -/
def Reading.document (fuel : Nat) (r : Reading) : Document :=
  match r.peek? with
  | none => ⟨none, false⟩
  | some (.streamEnd, _) => ⟨none, true⟩
  | some (.directive _, r) | some (.documentStart, r) => markedDocument fuel r
  | some (_, r) => .ofParsed fuel (node? fuel .block { r with handles := commonHandles })

/-- The document of a text; the text may hold no other. -/
def Document.read (text : String) : Document :=
  let cs := unifyBreaks text.toList
  if cs.all isAllowed then
    Reading.document (4 * cs.length + 16) ⟨.ofText cs, [], []⟩
  else ⟨none, false⟩

end JetStream.Yaml
