import JetStream.Yaml.Block
import JetStream.Yaml.Node
import JetStream.Yaml.Plain
import JetStream.Yaml.Quoted
import JetStream.Yaml.Tag

/-!
# Tokens of YAML

A document as a row of tokens.  Indentation becomes tokens too: one where a block begins, one where
it ends.

A name before a colon is known for one only when its colon comes: the name's own tokens then stand
behind a token that says so.  A token is therefore not given away as long as it may turn out to
begin such a name, that is as long as the line goes on and no more than 1024 characters follow.  A
node that begins in the column of the entries around it has to be a name.
-/

namespace JetStream.Yaml

/-- A token. -/
inductive Token where
  | directive (value : Directive)
  | documentStart
  | documentEnd
  | streamEnd
  | blockSequence
  | blockMapping
  | blockEnd
  | flowSequence
  | flowSequenceEnd
  | flowMapping
  | flowMappingEnd
  /-- The dash before an item. -/
  | item
  /-- The comma between parts of a flow collection. -/
  | comma
  /-- A name begins. -/
  | key
  /-- The colon after a name. -/
  | value
  | alias (name : String)
  | anchor (name : String)
  | tag (value : Tag)
  | scalar (value : Scalar)

/-- The place of a token that may begin a name. -/
structure NamePlace where
  /-- The number of the token. -/
  number : Nat
  /-- The text cannot be read unless a name begins there. -/
  isRequired : Bool
  start : Position

/-- A document while it is read: the tokens that are known, and the text after them. -/
structure TokenStream where
  here : Position
  /-- The tokens that are known and not yet taken. -/
  queue : List Token
  /-- How many tokens have been taken. -/
  taken : Nat
  /-- The columns of the blocks that are open, the innermost first. -/
  indents : List Nat
  /-- Where a name may have begun, in the innermost collection. -/
  name : Option NamePlace
  /-- The same for the collections around each flow collection that is open. -/
  outerNames : List (Option NamePlace)
  /-- A name may begin here. -/
  allowsName : Bool

namespace TokenStream

/-- The tokens of a text, of which none is known yet. -/
def ofText (cs : List Char) : TokenStream := ⟨.start cs, [], 0, [], none, [], true⟩

/-- Inside of a flow collection. -/
def inFlow (s : TokenStream) : Bool := !s.outerNames.isEmpty

/-- The least column of what belongs to the innermost block. -/
def low (s : TokenStream) : Nat := s.indents.head?.elim 0 (· + 1)

/-- Behind one more token. -/
def push (token : Token) (s : TokenStream) : TokenStream :=
  { s with queue := s.queue ++ [token] }

/-! ### Blocks -/

/-- Opens a block in a column further in than those that are open; its token is the one with the
number given. -/
def openBlock (token : Token) (column number : Nat) (s : TokenStream) : TokenStream :=
  if s.inFlow || column < s.low then s
  else
    { s with
      indents := column :: s.indents
      queue := s.queue.insertIdx (number - s.taken) token }

/-- Opens a block here. -/
def openBlockHere (token : Token) (s : TokenStream) : TokenStream :=
  s.openBlock token s.here.column (s.taken + s.queue.length)

/-- Closes the blocks whose columns pass a test. -/
def closeBlocks (test : Nat → Bool) (s : TokenStream) : TokenStream :=
  if s.inFlow then s
  else
    let closed := s.indents.takeWhile test
    { s with
      indents := s.indents.drop closed.length
      queue := s.queue ++ List.replicate closed.length .blockEnd }

/-! ### Names -/

/-- The name may have begun no longer: its line has ended, or it is too long. -/
def isTooLate (s : TokenStream) (name : NamePlace) : Bool :=
  name.start.line < s.here.line || name.start.index + 1024 < s.here.index

/-- No name has begun in the innermost collection. -/
def dropName? (s : TokenStream) : Option TokenStream :=
  if s.name.any NamePlace.isRequired then none else some { s with name := none }

/-- The names that are too late have not begun. -/
def dropLateNames? (s : TokenStream) : Option TokenStream :=
  if (s.name :: s.outerNames).any fun name =>
      name.any fun name => s.isTooLate name && name.isRequired then none
  else
    let keep := fun (name : Option NamePlace) => name.filter (!s.isTooLate ·)
    some { s with name := keep s.name, outerNames := s.outerNames.map keep }

/-- A name may begin with the next token. -/
def saveName? (s : TokenStream) : Option TokenStream :=
  if s.allowsName then do
    let isRequired := !s.inFlow && s.indents.head? == some s.here.column
    let place : NamePlace := ⟨s.taken + s.queue.length, isRequired, s.here⟩
    let s ← s.dropName?
    some { s with name := some place }
  else some s

/-- The first token may turn out to begin a name. -/
def isHeadOpen (s : TokenStream) : Bool :=
  (s.name :: s.outerNames).any fun name => name.any (·.number = s.taken)

/-! ### Tokens -/

/-- Behind so many characters, which make a token. -/
def pushSkip (token : Token) (length : Nat) (s : TokenStream) : TokenStream :=
  { s.push token with here := s.here.skip length }

/-- The end of the text, on a line of its own. -/
def endText? (s : TokenStream) : Option TokenStream := do
  let here := s.here
  let s := { s with here := if here.column = 0 then here else ⟨[], here.line + 1, 0, here.index⟩ }
  let s ← (s.closeBlocks fun _ => true).dropName?
  some { s.push .streamEnd with allowsName := false }

/-- A directive. -/
def directive? (s : TokenStream) : Option TokenStream := do
  let s ← (s.closeBlocks fun _ => true).dropName?
  let (directive, here) ← Directive.read? s.here.next
  some { s.push (.directive directive) with here, allowsName := false }

/-- The mark at the start or the end of a document. -/
def documentMark? (token : Token) (s : TokenStream) : Option TokenStream := do
  let s ← (s.closeBlocks fun _ => true).dropName?
  some { s.pushSkip token 3 with allowsName := false }

/-- The start of a flow collection, which may as a whole be a name. -/
def openFlow? (token : Token) (s : TokenStream) : Option TokenStream := do
  let s ← s.saveName?
  some
    { s.pushSkip token 1 with
      name := none, outerNames := s.name :: s.outerNames, allowsName := true }

/-- The end of a flow collection. -/
def closeFlow? (token : Token) (s : TokenStream) : Option TokenStream := do
  let s ← s.dropName?
  let s := match s.outerNames with
    | name :: outerNames => { s with name, outerNames }
    | [] => s
  some { s.pushSkip token 1 with allowsName := false }

/-- A comma. -/
def comma? (s : TokenStream) : Option TokenStream := do
  some { (← s.dropName?).pushSkip .comma 1 with allowsName := true }

/-- The dash before an item. -/
def item? (s : TokenStream) : Option TokenStream := do
  if s.inFlow || s.allowsName then
    let s ← (s.openBlockHere .blockSequence).dropName?
    some { s.pushSkip .item 1 with allowsName := true }
  else none

/-- A question mark before a name. -/
def key? (s : TokenStream) : Option TokenStream := do
  if s.inFlow || s.allowsName then
    let s ← (s.openBlockHere .blockMapping).dropName?
    some { s.pushSkip .key 1 with allowsName := !s.inFlow }
  else none

/-- A colon.  If a name may have begun in this collection, it has. -/
def value? (s : TokenStream) : Option TokenStream :=
  match s.name with
  | some name =>
      let s := { s with queue := s.queue.insertIdx (name.number - s.taken) .key, name := none }
      let s := s.openBlock .blockMapping name.start.column name.number
      some { s.pushSkip .value 1 with allowsName := false }
  | none =>
      if s.inFlow || s.allowsName then
        let s := s.openBlockHere .blockMapping
        some { s.pushSkip .value 1 with allowsName := !s.inFlow }
      else none

/-- An alias or an anchor. -/
def anchor? (token : String → Token) (s : TokenStream) : Option TokenStream := do
  let s ← s.saveName?
  let (name, here) ← anchorName? s.here.next
  some { s.push (token name) with here, allowsName := false }

/-- A tag. -/
def tag? (s : TokenStream) : Option TokenStream := do
  let s ← s.saveName?
  let (tag, here) ← Tag.read? s.inFlow s.here
  some { s.push (.tag tag) with here, allowsName := false }

/-- A block scalar. -/
def block? (isLiteral : Bool) (s : TokenStream) : Option TokenStream := do
  let s ← s.dropName?
  let (text, here) ← blockScalar? isLiteral s.low s.here.next
  let style := if isLiteral then .literal else .folded
  some { s.push (.scalar ⟨String.ofList text, style⟩) with here, allowsName := true }

/-- A quoted scalar. -/
def quoted? (read : Position → Option (List Char × Position)) (s : TokenStream) :
    Option TokenStream := do
  let s ← s.saveName?
  let (text, here) ← read s.here.next
  some { s.push (.scalar ⟨String.ofList text, .quoted⟩) with here, allowsName := false }

/-- A plain scalar; after one that ends its line a name may begin. -/
def plain? (s : TokenStream) : Option TokenStream := do
  if startsPlain s.inFlow s.here.rest then
    let s ← s.saveName?
    let scalar ← Yaml.plain? s.inFlow s.low s.here
    some
      { s.push (.scalar ⟨String.ofList scalar.text, .plain⟩) with
        here := scalar.after, allowsName := scalar.isLineEnded }
  else none

/-- Leaves out white space, comments, and a byte order mark at the very beginning.  A tab may not
stand where a name may begin. -/
def skipSpaceFrom : Nat → TokenStream → TokenStream
  | 0, s => s
  | fuel + 1, s =>
      let p := if s.here.index = 0 ∧ s.here.rest.head? = some '\uFEFF' then s.here.next else s.here
      let p := p.skipWhile fun c => c = ' ' || ((s.inFlow || !s.allowsName) && c = '\t')
      let p := if p.rest.head? = some '#' then p.skipLine else p
      if p.rest.head?.any isBreak then
        skipSpaceFrom fuel { s with here := p.next, allowsName := s.allowsName || !s.inFlow }
      else { s with here := p }

/-- Up to where the next token begins; blocks that it does not belong to are closed. -/
def approach? (s : TokenStream) : Option TokenStream := do
  let s ← (skipSpaceFrom (s.here.rest.length + 1) s).dropLateNames?
  some (s.closeBlocks (s.here.column < ·))

/-- The token that begins here. -/
def scan? (s : TokenStream) : Option TokenStream :=
  match s.here.rest with
  | [] => s.endText?
  | c :: rest =>
      if s.here.column = 0 ∧ c = '%' then s.directive?
      else if s.here.isDocumentMark then
        s.documentMark? (if c = '-' then .documentStart else .documentEnd)
      else
        match c with
        | '[' => s.openFlow? .flowSequence
        | '\x7b' => s.openFlow? .flowMapping
        | ']' => s.closeFlow? .flowSequenceEnd
        | '\x7d' => s.closeFlow? .flowMappingEnd
        | ',' => s.comma?
        | '-' => if endsWord rest then s.item? else s.plain?
        | '?' => if s.inFlow || endsWord rest then s.key? else s.plain?
        | ':' => if s.inFlow || endsWord rest then s.value? else s.plain?
        | '*' => s.anchor? .alias
        | '&' => s.anchor? .anchor
        | '!' => s.tag?
        | '|' => if s.inFlow then none else s.block? true
        | '>' => if s.inFlow then none else s.block? false
        | '\x27' => s.quoted? singleQuoted?
        | '"' => s.quoted? doubleQuoted?
        | _ => s.plain?

/-- One more step on the way to the next token. -/
def fetch? (s : TokenStream) : Option TokenStream := s.approach?.bind scan?

/-- The first token that is not taken, once it is certain. -/
def peekFrom? : Nat → TokenStream → Option (Token × TokenStream)
  | 0, _ => none
  | fuel + 1, s =>
      match s.queue with
      | [] => s.fetch?.bind (peekFrom? fuel)
      | token :: _ => do
          let s ← s.dropLateNames?
          if s.isHeadOpen then s.fetch?.bind (peekFrom? fuel) else some (token, s)

/-- The first token that is not taken; nothing where the text cannot be read on. -/
def peek? (s : TokenStream) : Option (Token × TokenStream) :=
  peekFrom? (s.here.rest.length + 3) s

/-- Takes the first token. -/
def advance (s : TokenStream) : TokenStream :=
  { s with queue := s.queue.drop 1, taken := s.taken + 1 }

end TokenStream

end JetStream.Yaml
