import JetStream.Json.Token
import JetStream.Yaml.Position

/-!
# Anchors, tags and directives of YAML

An anchor names a node, and an alias stands for the node so named.  A tag says what a node is for;
it is written in full between angle brackets, or as the rest of a name that a handle begins.
Directives before a document declare such handles and the version of the language.
-/

namespace JetStream.Yaml

/-- The name of an anchor, and what follows it. -/
def anchorName? (p : Position) : Option (String × Position) :=
  let name := p.rest.takeWhile isNameChar
  let p := p.skip name.length
  let isEnded := endsWord p.rest ||
    p.rest.head?.any (['?', ':', ',', ']', '\x7d', '%', '@', '\x60'].contains ·)
  if name ≠ [] ∧ isEnded then some (String.ofList name, p) else none

/-- A tag as it is written. -/
structure Tag where
  /-- The handle that begins it; none where it is written in full. -/
  handle : String
  suffix : String
  deriving DecidableEq

/-- The character may stand in a tag; commas and brackets only where that is written in full. -/
def isTagChar (isFull : Bool) (c : Char) : Bool :=
  isNameChar c || [';', '/', '?', ':', '@', '&', '=', '+', '$', '.', '%', '!', '~', '*', '\x27',
    '(', ')'].contains c || (isFull && [',', '[', ']'].contains c)

/-- The octet of an escape `%` with two hexadecimal digits. -/
def octet? : List Char → Option Nat
  | '%' :: high :: low :: _ => do some ((← Json.hexValue? high) * 16 + (← Json.hexValue? low))
  | _ => none

/-- How many octets a character takes whose first is this one. -/
def octetCount? (octet : Nat) : Option Nat :=
  if octet < 0x80 then some 1
  else if 0xc0 ≤ octet ∧ octet < 0xe0 then some 2
  else if 0xe0 ≤ octet ∧ octet < 0xf0 then some 3
  else if 0xf0 ≤ octet ∧ octet < 0xf8 then some 4
  else none

/-- So many further octets of a character follow. -/
def hasLaterOctets : Nat → List Char → Bool
  | 0, _ => true
  | n + 1, cs =>
      (octet? cs).any (fun octet => 0x80 ≤ octet && octet < 0xc0) && hasLaterOctets n (cs.drop 3)

/-- An escaped character of a tag, and what follows it.  Those beyond ASCII are not told apart. -/
def escapedTagChar? (p : Position) : Option (Char × Position) := do
  let octet ← octet? p.rest
  let count ← octetCount? octet
  if hasLaterOctets (count - 1) (p.rest.drop 3) then
    some (if count = 1 then Char.ofNat octet else '\uFFFD', p.skip (3 * count))
  else none

/-- The characters of a tag from a position on, and what follows them. -/
def tagCharsFrom? (isFull : Bool) : Nat → Position → Option (List Char × Position)
  | 0, p => some ([], p)
  | fuel + 1, p =>
      match p.rest with
      | [] => some ([], p)
      | c :: _ =>
          if !isTagChar isFull c then some ([], p)
          else do
            let (c, p) ← if c = '%' then escapedTagChar? p else some (c, p.next)
            let (cs, p) ← tagCharsFrom? isFull fuel p
            some (c :: cs, p)

/-- The characters of a tag after those that its handle leaves over; there is at least one. -/
def tagChars? (isFull : Bool) (left : List Char) (p : Position) :
    Option (String × Position) := do
  let (cs, p) ← tagCharsFrom? isFull (p.rest.length + 1) p
  if left = [] ∧ cs = [] then none else some (String.ofList (left ++ cs), p)

/-- The handle at a position, with the exclamation mark that closes it if there is one. -/
def tagHandle? (p : Position) : Option (List Char × Position) := do
  let p ← p.skipChar? '!'
  let name := p.rest.takeWhile isNameChar
  let p := p.skip name.length
  match p.skipChar? '!' with
  | some p => some ('!' :: name ++ ['!'], p)
  | none => some ('!' :: name, p)

/-- A handle that stands between two exclamation marks. -/
def isClosedHandle (handle : List Char) : Bool :=
  handle.length ≠ 1 && handle.getLast? == some '!'

/-- The tag at a position, and what follows it. -/
def Tag.read? (inFlow : Bool) (p : Position) : Option (Tag × Position) := do
  let (tag, p) ←
    if p.next.rest.head? = some '<' then do
      let (suffix, p) ← tagChars? true [] p.next.next
      some (⟨"", suffix⟩, ← p.skipChar? '>')
    else do
      let (handle, p) ← tagHandle? p
      if isClosedHandle handle then do
        let (suffix, p) ← tagChars? false [] p
        some ((⟨String.ofList handle, suffix⟩ : Tag), p)
      else if handle = ['!'] ∧ !p.rest.head?.any (isTagChar false) then some (⟨"", "!"⟩, p)
      else do
        let (suffix, p) ← tagChars? false (handle.drop 1) p
        some (⟨"!", suffix⟩, p)
  if endsWord p.rest || (inFlow && p.rest.head? == some ',') then some (tag, p) else none

/-- What a document declares before it begins. -/
inductive Directive where
  | version (major minor : Nat)
  | tagHandle (name meaning : String)

/-- A number of a version, of at most nine digits. -/
def versionNumber? (p : Position) : Option (Nat × Position) :=
  let digits := p.rest.takeWhile Char.isDigit
  if digits = [] ∨ 9 < digits.length then none
  else some (digits.foldl (fun n c => n * 10 + (c.toNat - '0'.toNat)) 0, p.skip digits.length)

/-- The directive behind its percent sign, and the line below. -/
def Directive.read? (p : Position) : Option (Directive × Position) := do
  let name := p.rest.takeWhile isNameChar
  let p := p.skip name.length
  if !endsWord p.rest then none
  else if name = "YAML".toList then do
    let (major, p) ← versionNumber? (p.skipWhile isBlank)
    let (minor, p) ← versionNumber? (← p.skipChar? '.')
    some (.version major minor, ← p.endOfLine?)
  else if name = "TAG".toList then do
    let (handle, p) ← tagHandle? (p.skipWhile isBlank)
    if !(handle = ['!'] || isClosedHandle handle) || !p.rest.head?.any isBlank then none
    else
      let (meaning, p) ← tagChars? true [] (p.skipWhile isBlank)
      if endsWord p.rest then
        some (.tagHandle (String.ofList handle) meaning, ← p.endOfLine?)
      else none
  else none

end JetStream.Yaml
