import JetStream.Json.Token
import JetStream.Yaml.Position

/-!
# Quoted scalars of YAML

In single quotes only a doubled quote is special.  In double quotes a backslash begins an escape;
one before a line break hides the break.  In both, white space over the end of a line is folded, and
no line may mark a document.
-/

namespace JetStream.Yaml

/-- The character of a code point, if it is one. -/
def charOf? (code : Nat) : Option Char :=
  if code < 0xd800 ∨ (0xdfff < code ∧ code < 0x110000) then some (Char.ofNat code) else none

/-- The character that so many hexadecimal digits denote. -/
def hexEscape? (places : Nat) (cs : List Char) : Option Char :=
  if cs.length = places then
    (cs.foldlM (fun n c => (Json.hexValue? c).map (n * 16 + ·)) 0).bind charOf?
  else none

/-- The character that a letter after a backslash stands for. -/
def shortEscape? : Char → Option Char
  | '0' => some '\x00'
  | 'a' => some '\x07'
  | 'b' => some '\x08'
  | 't' | '\t' => some '\t'
  | 'n' => some '\n'
  | 'v' => some '\x0b'
  | 'f' => some '\x0c'
  | 'r' => some '\r'
  | 'e' => some '\x1b'
  | ' ' => some ' '
  | '"' => some '"'
  | '/' => some '/'
  | '\\' => some '\\'
  | 'N' => some '\u0085'
  | '_' => some '\u00a0'
  | 'L' => some '\u2028'
  | 'P' => some '\u2029'
  | _ => none

/-- How many hexadecimal digits follow the letter of an escape. -/
def hexPlaces? : Char → Option Nat
  | 'x' => some 2
  | 'u' => some 4
  | 'U' => some 8
  | _ => none

/-- What an escape stands for, and what follows it, from the letter behind the backslash on. -/
def escape? (p : Position) : Option (List Char × Position) := do
  let letter ← p.rest.head?
  if isBreak letter then some (p.next.gap.breaks, p.next.gap.after)
  else
    match hexPlaces? letter with
    | some places => do
        let c ← hexEscape? places (p.next.rest.take places)
        some ([c], p.next.skip places)
    | none => (shortEscape? letter).map fun c => ([c], p.next)

/-- The text up to the closing double quote, and what follows it. -/
def doubleQuotedFrom? : Nat → Position → Option (List Char × Position)
  | 0, _ => none
  | fuel + 1, p =>
      match p.rest with
      | [] => none
      | c :: _ =>
          if p.isDocumentMark then none
          else if isSpace c then
            (doubleQuotedFrom? fuel p.gap.after).map fun (text, after) =>
              (p.gap.text ++ text, after)
          else if c = '"' then some ([], p.next)
          else if c = '\\' then do
            let (escaped, p) ← escape? p.next
            let (text, after) ← doubleQuotedFrom? fuel p
            some (escaped ++ text, after)
          else (doubleQuotedFrom? fuel p.next).map fun (text, after) => (c :: text, after)

/-- The text up to the closing single quote, and what follows it. -/
def singleQuotedFrom? : Nat → Position → Option (List Char × Position)
  | 0, _ => none
  | fuel + 1, p =>
      match p.rest with
      | [] => none
      | c :: _ =>
          if p.isDocumentMark then none
          else if isSpace c then
            (singleQuotedFrom? fuel p.gap.after).map fun (text, after) =>
              (p.gap.text ++ text, after)
          else if c = '\x27' then
            match p.next.skipChar? '\x27' with
            | some p => (singleQuotedFrom? fuel p).map fun (text, after) => (c :: text, after)
            | none => some ([], p.next)
          else (singleQuotedFrom? fuel p.next).map fun (text, after) => (c :: text, after)

/-- The scalar in double quotes behind the opening one, and what follows it. -/
def doubleQuoted? (p : Position) : Option (List Char × Position) :=
  doubleQuotedFrom? (p.rest.length + 1) p

/-- The scalar in single quotes behind the opening one, and what follows it. -/
def singleQuoted? (p : Position) : Option (List Char × Position) :=
  singleQuotedFrom? (p.rest.length + 1) p

end JetStream.Yaml
