import JetStream.Text.Emoji
import JetStream.Text.Ligature

/-!
# Columns of a line

The columns of a line are those of its characters, less what neighbouring characters share: an
emoji of several characters takes two columns, two letters drawn as one glyph take one column.
The line is read from its end, so that a character knows what it is drawn together with.
-/

namespace JetStream.Text

/-! ## What a character is drawn together with -/

/-- The end of a ligature, as far as it has been read. -/
inductive Ligature where
  | alef
  | lamed
  | joinedLamed
  | ya
  | joinedYa
  | vowelAndYa
  | tifinagh
  | joinedTifinagh
  | tifinaghJoiner
  | lisuTone
  | orkhonI
  | joinedOrkhonI
  | coengLetter
deriving DecidableEq

/-- A joiner stands before the end of the ligature. -/
def Ligature.joined : Ligature → Ligature
  | lamed => joinedLamed
  | ya => joinedYa
  | tifinagh => joinedTifinagh
  | orkhonI => joinedOrkhonI
  | other => other

/-- What the text after a character begins with, where that concerns the character. -/
inductive Sequel where
  | unrelated
  | modifier
  | emoji
  | joinedEmoji
  | joinedKeycap
  /-- One regional indicator. -/
  | indicator
  /-- Several regional indicators. -/
  | indicators
  /-- One regional indicator before a joined emoji. -/
  | joinedIndicator
  /-- Pairs of regional indicators before a joined emoji. -/
  | joinedPairs
  /-- Pairs of regional indicators, and one more, before a joined emoji. -/
  | joinedPairsAndOne
  | tagEnd
  /-- Tag letters up to the end of a tag sequence. -/
  | tagLetters (count : Nat)
  /-- Tag digits, with letters or without, up to the end of a tag sequence. -/
  | tagDigits (count : Nat)
  /-- The Kirat Rai vowel sign e. -/
  | vowelE
  /-- The Kirat Rai vowel sign ai. -/
  | vowelAi
  | ligature (part : Ligature)
deriving DecidableEq

/-- The text after a character, with the variation selectors in front of it. -/
structure Tail where
  sequel : Sequel := .unrelated
  emojiStyle : Bool := false
  textStyle : Bool := false
  fullWidth : Bool := false
deriving DecidableEq

/-- The text after a character, seen through a variation selector: a selector breaks every
connection but a ligature. -/
def Tail.behindSelector (tail : Tail) : Tail :=
  match tail.sequel with
  | .ligature _ => tail
  | _ => {}

/-- The emoji style is asked for.  It may also belong to the member of a joined emoji. -/
def Tail.withEmojiStyle (tail : Tail) : Tail :=
  match tail.sequel with
  | .joinedEmoji | .joinedKeycap => { tail with emojiStyle := true }
  | _ => { tail.behindSelector with emojiStyle := true }

/-- The emoji style does not apply to the character. -/
def Tail.withoutEmojiStyle (tail : Tail) : Tail :=
  if tail.emojiStyle then { tail.behindSelector with emojiStyle := false } else tail

/-! ## Characters that share columns -/

/-- What a character means to the one before it. -/
def Sequel.ofChar (c : Char) : Sequel :=
  if c.toNat ≤ 0xa0 then .unrelated
  else if isEmojiModifier c then .modifier
  else if isEmoji c then .emoji
  else if isRegionalIndicator c then .indicator
  else if isAlef c then .ligature .alef
  else if c = '\u05dc' then .ligature .lamed
  else if isCoengLetter c then .ligature .coengLetter
  else if c = '\u1a10' then .ligature .ya
  else if isTifinagh c then .ligature .tifinagh
  else if c = '\ua4fc' || c = '\ua4fd' then .ligature .lisuTone
  else if c.toNat = 0x10c03 then .ligature .orkhonI
  else if c.toNat = 0x16d67 then .vowelE
  else if c.toNat = 0x16d68 then .vowelAi
  else .unrelated

/-- A quotation mark that has a full-width form. -/
def isQuotationMark (c : Char) : Bool :=
  ['\u2018', '\u2019', '\u201c', '\u201d'].contains c

/-- The columns that a character adds to a ligature, and the ligature then. -/
def Ligature.extend? (part : Ligature) (c : Char) : Option (Int × Sequel) :=
  match part with
  | alef =>
    if isLam c then some (0, .unrelated)
    else if isTransparent c then some (0, .ligature alef)
    else none
  | joinedLamed => if c = '\u05d0' then some (0, .unrelated) else none
  | joinedYa => if c = '\u1a17' then some (0, .ligature vowelAndYa) else none
  | vowelAndYa => if c = '\u1a15' then some (0, .unrelated) else none
  | tifinagh => if c = '\u2d7f' then some (1, .ligature tifinaghJoiner) else none
  | joinedTifinagh =>
    if c = '\u2d7f' then some (1, .ligature tifinaghJoiner)
    else if isTifinagh c then some (0, .unrelated)
    else none
  | tifinaghJoiner => if isTifinagh c then some (-1, .unrelated) else none
  | lisuTone => if isLisuTone c then some (0, .unrelated) else none
  | joinedOrkhonI => if c.toNat = 0x10c32 then some (0, .unrelated) else none
  | coengLetter => if c = '\u17d2' then some (-1, .unrelated) else none
  | _ => none

/-- The columns that a character adds to a tag sequence, and the sequence then.  A sequence has
three to six letters, or up to four letters before three digits; the flag in front of it is the
emoji. -/
def Sequel.extendTag? (sequel : Sequel) (c : Char) : Option (Int × Sequel) :=
  match sequel with
  | tagEnd =>
    if isTagLetter c then some (0, tagLetters 1)
    else if isTagDigit c then some (0, tagDigits 1)
    else none
  | tagLetters count =>
    if isTagLetter c && count < 6 then some (0, tagLetters (count + 1))
    else if isTagDigit c && count ≤ 4 then some (0, tagDigits 1)
    else if c = blackFlag && 3 ≤ count then some (0, emoji)
    else none
  | tagDigits count =>
    if isTagDigit c && count < 3 then some (0, tagDigits (count + 1))
    else if c = blackFlag && count = 3 then some (0, emoji)
    else none
  | _ => none

/-- The columns that a character adds to what follows, and what it is then part of, if the two
are drawn together. -/
def Sequel.extend? (sequel : Sequel) (c : Char) : Option (Int × Sequel) :=
  match sequel with
  | modifier =>
    if isModifierBase c then some (0, emoji)
    else if c = joiner then some (0, joinedEmoji)
    else none
  | emoji => if c = joiner then some (0, joinedEmoji) else none
  | joinedEmoji =>
    if c = keycap then some (0, joinedKeycap)
    else if isRegionalIndicator c then some (1, joinedIndicator)
    else if isEmojiModifier c then some (0, modifier)
    else if c = Text.tagEnd then some (0, tagEnd)
    else if isEmoji c then some (0, emoji)
    else none
  | indicator => if isRegionalIndicator c then some (1, indicators) else none
  | indicators =>
    if isRegionalIndicator c then some (1, indicators)
    else if c = joiner then some (0, joinedEmoji)
    else none
  | joinedIndicator => if isRegionalIndicator c then some (-1, joinedPairs) else none
  | joinedPairs =>
    if isRegionalIndicator c then some (3, joinedPairsAndOne)
    else if c = joiner then some (0, joinedEmoji)
    else none
  | joinedPairsAndOne =>
    if isRegionalIndicator c then some (-1, joinedPairs)
    else if c = joiner then some (0, joinedEmoji)
    else none
  | vowelE =>
    if c.toNat = 0x16d63 || c.toNat = 0x16d69 then some (0, unrelated)
    else if c.toNat = 0x16d67 then some (0, vowelAi)
    else if c.toNat = 0x16d68 then some (1, vowelE)
    else none
  | vowelAi => if c.toNat = 0x16d63 then some (0, unrelated) else none
  | ligature part => part.extend? c
  | other => other.extendTag? c

/-! ## One character -/

/-- A character that is drawn by itself. -/
def ownColumns (c : Char) : Int × Tail :=
  (charWidth c, { sequel := Sequel.ofChar c })

/-- A character in front of a text without a selector for it. -/
def columnsBefore (c : Char) (tail : Tail) : Int × Tail :=
  match tail.sequel with
  | .ligature .alef =>
    if tail.fullWidth then ownColumns c
    else match tail.sequel.extend? c with
      | some (columns, sequel) => (columns, { sequel })
      | none => ownColumns c
  | .ligature part =>
    if c = joiner then (0, { tail with sequel := .ligature part.joined })
    else if isIgnorableMark c then (0, tail)
    else if tail.fullWidth then ownColumns c
    else match part.extend? c with
      | some (columns, sequel) => (columns, { sequel })
      | none => ownColumns c
  | sequel =>
    match sequel.extend? c with
    | some (columns, sequel) => (columns, { sequel })
    | none => ownColumns c

/-- A character in front of a text that does not ask for its emoji style. -/
def columnsUnstyled (c : Char) (tail : Tail) : Int × Tail :=
  if c.toNat ≤ 0xa0 then (1, {})
  else if c = emojiSelector then (0, tail.withEmojiStyle)
  else if c = textSelector then (0, { tail.behindSelector with textStyle := true })
  else if c = fullWidthSelector then (0, { tail.behindSelector with fullWidth := true })
  else if tail.textStyle then
    if isNarrowedByTextStyle c then (1, {}) else columnsBefore c { tail with textStyle := false }
  else if tail.fullWidth then
    if isQuotationMark c then (2, {}) else columnsBefore c { tail with fullWidth := false }
  else columnsBefore c tail

/-- The columns that a character adds in front of a text, and the text then.  The emoji style
widens a character to two columns, unless it is a member of a joined emoji. -/
def columnsIn (c : Char) (tail : Tail) : Int × Tail :=
  if tail.emojiStyle && isStyledEmoji c then
    match tail.sequel with
    | .joinedEmoji | .joinedKeycap => (0, { sequel := .emoji })
    | _ => (2, { sequel := .emoji })
  else columnsUnstyled c tail.withoutEmojiStyle

/-! ## A line -/

/-- The columns of a text, and what it means to a character before it. -/
def measure : List Char → Int × Tail
  | [] => (0, {})
  | c :: rest =>
    let (columns, tail) := measure rest
    let (added, tail) := columnsIn c tail
    (columns + added, tail)

/-- The columns of a line of text. -/
def width (line : String) : Nat :=
  (measure line.toList).1.toNat

end JetStream.Text
