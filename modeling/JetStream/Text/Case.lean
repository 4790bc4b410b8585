/-!
# Letter case

Keywords are compared without regard to case.  Every keyword is made of ASCII letters other than
`k`, and no other character has one of these as its lower-case form, so lowering the ASCII letters
alone decides each comparison.
-/

namespace JetStream.Text

/-- The text with its ASCII capitals lowered. -/
def lower (s : String) : String :=
  String.ofList (s.toList.map Char.toLower)

/-- The text is the keyword, in any case. -/
def isKeyword (keyword s : String) : Bool :=
  lower s == keyword

/-- One list of characters occurs inside another. -/
def occursIn (needle : List Char) : List Char → Bool
  | [] => needle.isEmpty
  | c :: rest => needle.isPrefixOf (c :: rest) || occursIn needle rest

/-- One text occurs inside another. -/
def contains (s needle : String) : Bool :=
  occursIn needle.toList s.toList

end JetStream.Text
