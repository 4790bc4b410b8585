import JetStream.Text.Blank
import JetStream.Text.Split

/-!
# Subjects

A subject is a row of tokens with points between them.  A filter is a subject in which the token `*`
stands for any one token, and the token `>` for all the rest, which is at least one.
-/

namespace JetStream.Subject

open Text

/-- The tokens of a subject. -/
def tokens (subject : String) : List String :=
  split '.' subject

/-- The tokens of a filter match those of a subject. -/
def matchesTokens : List String → List String → Bool
  | filter :: filters, token :: tokens =>
      filter = ">" || (filter = "*" || filter = token) && matchesTokens filters tokens
  | [], [] => true
  | _, _ => false

/-- The filter matches the subject. -/
def isMatch (filter subject : String) : Bool :=
  matchesTokens (tokens filter) (tokens subject)

/-- The filter, if there is one, matches the subject. -/
def isWanted (filter : Option String) (subject : String) : Bool :=
  match filter with
  | some filter => isMatch filter subject
  | none => true

/-- Neither a blank nor an empty token. -/
def isWellFormed (subject : String) : Bool :=
  !subject.toList.any isBlank && (tokens subject).all fun token => !token.isEmpty

/-- A token stands for other tokens. -/
def hasWildcard (subject : String) : Bool :=
  (tokens subject).any fun token => token = "*" || token = ">"

end JetStream.Subject
