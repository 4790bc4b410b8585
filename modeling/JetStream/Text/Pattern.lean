/-!
# Patterns

A pattern is looked for at the front of a text by trying one way after another, in a fixed order:
the first of two alternatives before the second, and another repetition before an end of the
repetitions.  What is found first counts.
-/

namespace JetStream.Text

/-- What can be looked for in a text. -/
inductive Pattern where
  /-- The empty text. -/
  | nothing
  /-- A character of a class. -/
  | one (accepts : Char → Bool)
  /-- One pattern, and another right after it. -/
  | sequence (first second : Pattern)
  /-- One pattern, or else another. -/
  | either (first second : Pattern)
  /-- A pattern any number of times, as often as possible. -/
  | anyTimes (p : Pattern)

namespace Pattern

/-- A pattern at least once, as often as possible. -/
def atLeastOnce (p : Pattern) : Pattern :=
  sequence p (anyTimes p)

/-- A pattern, if possible. -/
def ifThere (p : Pattern) : Pattern :=
  either p nothing

/-- These characters. -/
def word : List Char → Pattern
  | [] => nothing
  | c :: cs => sequence (one (· = c)) (word cs)

/-- The first word that is there. -/
def anyOf : List String → Pattern
  | [] => one fun _ => false
  | w :: words => either (word w.toList) (anyOf words)

/-- Repeats a search, at most so often, and only after it found something. -/
def repeated (search : List Char → List (List Char × List Char)) :
    Nat → List Char → List (List Char × List Char)
  | 0, cs => [([], cs)]
  | n + 1, cs =>
      ((search cs).flatMap fun (front, rest) =>
        if front.isEmpty then []
        else (repeated search n rest).map fun (more, rest) => (front ++ more, rest)) ++ [([], cs)]

/-- The fronts of a text that the pattern stands for, each with what follows it, in the order in
which they are tried. -/
def fronts : Pattern → List Char → List (List Char × List Char)
  | nothing, cs => [([], cs)]
  | one _, [] => []
  | one accepts, c :: cs => if accepts c then [([c], cs)] else []
  | sequence p q, cs =>
      (p.fronts cs).flatMap fun (front, rest) =>
        (q.fronts rest).map fun (more, rest) => (front ++ more, rest)
  | either p q, cs => p.fronts cs ++ q.fronts cs
  | anyTimes p, cs => repeated p.fronts cs.length cs

/-- The pattern stands for the whole text. -/
def isWhole (p : Pattern) (cs : List Char) : Bool :=
  (p.fronts cs).any fun (_, rest) => rest.isEmpty

/-- The fronts that two patterns stand for one after the other, in two parts, each with what follows
it. -/
def pairs (p q : Pattern) (cs : List Char) : List ((List Char × List Char) × List Char) :=
  (p.fronts cs).flatMap fun (first, rest) =>
    (q.fronts rest).map fun (second, rest) => ((first, second), rest)

/-- The two parts of the whole text. -/
def wholePair? (p q : Pattern) (cs : List Char) : Option (List Char × List Char) :=
  ((pairs p q cs).find? fun (_, rest) => rest.isEmpty).map (·.1)

/-- Goes through a text after some characters are passed over, and takes down the two parts wherever
the two patterns are there, one after the other; characters before that are passed over. -/
def scanAfter (p q : Pattern) : Nat → List Char → List (List Char × List Char)
  | _, [] => []
  | n + 1, _ :: cs => scanAfter p q n cs
  | 0, c :: cs =>
      match (pairs p q (c :: cs)).head? with
      | some (pair, _) => pair :: scanAfter p q (pair.1.length + pair.2.length - 1) cs
      | none => scanAfter p q 0 cs

/-- All places in a text where two patterns are there one after the other, from left to right. -/
def scan (p q : Pattern) (cs : List Char) : List (List Char × List Char) :=
  scanAfter p q 0 cs

end Pattern

end JetStream.Text
