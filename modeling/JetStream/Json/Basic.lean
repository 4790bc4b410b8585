import JetStream.NameMap
import JetStream.Text.Integer

/-!
# JSON values

The data of the broker's interface.  Whole numbers are kept exactly; any other number keeps the text
that it was read from, because nothing here computes with it.
-/

namespace JetStream

/-- A JSON value. -/
inductive Json where
  /-- The value `null`. -/
  | null
  /-- A truth value. -/
  | bool (value : Bool)
  /-- A number written without point and exponent, of 64 bits with or without a sign. -/
  | integer (value : Int)
  /-- Any other number, as it is written. -/
  | decimal (text : String)
  /-- A text. -/
  | string (value : String)
  /-- A row of values. -/
  | array (items : List Json)
  /-- Values under names, in the order in which they are written. -/
  | object (members : List (String × Json))
  deriving Inhabited

namespace Json

/-- The member of an object under a name. -/
def member? (name : String) : Json → Option Json
  | .object members => NameMap.get? members name
  | _ => none

/-- The text. -/
def asString? : Json → Option String
  | .string s => some s
  | _ => none

/-- The truth value. -/
def asBool? : Json → Option Bool
  | .bool b => some b
  | _ => none

/-- A whole number from `low` to `high`. -/
def asInteger? (low high : Int) : Json → Option Int
  | .integer n => if low ≤ n ∧ n ≤ high then some n else none
  | _ => none

/-- A number without a sign, up to a bound. -/
def asUnsigned? (bound : Nat) (value : Json) : Option Nat :=
  (value.asInteger? 0 bound).map Int.toNat

/-- A number of 64 bits without a sign. -/
def asUnsigned64? (value : Json) : Option Nat :=
  value.asUnsigned? Text.maxUnsigned64

/-- A number of 64 bits with a sign. -/
def asSigned64? (value : Json) : Option Int :=
  value.asInteger? Text.minSigned64 Text.maxSigned64

/-- The texts of a row of texts. -/
def asStrings? : Json → Option (List String)
  | .array items => items.mapM asString?
  | _ => none

/-- The value itself, or none for `null`. -/
def optional? {α : Type} (read : Json → Option α) : Json → Option (Option α)
  | .null => some none
  | value => (read value).map some

/-- A row of texts as a value. -/
def ofStrings (texts : List String) : Json :=
  .array (texts.map .string)

end Json

end JetStream
