import JetStream.Consumer.Rules
import JetStream.Text.Integer

/-!
# Arguments

Words on a command line are either names or options.  An option begins with two dashes, or with one
if it is a single letter, and may take a value, which follows it as the next word or behind an
equals sign.  After two dashes alone there are only names.
-/

namespace JetStream.CommandLine

/-- Why the arguments ask for nothing that could be done. -/
inductive Stop where
  /-- They make no sense. -/
  | usage
  /-- An explanation is wanted. -/
  | help
  /-- The version is wanted. -/
  | version
  deriving DecidableEq, Inhabited

/-- What an option does or takes. -/
inductive Operand where
  /-- It is there or not. -/
  | switch
  /-- It takes a text. -/
  | text
  /-- It takes a path, which is not empty. -/
  | path
  /-- It takes a duration. -/
  | duration
  /-- It takes a number of 64 bits with a sign; the next word is one even with a dash before it. -/
  | signed (dashed : Bool)
  /-- It takes a number of 64 bits without a sign. -/
  | unsigned
  /-- Nothing else counts. -/
  | ends (stop : Stop)
  deriving DecidableEq

/-- The value of an option. -/
inductive Value where
  | on
  | text (s : String)
  | duration (d : Duration)
  | signed (n : Int64)
  | unsigned (n : UInt64)
  deriving DecidableEq

/-- Reads the value of an option. -/
def Operand.read (operand : Operand) (word : String) : Option Value :=
  match operand with
  | text => some (.text word)
  | path => if word.isEmpty then none else some (.text word)
  | duration => (Consumer.readDuration word).toOption.map .duration
  | signed _ => (Text.signed64? word).map fun n => .signed (.ofInt n)
  | unsigned => (Text.unsigned64? word).map fun n => .unsigned (.ofNat n)
  | switch | ends _ => none

/-- The option is complete without a value. -/
def Operand.standsAlone : Operand → Bool
  | switch | ends _ => true
  | _ => false

/-- The next word is the value, whatever it looks like. -/
def Operand.takesAnyWord : Operand → Bool
  | signed dashed => dashed
  | _ => false

/-- An option that there is. -/
structure OptionRule where
  /-- What follows two dashes. -/
  name : String
  operand : Operand
  /-- What follows a single dash. -/
  letter : Option Char := none

/-- What was given so far. -/
structure Arguments where
  options : List (String × Value) := []
  names : List String := []
  deriving Inhabited

namespace Arguments

/-- The value of an option. -/
def value? (a : Arguments) (name : String) : Option Value :=
  (a.options.find? fun entry => entry.1 = name).map (·.2)

/-- The option is given. -/
def isOn (a : Arguments) (name : String) : Bool :=
  (a.value? name).isSome

/-- The text given with an option. -/
def text? (a : Arguments) (name : String) : Option String :=
  match a.value? name with
  | some (.text s) => some s
  | _ => none

/-- The duration given with an option. -/
def duration? (a : Arguments) (name : String) : Option Duration :=
  match a.value? name with
  | some (.duration d) => some d
  | _ => none

/-- The number given with an option. -/
def signed? (a : Arguments) (name : String) : Option Int64 :=
  match a.value? name with
  | some (.signed n) => some n
  | _ => none

/-- The number without a sign given with an option. -/
def unsigned? (a : Arguments) (name : String) : Option UInt64 :=
  match a.value? name with
  | some (.unsigned n) => some n
  | _ => none

/-- Takes in an option, which must not be given twice. -/
def put (a : Arguments) (name : String) (value : Value) : Except Stop Arguments :=
  if a.isOn name then .error .usage
  else .ok { a with options := a.options ++ [(name, value)] }

/-- Takes in an option that is complete without a value. -/
def putSwitch (a : Arguments) (rule : OptionRule) : Except Stop Arguments :=
  match rule.operand with
  | .switch => a.put rule.name .on
  | .ends stop => .error stop
  | _ => .error .usage

/-- Takes in an option with a value. -/
def putValue (a : Arguments) (rule : OptionRule) (word : String) : Except Stop Arguments :=
  match rule.operand.read word with
  | some value => a.put rule.name value
  | none => .error .usage

/-- Takes in single letters. -/
def putLetters (rules : List OptionRule) (a : Arguments) (letters : List Char) :
    Except Stop Arguments :=
  letters.foldlM (fun a letter =>
    match rules.find? fun rule => rule.letter = some letter with
    | some rule => a.putSwitch rule
    | none => .error .usage) a

end Arguments

/-- What a word is, unless only names are left. -/
inductive Word where
  /-- Only names are left. -/
  | separator
  /-- An option by its name, perhaps with a value. -/
  | option (name : String) (value : Option String)
  /-- Options by their letters. -/
  | letters (letters : List Char)
  /-- A name. -/
  | name (text : String)
  deriving DecidableEq

/-- Says what a word is. -/
def Word.read (text : String) : Word :=
  match text.toList with
  | ['-', '-'] => separator
  | '-' :: '-' :: rest =>
      let name := rest.takeWhile (· ≠ '=')
      option (String.ofList name)
        ((rest.drop name.length).tail?.map String.ofList)
  | '-' :: letter :: rest => letters (letter :: rest)
  | _ => name text

/-- What the words of a command may be. -/
structure Grammar where
  rules : List OptionRule
  /-- How many names there may be; without a number the first name ends the reading. -/
  names : Option Nat

namespace Grammar

/-- Reads words, and gives those that are left. -/
def read (g : Grammar) (namesOnly : Bool) (a : Arguments) :
    List String → Except Stop (Arguments × List String)
  | [] => .ok (a, [])
  | text :: rest =>
      match if namesOnly then Word.name text else Word.read text with
      | .separator => g.read true a rest
      | .letters letters => do g.read namesOnly (← a.putLetters g.rules letters) rest
      | .name name =>
          match g.names with
          | none => if namesOnly then .error .usage else .ok (a, name :: rest)
          | some limit =>
              if a.names.length < limit then
                g.read namesOnly { a with names := a.names ++ [name] } rest
              else .error .usage
      | .option name value =>
          match g.rules.find? fun rule => rule.name = name with
          | none => .error .usage
          | some rule =>
              match value, rest with
              | some value, rest => do g.read namesOnly (← a.putValue rule value) rest
              | none, [] => do .ok (← a.putSwitch rule, [])
              | none, next :: others =>
                  if rule.operand.standsAlone then do
                    g.read namesOnly (← a.putSwitch rule) (next :: others)
                  else if rule.operand.takesAnyWord || Word.read next = .name next then do
                    g.read namesOnly (← a.putValue rule next) others
                  else .error .usage

end Grammar

end JetStream.CommandLine
