/-
Settings, taken from environment variables. A variable counts when its
name, in any case, is the prefix followed by the name of a setting; a
setting whose variable is absent has its default.
-/
import Collation.Fault
import Collation.Text.Folding

namespace Collation

structure Settings where
  environment : String := "development"
  logLevel : String := "INFO"
  debug : Bool := false
  /-- Whether decoding compares the digest unless it is told. -/
  verifyPayloadHash : Bool := true
  /-- The orders of a multimap that is built where none are named. -/
  defaultKeyComparator : String := "natural"
  defaultValueComparator : String := "natural"

namespace Settings

def isProduction (s : Settings) : Bool := s.environment == "production"

/-- Whether to compare the digest, where that may be asked for or not. -/
def verify (s : Settings) (asked : Option Bool) : Bool := asked.getD s.verifyPayloadHash

-- ========================================================= environment

/-- What the name of every variable starts with, in lower case. -/
def variablePrefix : String := "sortedmultimap_"

/-- The settings that a variable may give. -/
def names : List String :=
  ["environment", "log_level", "debug", "verify_payload_hash", "default_key_comparator",
    "default_value_comparator"]

/-- The text of a setting's variable; of two that differ only in case, the
later one. -/
def valueOf? (environment : List (String × String)) (name : String) : Option String :=
  (environment.reverse.find? fun e => Text.lower e.1 == variablePrefix ++ name).map Prod.snd

/-- The words for a truth value, in any case. -/
def truthValue? (text : String) : Option Bool :=
  let word := text.map Char.toLower
  if ["1", "t", "true", "y", "yes", "on"].contains word then some true
  else if ["0", "f", "false", "n", "no", "off"].contains word then some false
  else none

/-- A setting that is a truth value, and its fault if its text is none. -/
def flag (environment : List (String × String)) (name : String) (default : Bool) :
    Bool × List FieldFault :=
  match valueOf? environment name with
  | none => (default, [])
  | some text =>
    match truthValue? text with
    | some b => (b, [])
    | none => (default, [⟨[name], .notABoolean⟩])

/-- The settings that environment variables give. -/
def ofEnvironment (environment : List (String × String)) : Except Fault Settings :=
  let text (name default : String) : String := (valueOf? environment name).getD default
  let defaults : Settings := {}
  let debug := flag environment "debug" defaults.debug
  let verify := flag environment "verify_payload_hash" defaults.verifyPayloadHash
  match debug.2 ++ verify.2 with
  | [] => .ok
    { environment := text "environment" defaults.environment
      logLevel := text "log_level" defaults.logLevel
      debug := debug.1
      verifyPayloadHash := verify.1
      defaultKeyComparator := text "default_key_comparator" defaults.defaultKeyComparator
      defaultValueComparator :=
        text "default_value_comparator" defaults.defaultValueComparator }
  | faults => .error (.invalidRecord "MultimapSettings" faults)

end Settings

end Collation
