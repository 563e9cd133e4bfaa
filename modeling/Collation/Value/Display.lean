/-
The text by which messages, listings and tables show a value. A label
shows as its text, a float by the shortest decimal that reads back, with
a point or an exponent always.
-/
import Collation.Number.Integer
import Collation.Text.Quoted
import Collation.Value.Basic

namespace Collation

/-- Floats are positional from 0.0001 up to, not including, 1e16; an
exponent has at least two digits. -/
def Binary64.displayLayout : DecimalLayout := ⟨-3, 16, 2, "inf", "nan"⟩

def Binary64.display (x : Binary64) : String := x.spell displayLayout

namespace Value

/-- Parts with a comma between them. -/
def commaSeparated (parts : List String) : String := ", ".intercalate parts

mutual

/-- The text that shows a value. -/
def display : Value → String
  | null => "None"
  | bool b => if b then "True" else "False"
  | int n => toString n
  | float x => x.display
  | text s => Text.quoted s
  | label s => Text.quoted s
  | bytes bs => Text.quotedOctets bs
  | list xs => "[" ++ commaSeparated (displayItems xs) ++ "]"
  | tuple [x] => "(" ++ display x ++ ",)"
  | tuple xs => "(" ++ commaSeparated (displayItems xs) ++ ")"
  | dict es => "\x7b" ++ commaSeparated (displayEntries es) ++ "\x7d"
  | set [] => "set()"
  | set xs => "\x7b" ++ commaSeparated (displayItems xs) ++ "\x7d"
  | iterator type _ => "<" ++ type ++ ">"
  | object o _ => o.shown
termination_by structural v => v

def displayItems : List Value → List String
  | [] => []
  | x :: xs => display x :: displayItems xs
termination_by structural xs => xs

def displayEntries : List (Value × Value) → List String
  | [] => []
  | e :: es => displayEntry e :: displayEntries es
termination_by structural es => es

def displayEntry : Value × Value → String
  | (k, v) => display k ++ ": " ++ display v
termination_by structural e => e

end

mutual

/-- Whether a value can be shown: an integer of too many digits cannot, nor
can what holds one. -/
def isShowable : Value → Bool
  | int n => (Nat.toDigits 10 n.natAbs).length ≤ mostDigits
  | list xs | tuple xs | set xs => areShowable xs
  | dict es => entriesShowable es
  | _ => true
termination_by structural v => v

def areShowable : List Value → Bool
  | [] => true
  | x :: xs => isShowable x && areShowable xs
termination_by structural xs => xs

def entriesShowable : List (Value × Value) → Bool
  | [] => true
  | e :: es => entryShowable e && entriesShowable es
termination_by structural es => es

def entryShowable : Value × Value → Bool
  | (k, v) => isShowable k && isShowable v
termination_by structural e => e

end

/-- A value in the midst of words: a text stands there as it is. -/
def wording (v : Value) : String := v.text?.elim v.display Text.lossy

/-- A list of values shown as a list. -/
def displayList (xs : List Value) : String := display (list xs)

end Value

end Collation
