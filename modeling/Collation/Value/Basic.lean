/-
The values a collation holds as keys and as values: the shapes that JSON
knows, and the few more that a caller may hand over (tuples, sets, bytes,
text under a type name of its own, iterators, and things of other types,
collations among them). Nothing restricts what may be stored; whether two
values can be ordered is asked of `Value.less` each time.
-/
import Collation.Number.Shortest
import Collation.Text.Basic

namespace Collation

/-- A class of errors: its name, and those of the classes that it is a kind
of, short of the one that every error is of. -/
structure ErrorClass where
  name : String
  bases : List String := []
  deriving DecidableEq

/-- A class that is a kind of no other. -/
instance : Coe String ErrorClass := ⟨fun name => { name }⟩

/-- What is seen of an object from outside, as it was when it was handed
over. -/
structure Outline where
  /-- Who it is; none of something that only passes by. -/
  identity : Option Nat
  type : String
  isHashable : Bool
  /-- Whether it can be walked over. -/
  isCollection : Bool
  /-- Whether it equals any set with its elements. -/
  isSet : Bool
  shown : String
  /-- The class and the wording of the error that came of walking over it. -/
  trouble : Option (ErrorClass × String)
  deriving DecidableEq

/-- A value of any shape. A dictionary is its entries in the order in
which their keys were first given, no two keys equal. A set has no order
of its own; its elements stand in the order of its listing. -/
inductive Value where
  | null
  | bool (b : Bool)
  | int (n : Int)
  | float (x : Binary64)
  | text (s : Text)
  /-- Text whose type is a named kind of text, not plain text. -/
  | label (s : Text)
  | bytes (octets : List UInt8)
  | list (items : List Value)
  | tuple (items : List Value)
  | dict (entries : List (Value × Value))
  | set (items : List Value)
  /-- Values that are handed over one at a time, once, by something of a
  named type. -/
  | iterator (type : String) (items : List Value)
  /-- A thing that is no plain value, with its elements. -/
  | object (outline : Outline) (items : List Value)
  deriving Inhabited

namespace Value

/-- The name of a value's type, as messages give it. -/
def typeName : Value → String
  | null => "NoneType"
  | bool _ => "bool"
  | int _ => "int"
  | float _ => "float"
  | text _ => "str"
  | label _ => "Label"
  | bytes _ => "bytes"
  | list _ => "list"
  | tuple _ => "tuple"
  | dict _ => "dict"
  | set _ => "set"
  | iterator type _ => type
  | object o _ => o.type

def isNull : Value → Bool
  | null => true
  | _ => false

/-- What a text of either kind says. -/
def text? : Value → Option Text
  | text s => some s
  | label s => some s
  | _ => none

/-- The integer that a truth value or an integer stands for. -/
def integer? : Value → Option Int
  | bool b => some b.toInt
  | int n => some n
  | _ => none

/-- Whether a value counts as present: not null, false, zero or empty. -/
def isTruthy : Value → Bool
  | null => false
  | bool b => b
  | int n => n != 0
  | float x => !(x.isFinite && x.absUnits == 0)
  | text s => !s.isEmpty
  | label s => !s.isEmpty
  | bytes xs => !xs.isEmpty
  | list xs => !xs.isEmpty
  | tuple xs => !xs.isEmpty
  | dict es => !es.isEmpty
  | set xs => !xs.isEmpty
  | iterator .. => true
  | object o xs => !(o.isCollection && o.trouble.isNone && xs.isEmpty)

/-- The elements that walking over a value gives, if it can be walked
over: a text gives its code points and a dictionary its keys. -/
def elements? : Value → Option (List Value)
  | text s => some (s.points.map fun p => text ⟨[p]⟩)
  | label s => some (s.points.map fun p => text ⟨[p]⟩)
  | bytes xs => some (xs.map fun b => int b.toNat)
  | list xs => some xs
  | tuple xs => some xs
  | dict es => some (es.map Prod.fst)
  | set xs => some xs
  | iterator _ xs => some xs
  | object o xs => if o.isCollection then some xs else none
  | _ => none

end Value

end Collation
