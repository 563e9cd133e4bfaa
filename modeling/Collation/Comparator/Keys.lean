/-
Ready-made keys to order by: length, sum, absolute value, negation, lower
case, case fold, remainder or filled template, an element, a table entry.
Each is defined on some types and fails on the others with an error naming
the type, so an order by one of them is partial.
-/
import Collation.Comparator.Basic

namespace Collation

namespace Value

/-- An integer as the nearest float; the largest ones have none. -/
def toBinary64 (n : Int) : Except Fault Binary64 :=
  let x := Binary64.ofInt n
  if x.isInfinite then .error .outOfFloatRange else .ok x

/-- Arithmetic on two numbers: exact on integers, in floats as soon as one
operand is a float, refused for anything else. -/
def arithmetic (operator : String) (onInts : Int → Int → Except Fault Int)
    (onFloats : Binary64 → Binary64 → Except Fault Binary64) (a b : Value) :
    Except Fault Value :=
  match a.integer?, b.integer? with
  | some m, some n => (onInts m n).map int
  | _, _ => do
    match a, b with
    | float x, float y => return float (← onFloats x y)
    | float x, v =>
      match v.integer? with
      | some n => return float (← onFloats x (← toBinary64 n))
      | none => .error (.badOperands operator a.typeName b.typeName)
    | v, float y =>
      match v.integer? with
      | some m => return float (← onFloats (← toBinary64 m) y)
      | none => .error (.badOperands operator a.typeName b.typeName)
    | _, _ => .error (.badOperands operator a.typeName b.typeName)

def plus : Value → Value → Except Fault Value :=
  arithmetic "+" (fun m n => .ok (m + n)) fun x y => .ok (x.add y)

def times : Value → Value → Except Fault Value :=
  arithmetic "*" (fun m n => .ok (m * n)) fun x y => .ok (x.mul y)

/-- The difference of two numbers, or of two sets. -/
def minus (a b : Value) : Except Fault Value :=
  match a, b with
  | set xs, set ys => .ok (set (xs.filter fun x => !ys.any fun y => agree x y))
  | _, _ => arithmetic "-" (fun m n => .ok (m - n)) (fun x y => .ok (x.sub y)) a b

/-- The remainder that has the sign of the divisor. -/
def modulo : Value → Value → Except Fault Value :=
  arithmetic "%"
    (fun m n => if n = 0 then .error (.zeroModulus false) else .ok (m.fmod n))
    fun x y =>
      if y.isFinite && y.absUnits == 0 then .error (.zeroModulus true)
      else .ok (x.mod y)

/-- The element at an index, counted from the end when negative. -/
def itemAt (container : String) (xs : List Value) (i : Int) : Except Fault Value :=
  let place := if i < 0 then i + xs.length else i
  if i < Int64.minValue.toInt ∨ Int64.maxValue.toInt < i then .error .indexTooLarge
  else if place < 0 then .error (.indexRange container)
  else
    match xs[place.toNat]? with
    | some x => .ok x
    | none => .error (.indexRange container)

end Value

namespace SortKey

open Value

def itself : SortKey := .ok

/-- How many elements a value has. -/
def length : SortKey := fun v =>
  match v with
  | iterator .. => .error (.unsized v.typeName)
  | _ =>
    match v.walk? with
    | some xs => xs.map fun xs => int xs.length
    | none => .error (.unsized v.typeName)

/-- The sum of a value's elements, from the left, starting at zero. -/
def sum : SortKey := fun v =>
  v.elements >>= List.foldlM plus (int 0)

def absolute : SortKey := fun v =>
  match v.integer? with
  | some n => .ok (int n.natAbs)
  | none =>
    match v with
    | float x => .ok (float x.abs)
    | _ => .error (.badOperand "abs()" v.typeName)

def negated : SortKey := fun v =>
  match v.integer? with
  | some n => .ok (int (-n))
  | none =>
    match v with
    | float x => .ok (float x.neg)
    | _ => .error (.badOperand "unary -" v.typeName)

/-- Lower case of a text, or of the ASCII letters among octets. -/
def lower : SortKey := fun v =>
  match v with
  | bytes bs => .ok (bytes (bs.map fun b => if 65 ≤ b ∧ b ≤ 90 then b + 32 else b))
  | _ =>
    match v.text? with
    | some s => .ok (text (Text.lower s))
    | none => .error (.lacksOperation v.typeName "lower")

/-- The remainder modulo a fixed number. Of a text the operator means
another thing: it is a template to be filled with the number. -/
def remainder (n : Int) : SortKey := fun v =>
  match v with
  | bytes bs =>
    match Text.filled .octets (bs.map fun b => .char (Char.ofNat b.toNat)) n with
    | .ok ps => .ok (bytes (ps.map fun p => UInt8.ofNat p.code))
    | .error cause => .error (.template cause)
  | _ =>
    match v.text? with
    | some s =>
      match Text.filled .characters s.points n with
      | .ok ps => .ok (text ⟨ps⟩)
      | .error cause => .error (.template cause)
    | none => modulo v (int n)

/-- The element of a sequence at an index, or of a dictionary under a key. -/
def item (index : Value) : SortKey := fun v =>
  match v with
  | dict es => entryUnder index es
  | list xs =>
    match index.integer? with
    | some i => itemAt "list index" xs i
    | none => .error (.badIndex "list" index.typeName)
  | tuple xs =>
    match index.integer? with
    | some i => itemAt "tuple index" xs i
    | none => .error (.badIndex "tuple" index.typeName)
  | bytes bs =>
    match index.integer? with
    | some i => itemAt "index" (bs.map fun b => int b.toNat) i
    | none => .error (.badIndex "byte" index.typeName)
  | text _ | label _ =>
    match index.integer? with
    | some i => itemAt "string index" (v.elements?.getD []) i
    | none => .error (.badIndex "string" index.typeName)
  | _ => .error (.notSubscriptable v.typeName)

/-- The entry of a fixed table under the value. -/
def table (entries : List (Value × Value)) : SortKey := fun v =>
  item v (dict entries)

end SortKey

namespace Comparison

open Value

/-- The difference of two values times a factor. -/
def difference (factor : Int) : Comparison := fun a b => do
  match ← times (← minus a b) (int factor) with
  | int n => return .int n
  | float x => return .float x
  | v => .error (.badOperands "*" v.typeName "int")

/-- The same answer for every pair. -/
def constant (n : Int) : Comparison := fun _ _ => .ok (.int n)

/-- Fails on every pair. -/
def failing (e : Fault) : Comparison := fun _ _ => .error e

/-- The natural order, failing as soon as one side equals `x`. -/
def fragile (x : Value) (e : Fault) : Comparison := fun a b =>
  if a.equal x || b.equal x then .error e else natural a b

end Comparison

end Collation
