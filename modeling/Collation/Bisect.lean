/-
Searching an ordered list by halving. Every comparison runs the caller's
comparator, which may fail or contradict itself, so the searches fix which
pairs are compared and in which order of operands; nothing is assumed of
the answers.

Both bounds first look at the last element alone, which settles the common
case of appending. `lowerBound` asks whether an element is below the
probe, `upperBound` whether the probe is below an element; on consistent
data they enclose the elements equivalent to the probe.
-/
import Collation.Comparator.Basic

namespace Collation.Bisect

variable {α : Type}

/-- The first place in `[low, high)` whose element does not lie `before`
the sought place, found by halving; `steps` bounds the halvings. -/
def narrow (before : α → Except Fault Bool) (xs : List α) :
    (steps low high : Nat) → Except Fault Nat
  | 0, low, _ => .ok low
  | steps + 1, low, high =>
    if low < high then
      match xs[(low + high) / 2]? with
      | none => .ok low
      | some y =>
        match before y with
        | .error e => .error e
        | .ok true => narrow before xs steps ((low + high) / 2 + 1) high
        | .ok false => narrow before xs steps low ((low + high) / 2)
    else .ok low

/-- `narrow` on the whole list, after a look at the last element. -/
def search (before : α → Except Fault Bool) (xs : List α) : Except Fault Nat :=
  match xs.getLast? with
  | none => .ok 0
  | some last =>
    match before last with
    | .error e => .error e
    | .ok true => .ok xs.length
    | .ok false => narrow before xs xs.length 0 xs.length

/-- The number of elements below `x`. -/
def lowerBound (c : Comparison) (key : α → Value) (xs : List α) (x : Value) :
    Except Fault Nat :=
  search (fun y => (c (key y) x).map Answer.isNegative) xs

/-- The number of elements not above `x`. -/
def upperBound (c : Comparison) (key : α → Value) (xs : List α) (x : Value) :
    Except Fault Nat :=
  search (fun y => (c x (key y)).map fun a => !a.isNegative) xs

/-- The index of the element equivalent to `x`: the lower bound, if the
element there compares zero. -/
def find (c : Comparison) (key : α → Value) (xs : List α) (x : Value) :
    Except Fault (Option Nat) :=
  match lowerBound c key xs x with
  | .error e => .error e
  | .ok i =>
    match xs[i]? with
    | none => .ok none
    | some y => (c (key y) x).map fun a => if a.isZero then some i else none

/-- The list with `a` after all elements not above it. -/
def insert (c : Comparison) (key : α → Value) (xs : List α) (a : α) :
    Except Fault (List α) :=
  (upperBound c key xs (key a)).map fun i => xs.insertIdx i a

-- ========================================================== navigation

/-- The last element below `x`. -/
def lower (c : Comparison) (key : α → Value) (xs : List α) (x : Value) :
    Except Fault (Option α) :=
  (lowerBound c key xs x).map fun i => if i = 0 then none else xs[i - 1]?

/-- The last element not above `x`. -/
def floor (c : Comparison) (key : α → Value) (xs : List α) (x : Value) :
    Except Fault (Option α) :=
  (upperBound c key xs x).map fun i => if i = 0 then none else xs[i - 1]?

/-- The first element not below `x`. -/
def ceiling (c : Comparison) (key : α → Value) (xs : List α) (x : Value) :
    Except Fault (Option α) :=
  (lowerBound c key xs x).map fun i => xs[i]?

/-- The first element above `x`. -/
def higher (c : Comparison) (key : α → Value) (xs : List α) (x : Value) :
    Except Fault (Option α) :=
  (upperBound c key xs x).map fun i => xs[i]?

-- ============================================================== ranges

/-- A range of elements: its ends, whether each end belongs to it, and
whether it is walked backwards. A null end is no end, and whether an end
belongs to the range may be ill given, which shows only when it matters. -/
structure Range where
  minimum : Value := .null
  maximum : Value := .null
  withMinimum : Except Fault Bool := .ok true
  withMaximum : Except Fault Bool := .ok true
  backwards : Bool := false

/-- The place where a range starts. -/
def Range.start (r : Range) (c : Comparison) (key : α → Value) (xs : List α) :
    Except Fault Nat :=
  if r.minimum.isNull then .ok 0
  else
    match r.withMinimum with
    | .error e => .error e
    | .ok true => lowerBound c key xs r.minimum
    | .ok false => upperBound c key xs r.minimum

/-- The place before which a range stops. -/
def Range.stop (r : Range) (c : Comparison) (key : α → Value) (xs : List α) :
    Except Fault Nat :=
  if r.maximum.isNull then .ok xs.length
  else
    match r.withMaximum with
    | .error e => .error e
    | .ok true => upperBound c key xs r.maximum
    | .ok false => lowerBound c key xs r.maximum

/-- The elements of a range. Where nothing reaches its minimum, its maximum
is not compared with anything. -/
def Range.select (r : Range) (c : Comparison) (key : α → Value) (xs : List α) :
    Except Fault (List α) := do
  if xs.isEmpty then return []
  let i ← r.start c key xs
  if i == xs.length then return []
  let j ← r.stop c key xs
  let found := (xs.drop i).take (j - i)
  return if r.backwards then found.reverse else found

end Collation.Bisect
