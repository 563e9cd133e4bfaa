/-
The operators of plain values that sets share with other kinds: union and
the like of two sets, bits of two integers, the entries of two
dictionaries, the difference of two numbers. Two truth values stay truth
values. Each gives none where the values have no such operator.
-/
import Collation.Comparator.Keys
import Collation.Number.Bits

namespace Collation.Value

/-- Bits of two integers; of two truth values, a truth value. -/
def bits? (combine : Int → Int → Int) (a b : Value) : Option Value :=
  match a, b with
  | bool p, bool q => some (bool (combine p.toInt q.toInt != 0))
  | _, _ =>
    match a.integer?, b.integer? with
    | some m, some n => some (int (combine m n))
    | _, _ => none

/-- The elements that agree with none of some others. -/
def without (xs ys : List Value) : List Value :=
  xs.filter fun x => !ys.any fun y => agree x y

/-- Two sets or dictionaries in one, an entry of the right one replacing
that of the left one. -/
def union? (a b : Value) : Option Value :=
  match a, b with
  | set xs, set ys => some (set (xs ++ without ys xs))
  | dict es, dict fs => some (dict (fs.foldl (fun es e => insertEntry e.1 e.2 es) es))
  | _, _ => bits? bitOr a b

/-- The elements of two sets that agree, those of the smaller set. -/
def inter? (a b : Value) : Option Value :=
  match a, b with
  | set xs, set ys =>
    let (few, many) := if xs.length < ys.length then (xs, ys) else (ys, xs)
    some (set (few.filter fun x => many.any fun y => agree x y))
  | _, _ => bits? bitAnd a b

/-- The elements that two sets do not share. -/
def symmDiff? (a b : Value) : Option Value :=
  match a, b with
  | set xs, set ys => some (set (without xs ys ++ without ys xs))
  | _, _ => bits? bitXor a b

/-- What one set has and the other lacks, or the difference of two
numbers, which may be out of range. -/
def diff? (a b : Value) : Option (Except Fault Value) :=
  match a, b with
  | set _, set _ => some (minus a b)
  | _, _ => if a.isNumber && b.isNumber then some (minus a b) else none

end Collation.Value
