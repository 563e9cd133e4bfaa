/-
The binary operators of things: comparisons, set operators, and the set
operators that change their left side where it can be changed.
-/
import Collation.Session.Members

namespace Collation.Session

-- ========================================================== comparisons

/-- A thing as an operand of a search, a tuple's second part being the
thing that it stands for. -/
def soughtOperand (r : Ref) : Action Operand := do
  match ← Action.thing r with
  | .plain (.tuple [k, .object ⟨some second, _, _, _, _, _, _⟩ _]) =>
    return .pair k (← Action.operand second)
  | _ => Action.operand r

/-- Whether a thing is an element of another. -/
def isMember (x r : Ref) : Action Bool := do
  match ← Action.thing r with
  | .registry g => ofExcept (g.contains (← Action.value x))
  | _ => ofExcept ((← soughtOperand x).member (← Action.operand r))

def isEqual (a b : Ref) : Action Bool := do
  ofExcept (Operand.equal (a == b) (← Action.operand a) (← Action.operand b))

def isRelated (relation : Relation) (a b : Ref) : Action Bool := do
  ofExcept ((← Action.operand a).related relation (← Action.operand b))

-- ======================================================== set operators

inductive SetOperator where
  | union
  | inter
  | diff
  | symmDiff

namespace SetOperator

def symbol : SetOperator → String
  | union => "|"
  | inter => "&"
  | diff => "-"
  | symmDiff => "^"

/-- Applies an operator to two operands; `mark` follows its symbol in an
error. -/
def apply (operator : SetOperator) (a b : Operand) (mark : String) : Except Fault Operand :=
  let symbol := operator.symbol ++ mark
  match operator with
  | union => a.union b symbol
  | inter => a.inter b symbol
  | diff => a.diff b symbol
  | symmDiff => a.symmDiff b symbol

/-- Applies an operator to a collection in place. -/
def edit {σ : Type} (operator : SetOperator) (ed : Operand.Editable σ) (itself : Bool) (s : σ)
    (o : Operand) : Outcome σ Unit :=
  match operator with
  | union => ed.unionWith s o
  | inter => ed.interWith s o
  | diff => ed.diffWith s itself o
  | symmDiff => ed.symmDiffWith s itself o

end SetOperator

/-- The thing that an operator gives. -/
def answerOperand : Operand → Action Ref
  | .orderedSet s => answerSet s
  | o => answer (o.toValue none)

def combine (operator : SetOperator) (a b : Ref) (mark : String := "") : Action Ref := do
  answerOperand (← ofExcept (operator.apply (← Action.operand a) (← Action.operand b) mark))

/-- What a plain value becomes by an operator in place: a set takes in a
set, and a dictionary the entries of another. -/
def SetOperator.taken? (operator : SetOperator) (v : Value) (o : Operand) : Option Value :=
  match operator, v, o with
  | union, .set _, .value (.set ys) => v.union? (.set ys)
  | inter, .set _, .value (.set ys) => v.inter? (.set ys)
  | diff, .set xs, .value (.set ys) => some (.set (Value.without xs ys))
  | symmDiff, .set _, .value (.set ys) => v.symmDiff? (.set ys)
  | union, .dict _, .value (.dict es) => v.union? (.dict es)
  | _, _, _ => none

/-- Applies an operator to its left side in place, where that can be
changed; otherwise the left side stays and there is a new thing. -/
def combineInPlace (operator : SetOperator) (a b : Ref) : Action Ref := do
  let o ← Action.operand b
  match ← Action.thing a with
  | .orderedSet s =>
    Action.keep (fun s => Action.replace a (.orderedSet s))
      (operator.edit (Operand.editSet s.comparator) (a == b) s o)
    return a
  | .slotView owner key =>
    Action.changeMultimap owner fun m =>
      operator.edit (Operand.editSlot m.valueComparator key) (a == b) m o
    return a
  | .plain v =>
    match operator.taken? v o with
    | some w =>
      Action.replace a (.plain w)
      return a
    | none => combine operator a b "="
  | _ => combine operator a b "="

end Collation.Session
