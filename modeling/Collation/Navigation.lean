/-
Finding one's way in an ordered collection: its ends, the neighbours of a
value, the elements of a range. Sets answer with their elements and maps
with their keys, and the value asked about need not be present.
-/
import Collation.Operand

namespace Collation

/-- What can be asked of an ordered collection; every answer may run the
comparator and fail. -/
structure Navigation where
  first : Except Fault Value
  last : Except Fault Value
  /-- The greatest element below a value. -/
  lower : Value → Except Fault (Option Value)
  /-- The greatest element below or equivalent to a value. -/
  floor : Value → Except Fault (Option Value)
  /-- The least element above or equivalent to a value. -/
  ceiling : Value → Except Fault (Option Value)
  /-- The least element above a value. -/
  higher : Value → Except Fault (Option Value)
  range : Bisect.Range → Except Fault (List Value)

def OrderedSet.navigation (s : OrderedSet) : Navigation :=
  ⟨s.first, s.last, s.lower, s.floor, s.ceiling, s.higher, s.range⟩

def SlotView.navigation (v : SlotView) : Navigation :=
  ⟨v.first, v.last, v.lower, v.floor, v.ceiling, v.higher, v.range⟩

def OrderedMap.navigation {β : Type} (m : OrderedMap β) : Navigation :=
  ⟨m.firstKey, m.lastKey, m.lowerKey, m.floorKey, m.ceilingKey, m.higherKey, m.keyRange⟩

/-- The navigation of an operand whose elements are in order. -/
def Operand.navigation? : Operand → Option Navigation
  | orderedSet s => some s.navigation
  | slotView v => some v.navigation
  | keyView v => some v.multimap.map.navigation
  | mapView v => some v.multimap.map.navigation
  | orderedMap m => some m.navigation
  | _ => none

end Collation
