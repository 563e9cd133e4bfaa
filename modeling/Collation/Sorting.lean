/-
Sorting by runs and merges, under a question `below x y` that may fail or
contradict itself. The list is cut into runs that ascend as they stand, or
descend strictly and are turned round; short runs are filled up by
insertion. Neighbouring runs are merged as soon as the place of the next
one is known, in an order near to that of a balanced tree. A merge takes
elements one by one, and by leaps while one side keeps winning. Equals
keep their order, and the questions that are asked depend on earlier
answers alone, so the first one that fails is the error of the sort.
-/

namespace Collation.Sorting

variable {α ε : Type} (below : α → α → Except ε Bool)

-- =============================================================== runs

/-- How many elements, after the first, continue a run that starts with
`previous`: each is below the one before it, or each is not. -/
def runLength (descending : Bool) (previous : α) : List α → Except ε Nat
  | [] => .ok 0
  | x :: xs => do
    if (← below x previous) == descending then
      return (← runLength descending x xs) + 1
    return 0

/-- The run at the head of a list, in ascending order, and what follows. -/
def firstRun : List α → Except ε (List α × List α)
  | x :: y :: rest => do
    let descending ← below y x
    let n ← runLength below descending y rest
    let run := x :: y :: rest.take n
    return (if descending then run.reverse else run, rest.drop n)
  | xs => .ok (xs, [])

/-- The place of `x` among sorted elements, after its equals, found by
halving `[low, high)`. -/
def insertionPoint (sorted : Array α) (x : α) (low high : Nat) : Except ε Nat :=
  if h : low < high ∧ high ≤ sorted.size then
    have : (low + high) / 2 < sorted.size := by omega
    do
      if ← below x sorted[(low + high) / 2] then
        insertionPoint sorted x low ((low + high) / 2)
      else insertionPoint sorted x ((low + high) / 2 + 1) high
  else .ok low
termination_by high - low

/-- Puts the elements of a list one by one into a sorted array. -/
def insertEach (sorted : Array α) : List α → Except ε (Array α)
  | [] => .ok sorted
  | x :: xs => do
    let i ← insertionPoint below sorted x 0 sorted.size
    insertEach (sorted.insertIdxIfInBounds i x) xs

/-- The least length of a run in a list of `n` elements: the six leading
bits of `n`, one more if `odd` or any of the other bits is set. `fuel`
bounds the number of halvings. -/
def leastRun (odd : Bool) : (fuel n : Nat) → Nat
  | 0, n => n
  | fuel + 1, n =>
    if n < 64 then n + odd.toNat else leastRun (odd || n % 2 == 1) fuel (n / 2)

/-- The next run, filled up to a least length, and what follows. -/
def nextRun (least : Nat) (xs : List α) : Except ε (List α × List α) := do
  let (run, rest) ← firstRun below xs
  if run.length < least then
    let missing := least - run.length
    let filled ← insertEach below run.toArray (rest.take missing)
    return (filled.toList, rest.drop missing)
  return (run, rest)

-- =============================================================== leaps

/-- The place of the first element of `[low, high)` that fails a test,
found by halving; of two middles the `late` one is tried. -/
def firstFailing (late : Bool) (test : α → Except ε Bool) (xs : List α) :
    (fuel low high : Nat) → Except ε Nat
  | 0, low, _ => .ok low
  | fuel + 1, low, high =>
    if low < high then
      let middle := if late then low + (high - low) / 2 else high - 1 - (high - low) / 2
      match xs[middle]? with
      | none => .ok low
      | some x => do
        if ← test x then firstFailing late test xs fuel (middle + 1) high
        else firstFailing late test xs fuel low middle
    else .ok low

/-- Leaps of doubling width from the last element that passed a test, until
one fails or the end is passed; then the place is found by halving. -/
def leapFrom (late : Bool) (test : α → Except ε Bool) (xs : List α) :
    (fuel passed next : Nat) → Except ε Nat
  | 0, passed, _ => .ok (passed + 1)
  | fuel + 1, passed, next =>
    match xs[next]? with
    | none => firstFailing late test xs xs.length (passed + 1) xs.length
    | some x => do
      if ← test x then leapFrom late test xs fuel next (2 * next + 1)
      else firstFailing late test xs xs.length (passed + 1) next

/-- How many elements at the head of a list pass a test that, once failed,
is taken to fail for all that follow. -/
def leap (late : Bool) (test : α → Except ε Bool) : List α → Except ε Nat
  | [] => .ok 0
  | x :: xs => do
    if ← test x then leapFrom late test (x :: xs) xs.length 0 1 else return 0

-- ============================================================== merges

/-- Two runs being merged, both from the same end: what is left of them,
and what has been taken, the latest first. -/
structure Merge (α : Type) where
  lower : List α
  upper : List α
  taken : List α

namespace Merge

variable (fromStart : Bool)

/-- The merge with some elements of the lower run taken. -/
def takeLower (n : Nat) (m : Merge α) : Merge α :=
  ⟨m.lower.drop n, m.upper, (m.lower.take n).reverse ++ m.taken⟩

def takeUpper (n : Nat) (m : Merge α) : Merge α :=
  ⟨m.lower, m.upper.drop n, (m.upper.take n).reverse ++ m.taken⟩

/-- Whether nothing is left to ask: one run is used up, or of the run at
the end that the merge moves to, whose last element is known to come last,
only that element is left. -/
def isSettled (m : Merge α) : Bool :=
  let shrinking := if fromStart then m.lower else m.upper
  m.lower.isEmpty || m.upper.isEmpty || shrinking.length == 1

/-- A settled merge as one run. -/
def finished (m : Merge α) : List α :=
  let rest := if fromStart then m.upper ++ m.lower else m.lower ++ m.upper
  let merged := m.taken.reverse ++ rest
  if fromStart then merged else merged.reverse

/-- Whether the upper run goes next, of which the given elements are at
the heads of the two. -/
def upperFirst (x y : α) : Except ε Bool := do return (← below y x) == fromStart

/-- What the next step does: takes one element, having counted how often
each side won in a row, or leaps. -/
inductive Pace where
  | single (lowerWins upperWins : Nat)
  | leaping

/-- How many elements a leap must take to be followed by another. -/
def worthLeaping : Nat := 7

/-- Merges. `threshold` is the number of wins in a row after which leaping
starts; it falls while leaping pays and rises when it stops paying, and
the next merge goes on with it. Every step takes an element, so `fuel`
need only count them. -/
def run : (fuel : Nat) → Pace → (threshold : Nat) → Merge α → Except ε (List α × Nat)
  | 0, _, threshold, m => .ok (m.finished fromStart, threshold)
  | fuel + 1, pace, threshold, m =>
    if m.isSettled fromStart then .ok (m.finished fromStart, threshold)
    else
      match m.lower, m.upper with
      | x :: _, y :: _ =>
        match pace with
        | .single lowerWins upperWins => do
          let upper ← upperFirst below fromStart x y
          let m' := if upper then m.takeUpper 1 else m.takeLower 1
          let lowerWins := if upper then 0 else lowerWins + 1
          let upperWins := if upper then upperWins + 1 else 0
          if threshold ≤ max lowerWins upperWins ∧ !m'.isSettled fromStart then
            run fuel .leaping (threshold + 1) m'
          else run fuel (.single lowerWins upperWins) threshold m'
        | .leaping => do
          let threshold := if 1 < threshold then threshold - 1 else threshold
          let n ← leap fromStart (fun a => (upperFirst below fromStart a y).map (!·)) m.lower
          let m := m.takeLower n
          if n ≠ 0 ∧ m.isSettled fromStart then return (m.finished fromStart, threshold)
          let m := m.takeUpper 1
          if m.isSettled fromStart then return (m.finished fromStart, threshold)
          match m.lower with
          | [] => return (m.finished fromStart, threshold)
          | x :: _ =>
            let k ← leap fromStart (fun b => upperFirst below fromStart x b) m.upper
            let m := m.takeUpper k
            if k ≠ 0 ∧ m.isSettled fromStart then return (m.finished fromStart, threshold)
            let m := m.takeLower 1
            if m.isSettled fromStart then return (m.finished fromStart, threshold)
            if worthLeaping ≤ max n k then run fuel .leaping threshold m
            else run fuel (.single 0 0) (threshold + 1) m
      | _, _ => .ok (m.finished fromStart, threshold)

end Merge

/-- Merges two neighbouring runs. What is below the whole upper run, or
not below any of the lower, stays where it is; the rest is merged from the
end of the shorter run, of which the first step is known. -/
def mergeRuns (threshold : Nat) (lower upper : List α) : Except ε (List α × Nat) := do
  match upper with
  | [] => return (lower, threshold)
  | y :: _ =>
    let n ← leap true (fun a => (below y a).map (!·)) lower
    let head := lower.take n
    let lower := lower.drop n
    match lower.getLast? with
    | none => return (head ++ upper, threshold)
    | some x =>
      let k ← leap false (fun b => (below b x).map (!·)) upper.reverse
      let tail := upper.drop (upper.length - k)
      let upper := upper.take (upper.length - k)
      if upper.isEmpty then return (head ++ lower ++ tail, threshold)
      let fuel := lower.length + upper.length
      let (merged, threshold) ←
        if lower.length ≤ upper.length then
          Merge.run below true fuel (.single 0 0) threshold
            (Merge.takeUpper 1 ⟨lower, upper, []⟩)
        else
          Merge.run below false fuel (.single 0 0) threshold
            (Merge.takeLower 1 ⟨lower.reverse, upper.reverse, []⟩)
      return (head ++ merged ++ tail, threshold)

-- ======================================================== order of merges

/-- A run that waits to be merged with the one after it. `depth` says how
deep in a balanced tree over the whole list the two would meet. -/
structure Waiting (α : Type) where
  run : List α
  depth : Nat

/-- How deep the middles of two neighbouring runs part, when the list of
`n` elements is halved again and again; `a` and `b` are the middles, in
halves of an element. -/
def partingDepth : (fuel n a b : Nat) → Nat
  | 0, _, _, _ => 1
  | fuel + 1, n, a, b =>
    if n ≤ a then partingDepth fuel n (2 * (a - n)) (2 * (b - n)) + 1
    else if n ≤ b then 1
    else partingDepth fuel n (2 * a) (2 * b) + 1

/-- Merges waiting runs, the latest first, while the one below the top
meets it deeper than the top meets the next run. -/
def mergeDeeper (depth threshold : Nat) :
    (fuel : Nat) → List (Waiting α) → Except ε (List (Waiting α) × Nat)
  | 0, waiting => .ok (waiting, threshold)
  | fuel + 1, top :: second :: rest => do
    if depth < second.depth then
      let (merged, threshold) ← mergeRuns below threshold second.run top.run
      mergeDeeper depth threshold fuel (⟨merged, second.depth⟩ :: rest)
    else return (top :: second :: rest, threshold)
  | _, waiting => .ok (waiting, threshold)

/-- The waiting runs with one more, which starts after `start` elements. -/
def addRun (size start threshold : Nat) (run : List α) (waiting : List (Waiting α)) :
    Except ε (List (Waiting α) × Nat) := do
  match waiting with
  | [] => return ([⟨run, 0⟩], threshold)
  | top :: _ =>
    let a := 2 * (start - top.run.length) + top.run.length
    let depth := partingDepth (2 * size) size a (a + top.run.length + run.length)
    let (merged, threshold) ← mergeDeeper below depth threshold waiting.length waiting
    let merged := match merged with
      | top :: rest => { top with depth } :: rest
      | [] => []
    return (⟨run, 0⟩ :: merged, threshold)

/-- Merges what still waits, of three runs the shorter neighbour with the
middle one. -/
def mergeAll (threshold : Nat) : (fuel : Nat) → List (Waiting α) → Except ε (List α)
  | 0, waiting => .ok (waiting.reverse.flatMap Waiting.run)
  | _, [] => .ok []
  | _, [top] => .ok top.run
  | fuel + 1, top :: second :: third :: rest => do
    if third.run.length < top.run.length then
      let (merged, threshold) ← mergeRuns below threshold third.run second.run
      mergeAll threshold fuel (top :: ⟨merged, third.depth⟩ :: rest)
    else
      let (merged, threshold) ← mergeRuns below threshold second.run top.run
      mergeAll threshold fuel (⟨merged, second.depth⟩ :: third :: rest)
  | _ + 1, [top, second] => (mergeRuns below threshold second.run top.run).map Prod.fst

/-- Cuts a list into runs and lets them wait, merging where it is time. -/
def cutRuns (size least : Nat) : (fuel start threshold : Nat) → List (Waiting α) → List α →
    Except ε (List (Waiting α) × Nat)
  | 0, _, threshold, waiting, _ => .ok (waiting, threshold)
  | _, _, threshold, waiting, [] => .ok (waiting, threshold)
  | fuel + 1, start, threshold, waiting, xs => do
    let (run, rest) ← nextRun below least xs
    let (waiting, threshold) ← addRun below size start threshold run waiting
    cutRuns size least fuel (start + run.length) threshold waiting rest

/-- The elements in ascending order, equals in the order given. -/
def sorted (xs : List α) : Except ε (List α) := do
  let size := xs.length
  let (waiting, threshold) ←
    cutRuns below size (leastRun false size size) size 0 Merge.worthLeaping [] xs
  mergeAll below threshold waiting.length waiting

end Collation.Sorting
