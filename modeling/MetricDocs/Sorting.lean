/-
  Sorting by an order that may fail.

  The sort is stable and takes advantage of runs that are sorted already.  Which comparisons it
  makes, and in which order, is part of what it does: a comparison that fails ends it, and the first
  that does so is the failure of the whole.

  * `gallop` finds the place of an element in a sorted run by strides that grow;
  * `nextRun` takes the leading run of a list, `insertAll` brings it up to a length;
  * `mergeUp` and `mergeDown` merge two neighbouring runs from their begins and from their ends,
    `mergeRuns` whichever moves fewer elements;
  * `sort` sorts a list: runs are merged as soon as a run of less weight follows them.
-/
namespace MetricDocs.Sorting

variable {α ε : Type}

/-! ## Places in a run -/

/-- A test of the element at a place; there is none behind the end. -/
def testAt (as : Array α) (p : α → Except ε Bool) (i : Nat) : Except ε Bool :=
  match as[i]? with
  | some a => p a
  | none => .ok false

/-- The first place from `lo` to `hi` at whose element the test says yes, by halving.  The first
    number bounds the halvings. -/
def search (as : Array α) (p : α → Except ε Bool) : Nat → Nat → Nat → Except ε Nat
  | 0, lo, _ => .ok lo
  | fuel + 1, lo, hi =>
    if lo < hi then do
      let mid := lo + (hi - lo) / 2
      if ← testAt as p mid then search as p fuel lo mid else search as p fuel (mid + 1) hi
    else .ok lo

/-- Strides of 1, 3, 7, … below a limit, as long as a test says yes: the last one that was good and
    the next one. -/
def stride (p : Nat → Except ε Bool) (limit : Nat) : Nat → Nat → Nat → Except ε (Nat × Nat)
  | 0, last, next => .ok (last, min next limit)
  | fuel + 1, last, next =>
    if next < limit then do
      if ← p next then stride p limit fuel next (2 * next + 1) else .ok (last, next)
    else .ok (last, limit)

/-- The first place at whose element the test says yes, looked for from the place `hint` on. -/
def gallop (as : Array α) (p : α → Except ε Bool) (hint : Nat) : Except ε Nat := do
  if ← testAt as p hint then
    let (last, next) ← stride (fun n => testAt as p (hint - n)) (hint + 1) as.size 0 1
    search as p as.size (hint + 1 - next) (hint - last)
  else
    let miss (n : Nat) : Except ε Bool := (testAt as p (hint + n)).map (!·)
    let (last, next) ← stride miss (as.size - hint) as.size 0 1
    search as p as.size (hint + last + 1) (hint + next)

/-! ## Runs -/

variable (less : α → α → Except ε Bool)

/-- The elements that follow the element `last` as long as each is before its neighbour (`down`) or
    none is: what was taken, last element first, and the rest. -/
def runFrom (down : Bool) (last : α) (taken : List α) : List α → Except ε (List α × List α)
  | [] => .ok (last :: taken, [])
  | a :: as => do
    if (← less a last) = down then runFrom down a (last :: taken) as
    else .ok (last :: taken, a :: as)

/-- The leading run of a list in order, and the rest.  A falling run is turned round. -/
def nextRun : List α → Except ε (Array α × List α)
  | a :: b :: as => do
    let down ← less b a
    let (taken, rest) ← runFrom less down b [a] as
    .ok ((if down then taken else taken.reverse).toArray, rest)
  | as => .ok (as.toArray, [])

/-- Inserts elements one after another into a run, each behind its equals. -/
def insertAll (run : Array α) : List α → Except ε (Array α)
  | [] => .ok run
  | a :: as => do
    let i ← search run (less a) run.size 0 run.size
    insertAll (run.insertIdxIfInBounds i a) as

/-! ## Merging -/

/-- The number of wins in a row from which galloping is worth while. -/
def worthGalloping : Nat := 7

/-- What merging leaves: the merged elements, and the patience with which the next merging begins. -/
abbrev Merged (α : Type) := Array α × Nat

/-- How merging goes on: one element at a time, with the wins in a row of either run, or galloping. -/
inductive Pace where
  | steps (left right : Nat)
  | gallops

/-- Merges from the begins, behind `out`; both runs have elements left.  The first number bounds the
    turns.  The last element of the left run is the last of all. -/
def mergeUp : Nat → Pace → Nat → Array α → Array α → Array α → Except ε (Merged α)
  | 0, _, patience, out, left, right => .ok (out ++ left ++ right, patience)
  | fuel + 1, .steps wonLeft wonRight, patience, out, left, right =>
    match left[0]?, right[0]? with
    | some a, some b => do
      if ← less b a then
        let out := out.push b
        let right := right.extract 1
        if right.isEmpty then return (out ++ left, patience)
        mergeUp fuel (if patience ≤ wonRight + 1 then .gallops else .steps 0 (wonRight + 1))
          (if patience ≤ wonRight + 1 then patience + 1 else patience) out left right
      else
        let out := out.push a
        let left := left.extract 1
        if left.size ≤ 1 then return (out ++ right ++ left, patience)
        mergeUp fuel (if patience ≤ wonLeft + 1 then .gallops else .steps (wonLeft + 1) 0)
          (if patience ≤ wonLeft + 1 then patience + 1 else patience) out left right
    | _, _ => .ok (out ++ left ++ right, patience)
  | fuel + 1, .gallops, patience, out, left, right =>
    let patience := max 1 (patience - 1)
    match right[0]? with
    | none => .ok (out ++ left, patience)
    | some b => do
      let i ← gallop left (less b) 0
      let out := out ++ left.extract 0 i
      let left := left.extract i
      if i ≠ 0 && left.size ≤ 1 then return (out ++ right ++ left, patience)
      let out := out.push b
      let right := right.extract 1
      match left[0]? with
      | none => return (out ++ right, patience)
      | some a =>
        if right.isEmpty then return (out ++ left, patience)
        let j ← gallop right (fun x => (less x a).map (!·)) 0
        let out := out ++ right.extract 0 j
        let right := right.extract j
        if right.isEmpty then return (out ++ left, patience)
        let out := out.push a
        let left := left.extract 1
        if left.size ≤ 1 then return (out ++ right ++ left, patience)
        if worthGalloping ≤ i || worthGalloping ≤ j then
          mergeUp fuel .gallops patience out left right
        else mergeUp fuel (.steps 0 0) (patience + 1) out left right

/-- Merges from the ends, in front of `out`; both runs have elements left.  The first element of the
    right run is the first of all. -/
def mergeDown : Nat → Pace → Nat → Array α → Array α → Array α → Except ε (Merged α)
  | 0, _, patience, left, right, out => .ok (left ++ right ++ out, patience)
  | fuel + 1, .steps wonLeft wonRight, patience, left, right, out =>
    match left.back?, right.back? with
    | some a, some b => do
      if ← less b a then
        let out := #[a] ++ out
        let left := left.pop
        if left.isEmpty then return (right ++ out, patience)
        mergeDown fuel (if patience ≤ wonLeft + 1 then .gallops else .steps (wonLeft + 1) 0)
          (if patience ≤ wonLeft + 1 then patience + 1 else patience) left right out
      else
        let out := #[b] ++ out
        let right := right.pop
        if right.size ≤ 1 then return (right ++ left ++ out, patience)
        mergeDown fuel (if patience ≤ wonRight + 1 then .gallops else .steps 0 (wonRight + 1))
          (if patience ≤ wonRight + 1 then patience + 1 else patience) left right out
    | _, _ => .ok (left ++ right ++ out, patience)
  | fuel + 1, .gallops, patience, left, right, out =>
    let patience := max 1 (patience - 1)
    match right.back? with
    | none => .ok (left ++ out, patience)
    | some b => do
      let i ← gallop left (less b) (left.size - 1)
      let wonLeft := left.size - i
      let out := left.extract i ++ out
      let left := left.extract 0 i
      match left.back? with
      | none => return (right ++ out, patience)
      | some a =>
        let out := #[b] ++ out
        let right := right.pop
        if right.size ≤ 1 then return (right ++ left ++ out, patience)
        let j ← gallop right (fun x => (less x a).map (!·)) (right.size - 1)
        let wonRight := right.size - j
        let out := right.extract j ++ out
        let right := right.extract 0 j
        if wonRight ≠ 0 && right.size ≤ 1 then return (right ++ left ++ out, patience)
        let out := #[a] ++ out
        let left := left.pop
        if left.isEmpty then return (right ++ out, patience)
        if worthGalloping ≤ wonLeft || worthGalloping ≤ wonRight then
          mergeDown fuel .gallops patience left right out
        else mergeDown fuel (.steps 0 0) (patience + 1) left right out

/-- Merges two neighbouring runs.  What is before the begin of the right run or behind the end of the
    left one stays where it is; the longer run is moved from its far end. -/
def mergeRuns (patience : Nat) (left right : Array α) : Except ε (Merged α) :=
  match right[0]? with
  | none => .ok (left, patience)
  | some first => do
    let i ← gallop left (less first) 0
    let start := left.extract 0 i
    let left := left.extract i
    match left.back? with
    | none => return (start ++ right, patience)
    | some last =>
      let j ← gallop right (fun x => (less x last).map (!·)) (right.size - 1)
      let rest := right.extract j
      let right := right.extract 0 j
      if right.isEmpty then return (start ++ left ++ rest, patience)
      let fuel := left.size + right.size + 1
      let (merged, patience) ←
        if left.size ≤ right.size then
          let out := right.extract 0 1
          let right := right.extract 1
          if right.isEmpty then .ok (out ++ left, patience)
          else if left.size ≤ 1 then .ok (out ++ right ++ left, patience)
          else mergeUp less fuel (.steps 0 0) patience out left right
        else
          let out := left.extract (left.size - 1)
          let left := left.pop
          if left.isEmpty then .ok (right ++ out, patience)
          else if right.size ≤ 1 then .ok (right ++ left ++ out, patience)
          else mergeDown less fuel (.steps 0 0) patience left right out
      return (start ++ merged ++ rest, patience)

/-! ## Sorting -/

/-- A run that waits to be merged: its elements, the place of the first of them, and the power of the
    border behind it. -/
structure Waiting (α : Type) where
  run : Array α
  start : Nat
  power : Nat

/-- The number of the first binary place in which two quotients by `n`, both below one, differ.  The
    first number bounds the places. -/
def firstDifference (n : Nat) : Nat → Nat → Nat → Nat
  | 0, _, _ => 0
  | fuel + 1, a, b =>
    if n ≤ a then 1 + firstDifference n fuel (2 * (a - n)) (2 * (b - n))
    else if n ≤ b then 1
    else 1 + firstDifference n fuel (2 * a) (2 * b)

/-- The power of the border between two runs that begin at `start`, in a list of length `n`: how often
    the list has to be halved until their middles are told apart. -/
def borderPower (n start left right : Nat) : Nat :=
  let a := 2 * start + left
  firstDifference n (n + 1) a (a + left + right)

/-- Merges the runs on top as long as the border below them has more power than the next one. -/
def mergeAbove (power : Nat) : Nat → List (Waiting α) → Nat → Except ε (List (Waiting α) × Nat)
  | _, [], patience => .ok ([], patience)
  | _, [w], patience => .ok ([{ w with power := power }], patience)
  | 0, ws, patience => .ok (ws, patience)
  | fuel + 1, w :: v :: ws, patience =>
    if power < v.power then do
      let (run, patience) ← mergeRuns less patience v.run w.run
      mergeAbove power fuel (⟨run, v.start, v.power⟩ :: ws) patience
    else .ok ({ w with power := power } :: v :: ws, patience)

/-- Merges all runs, the last one first. -/
def mergeAll : Nat → List (Waiting α) → Nat → Except ε (Array α)
  | _, [], _ => .ok #[]
  | _, [w], _ => .ok w.run
  | 0, ws, _ => .ok (ws.foldl (fun out w => w.run ++ out) #[])
  | fuel + 1, w :: v :: u :: ws, patience =>
    if u.run.size < w.run.size then do
      let (run, patience) ← mergeRuns less patience u.run v.run
      mergeAll fuel (w :: ⟨run, u.start, u.power⟩ :: ws) patience
    else do
      let (run, patience) ← mergeRuns less patience v.run w.run
      mergeAll fuel (⟨run, v.start, v.power⟩ :: u :: ws) patience
  | _ + 1, [w, v], patience => do
    let (run, _) ← mergeRuns less patience v.run w.run
    .ok run

/-- The least length of a run in a list of length `n`: the first six binary digits of `n`, one more
    if there are others than zeros behind them.  The first number bounds the halvings. -/
def leastRun : Nat → Nat → Nat → Nat
  | 0, n, odd => n + odd
  | fuel + 1, n, odd => if n < 64 then n + odd else leastRun fuel (n / 2) (max odd (n % 2))

/-- Takes runs off a list of length `n` and merges them. -/
def sortRuns (n : Nat) :
    Nat → List α → Nat → List (Waiting α) → Nat → Except ε (Array α)
  | 0, _, _, ws, patience => mergeAll less ws.length ws patience
  | _, [], _, ws, patience => mergeAll less ws.length ws patience
  | fuel + 1, as, start, ws, patience => do
    let (run, rest) ← nextRun less as
    let missing := leastRun n n 0 - run.size
    let run ← insertAll less run (rest.take missing)
    let rest := rest.drop missing
    let (ws, patience) ← match ws with
      | [] => .ok ([], patience)
      | w :: _ => mergeAbove less (borderPower n w.start w.run.size run.size) ws.length ws patience
    sortRuns n fuel rest (start + run.size) (⟨run, start, 0⟩ :: ws) patience

def sort (as : List α) : Except ε (List α) :=
  (sortRuns less as.length as.length as 0 [] worthGalloping).map Array.toList

end MetricDocs.Sorting
