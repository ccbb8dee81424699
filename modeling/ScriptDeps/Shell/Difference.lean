/-
How two sequences differ.

Few items are left out of the first one and put into the second one: the search runs from both
ends at once until the two meet, and then on either side of the place where they met.  Runs of
changed items are then moved to where they join others, or else as far back as they can go.
-/
import ScriptDeps.Shell.Bytes

namespace ScriptDeps.Shell.Difference

/-- Two sequences, by the numbers of their items. -/
structure Pair where
  xs : Array Nat
  ys : Array Nat

/-- Two items are the same. -/
def Pair.same (p : Pair) (x y : Int) : Bool :=
  0 ≤ x && 0 ≤ y && (p.xs[x.toNat]?).isSome && p.xs[x.toNat]? == p.ys[y.toNat]?

/-- A part of both sequences: from one place up to another in each. -/
structure Part where
  xLow : Int
  xHigh : Int
  yLow : Int
  yHigh : Int

/-- The number of steps that a search in a part can take. -/
def Part.size (a : Part) : Nat :=
  (a.xHigh - a.xLow).toNat + (a.yHigh - a.yLow).toNat

/-! ### The middle -/

/-- How far a search has come on each diagonal. -/
structure Reach where
  /-- The number that is added to that of a diagonal. -/
  shift : Int
  far : Array Int

def Reach.at (r : Reach) (d : Int) : Int :=
  (r.far[(d + r.shift).toNat]?).getD 0

def Reach.put (r : Reach) (d x : Int) : Reach :=
  { r with far := r.far.setIfInBounds (d + r.shift).toNat x }

/-- The place up to which a diagonal goes on with the same items. -/
def slideDown (p : Pair) (a : Part) : Nat → Int → Int → Int × Int
  | 0, x, y => (x, y)
  | fuel + 1, x, y =>
    if x < a.xHigh && y < a.yHigh && p.same x y then slideDown p a fuel (x + 1) (y + 1) else (x, y)

/-- The place from which a diagonal comes with the same items. -/
def slideUp (p : Pair) (a : Part) : Nat → Int → Int → Int × Int
  | 0, x, y => (x, y)
  | fuel + 1, x, y =>
    if a.xLow < x && a.yLow < y && p.same (x - 1) (y - 1) then slideUp p a fuel (x - 1) (y - 1)
    else (x, y)

/-- The range of diagonals that a search is on. -/
structure Span where
  low : Int
  high : Int

/-- The range after one more step, and the reach with the ends of the range set. -/
def Span.wider (s : Span) (least most edge : Int) (r : Reach) : Span × Reach :=
  let (low, r) := if least < s.low then (s.low - 1, r.put (s.low - 2) edge) else (s.low + 1, r)
  let (high, r) := if s.high < most then (s.high + 1, r.put (s.high + 2) edge) else (s.high - 1, r)
  (⟨low, high⟩, r)

/-- One step from the start on the diagonals from one downwards, and where the two searches met. -/
def stepDown (p : Pair) (a : Part) (odd : Bool) (back : Span) (backReach : Reach) (low : Int) :
    Nat → Int → Reach → Reach × Option (Int × Int)
  | 0, _, r => (r, none)
  | fuel + 1, d, r =>
    if d < low then (r, none)
    else
      let before := r.at (d - 1)
      let after := r.at (d + 1)
      let start := if before < after then after else before + 1
      let (x, y) := slideDown p a a.size start (start - d)
      let r := r.put d x
      if odd && back.low ≤ d && d ≤ back.high && backReach.at d ≤ x then (r, some (x, y))
      else stepDown p a odd back backReach low fuel (d - 2) r

/-- One step from the end on the diagonals from one downwards, and where the two searches met. -/
def stepUp (p : Pair) (a : Part) (odd : Bool) (front : Span) (frontReach : Reach) (low : Int) :
    Nat → Int → Reach → Reach × Option (Int × Int)
  | 0, _, r => (r, none)
  | fuel + 1, d, r =>
    if d < low then (r, none)
    else
      let before := r.at (d - 1)
      let after := r.at (d + 1)
      let start := if before < after then before else after - 1
      let (x, y) := slideUp p a a.size start (start - d)
      let r := r.put d x
      if !odd && front.low ≤ d && d ≤ front.high && x ≤ frontReach.at d then (r, some (x, y))
      else stepUp p a odd front frontReach low fuel (d - 2) r

/-- The search from both ends. -/
def meet (p : Pair) (a : Part) (odd : Bool) :
    Nat → Span → Reach → Span → Reach → Option (Int × Int)
  | 0, _, _, _, _ => none
  | fuel + 1, front, frontReach, back, backReach =>
    let least := a.xLow - a.yHigh
    let most := a.xHigh - a.yLow
    let (front, frontReach) := front.wider least most (-1) frontReach
    let (frontReach, met) :=
      stepDown p a odd back backReach front.low (a.size + 2) front.high frontReach
    match met with
    | some m => some m
    | none =>
      let (back, backReach) := back.wider least most (a.xHigh + a.yHigh + 1) backReach
      let (backReach, met) :=
        stepUp p a odd front frontReach back.low (a.size + 2) back.high backReach
      match met with
      | some m => some m
      | none => meet p a odd fuel front frontReach back backReach

/-- The place in the middle of a part where the searches meet. -/
def middle? (p : Pair) (a : Part) : Option (Int × Int) :=
  let front := a.xLow - a.yLow
  let back := a.xHigh - a.yHigh
  let shift := a.yHigh - a.xLow + 2
  let empty : Reach := ⟨shift, Array.replicate (a.size + 5) 0⟩
  meet p a ((front - back) % 2 != 0) (a.size + 1) ⟨front, front⟩ (empty.put front a.xLow)
    ⟨back, back⟩ (empty.put back a.xHigh)

/-! ### What is changed -/

/-- The items that are left out of the first sequence and those that are put into the second. -/
structure Changes where
  dropped : List Nat
  added : List Nat

def Changes.join (a b : Changes) : Changes :=
  ⟨a.dropped ++ b.dropped, a.added ++ b.added⟩

/-- The numbers from one up to another. -/
def between (low high : Int) : List Nat :=
  (List.range (high - low).toNat).map fun i => low.toNat + i

/-- What is changed in a part. -/
def changesIn (p : Pair) : Nat → Part → Changes
  | 0, a => ⟨between a.xLow a.xHigh, between a.yLow a.yHigh⟩
  | fuel + 1, a =>
    let (xLow, yLow) := slideDown p a a.size a.xLow a.yLow
    let a := { a with xLow, yLow }
    let (xHigh, yHigh) := slideUp p a a.size a.xHigh a.yHigh
    let a := { a with xHigh, yHigh }
    if a.xLow == a.xHigh || a.yLow == a.yHigh then
      ⟨between a.xLow a.xHigh, between a.yLow a.yHigh⟩
    else
      match middle? p a with
      | none => ⟨between a.xLow a.xHigh, between a.yLow a.yHigh⟩
      | some (x, y) =>
        (changesIn p fuel { a with xHigh := x, yHigh := y }).join
          (changesIn p fuel { a with xLow := x, yLow := y })

/-! ### Moving runs -/

/-- The items of a sequence with the marks of those that are changed, and the marks of the other
sequence.  There is an unmarked item in front of each and one behind it. -/
structure Moving where
  items : Array Nat
  marks : Array Bool
  others : Array Bool

namespace Moving

def isMarked (m : Moving) (i : Int) : Bool :=
  0 ≤ i && (m.marks[i.toNat]?).getD false

def isOtherMarked (m : Moving) (j : Int) : Bool :=
  0 ≤ j && (m.others[j.toNat]?).getD false

def mark (m : Moving) (i : Int) (on : Bool) : Moving :=
  { m with marks := m.marks.setIfInBounds i.toNat on }

def areSame (m : Moving) (i k : Int) : Bool :=
  0 ≤ i && 0 ≤ k && m.items[i.toNat]? == m.items[k.toNat]?

/-- The first place from one on where a test fails. -/
def passing (test : Int → Bool) (step : Int) : Nat → Int → Int
  | 0, i => i
  | fuel + 1, i => if test i then passing test step fuel (i + step) else i

/-- A run of marked items and the place in the other sequence that belongs to its end. -/
structure Run where
  start : Int
  stop : Int
  other : Int
  /-- The last end of the run at which it stood beside a run of the other sequence. -/
  beside : Int

/-- The run moved back while what stands before it is the same as its end. -/
def back (fuel : Nat) : Nat → Moving → Run → Moving × Run
  | 0, m, r => (m, r)
  | n + 1, m, r =>
    if 0 < r.start && m.areSame (r.start - 1) (r.stop - 1) then
      let m := (m.mark (r.start - 1) true).mark (r.stop - 1) false
      let start := passing (fun i => m.isMarked (i - 1)) (-1) fuel (r.start - 1)
      let other := passing m.isOtherMarked (-1) fuel (r.other - 1)
      back fuel n m { r with start, stop := r.stop - 1, other }
    else (m, r)

/-- The run moved on while its start is the same as what stands behind it. -/
def forth (fuel : Nat) : Nat → Moving → Run → Moving × Run
  | 0, m, r => (m, r)
  | n + 1, m, r =>
    if r.stop < m.items.size && m.areSame r.start r.stop then
      let m := (m.mark r.start false).mark r.stop true
      let stop := passing m.isMarked 1 fuel (r.stop + 1)
      let other := passing m.isOtherMarked 1 fuel (r.other + 1)
      let beside := if r.other + 1 < other then stop else r.beside
      forth fuel n m { start := r.start + 1, stop, other, beside }
    else (m, r)

/-- The run moved until it joins no other any more. -/
def settle (fuel : Nat) : Nat → Moving → Run → Moving × Run
  | 0, m, r => (m, r)
  | n + 1, m, r =>
    let length := r.stop - r.start
    let (m, r) := back fuel fuel m r
    let r := { r with beside := if m.isOtherMarked (r.other - 1) then r.stop else m.items.size }
    let (m, r) := forth fuel fuel m r
    if r.stop - r.start == length then (m, r) else settle fuel n m r

/-- The run moved back to where it stood beside a run of the other sequence. -/
def besides (fuel : Nat) : Nat → Moving → Run → Moving × Run
  | 0, m, r => (m, r)
  | n + 1, m, r =>
    if r.beside < r.stop then
      let m := (m.mark (r.start - 1) true).mark (r.stop - 1) false
      let other := passing m.isOtherMarked (-1) fuel (r.other - 1)
      besides fuel n m { r with start := r.start - 1, stop := r.stop - 1, other }
    else (m, r)

/-- The place of the next marked item, and the place in the other sequence that belongs to it. -/
def nextRun (m : Moving) (fuel : Nat) : Nat → Int → Int → Int × Int
  | 0, i, j => (i, j)
  | n + 1, i, j =>
    if i < m.items.size && !m.isMarked i then
      nextRun m fuel n (i + 1) (passing m.isOtherMarked 1 fuel j + 1)
    else (i, j)

/-- All runs from a place on moved. -/
def all (fuel : Nat) : Nat → Int → Int → Moving → Moving
  | 0, _, _, m => m
  | n + 1, i, j, m =>
    let (i, j) := m.nextRun fuel fuel i j
    if m.items.size ≤ i then m
    else
      let stop := passing m.isMarked 1 fuel (i + 1)
      let other := passing m.isOtherMarked 1 fuel j
      let (m, r) := settle fuel fuel m ⟨i, stop, other, 0⟩
      let (m, r) := besides fuel fuel m r
      all fuel n r.stop r.other m

end Moving

/-- The marks of the items at some places. -/
def marksOf (size : Nat) (places : List Nat) : Array Bool :=
  places.foldl (fun marks i => marks.setIfInBounds i true) (Array.replicate size false)

/-- A change: from where on and how many items are left out, and from where on and how many are put
in. -/
structure Change where
  from_ : Nat
  dropped : Nat
  to_ : Nat
  added : Nat
  deriving DecidableEq, Repr

/-- The changes that marks tell of. -/
def changesOf (a b : Array Bool) : Nat → Nat → Nat → List Change
  | 0, _, _ => []
  | fuel + 1, i, j =>
    if a.size ≤ i && b.size ≤ j then []
    else
      let run := fun (marks : Array Bool) (i : Nat) =>
        (Moving.passing (fun k => (marks[k.toNat]?).getD false) 1 marks.size i).toNat - i
      let dropped := run a i
      let added := run b j
      if dropped == 0 && added == 0 then changesOf a b fuel (i + 1) (j + 1)
      else ⟨i, dropped, j, added⟩ :: changesOf a b fuel (i + dropped) (j + added)

/-- How two sequences of numbers differ. -/
def changes (xs ys : List Nat) : List Change :=
  let inY := fun x => ys.contains x
  let inX := fun y => xs.contains y
  -- What the other sequence lacks is changed in any case.
  let keptX := (xs.zipIdx.filter fun (x, _) => inY x)
  let keptY := (ys.zipIdx.filter fun (y, _) => inX y)
  let p : Pair := ⟨(keptX.map Prod.fst).toArray, (keptY.map Prod.fst).toArray⟩
  let size := p.xs.size + p.ys.size
  let found := changesIn p (size + 1) ⟨0, p.xs.size, 0, p.ys.size⟩
  let placesX := (keptX.map Prod.snd).toArray
  let placesY := (keptY.map Prod.snd).toArray
  let marksX := marksOf xs.length
    ((xs.zipIdx.filterMap fun (x, i) => if inY x then none else some i) ++
      found.dropped.filterMap fun i => placesX[i]?)
  let marksY := marksOf ys.length
    ((ys.zipIdx.filterMap fun (y, i) => if inX y then none else some i) ++
      found.added.filterMap fun i => placesY[i]?)
  let fuel := xs.length + ys.length + 2
  let marksX := (Moving.all fuel fuel 0 0 ⟨xs.toArray, marksX, marksY⟩).marks
  let marksY := (Moving.all fuel fuel 0 0 ⟨ys.toArray, marksY, marksX⟩).marks
  changesOf marksX marksY (fuel + 1) 0 0

end ScriptDeps.Shell.Difference
