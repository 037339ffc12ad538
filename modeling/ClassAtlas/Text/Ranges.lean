/-!
Tables of code points: sorted, disjoint closed ranges searched by halving, and runs of a
case map, each moving every `stride`-th code point of a range by one offset.
-/

namespace ClassAtlas.Text

/-- The range of `table` (sorted, disjoint) that holds `c`, searched between `lo` and `hi`. -/
def rangeIn (table : Array (Nat × Nat)) (c : Nat) (lo hi : Nat) : Option (Nat × Nat) :=
  if _h : lo < hi then
    let mid := (lo + hi) / 2
    match table[mid]? with
    | none => none
    | some (a, b) =>
      if c < a then rangeIn table c lo mid
      else if b < c then rangeIn table c (mid + 1) hi
      else some (a, b)
  else none
termination_by hi - lo

def rangeOf? (table : Array (Nat × Nat)) (c : Nat) : Option Nat :=
  (rangeIn table c 0 table.size).map Prod.fst

def inRanges (table : Array (Nat × Nat)) (c : Nat) : Bool :=
  (rangeIn table c 0 table.size).isSome

/-- The value stored under `key` in `table` (sorted by key, keys distinct), searched between
`lo` and `hi`. -/
def lookupIn {α : Type} (table : Array (Nat × α)) (key : Nat) (lo hi : Nat) : Option α :=
  if _h : lo < hi then
    let mid := (lo + hi) / 2
    match table[mid]? with
    | none => none
    | some (k, v) =>
      if key < k then lookupIn table key lo mid
      else if k < key then lookupIn table key (mid + 1) hi
      else some v
  else none
termination_by hi - lo

def lookupKey {α : Type} (table : Array (Nat × α)) (key : Nat) : Option α :=
  lookupIn table key 0 table.size

/-- A run of a case map: the code points `lo`, `lo + stride`, … up to `hi` move by `delta`. -/
structure CaseRun where
  lo : Nat
  hi : Nat
  stride : Nat
  delta : Int

/-- The run of `runs` (sorted by `lo`, spans disjoint) whose span holds `c`. -/
def CaseRun.find (runs : Array CaseRun) (c : Nat) (lo hi : Nat) : Option CaseRun :=
  if _h : lo < hi then
    let mid := (lo + hi) / 2
    match runs[mid]? with
    | none => none
    | some r =>
      if c < r.lo then CaseRun.find runs c lo mid
      else if r.hi < c then CaseRun.find runs c (mid + 1) hi
      else some r
  else none
termination_by hi - lo

/-- The image of `c` under the map that `runs` describe; code points outside them stay. -/
def CaseRun.apply (runs : Array CaseRun) (c : Nat) : Nat :=
  match CaseRun.find runs c 0 runs.size with
  | some r => if (c - r.lo) % r.stride = 0 then (c + r.delta).toNat else c
  | none => c

end ClassAtlas.Text
