/-!
How alike two words are, for suggesting a name when a mistyped one is not known. Two texts are
matched by taking their longest common run of characters and matching what lies before it and
after it in the same way; their likeness is twice the characters matched over the characters
of both. In a text of 200 characters or more, a character that makes up more than one percent of
it does not start a run, though it may lengthen one. A name is suggested when its likeness to
the word is at least three fifths; at most three are suggested, the likest first.
-/

namespace ClassAtlas.Command

/-- A common run: where it starts in the first text, where in the second, and its length. -/
structure Run where
  first : Nat
  second : Nat
  size : Nat
  deriving Repr, Inhabited

/-- The characters of a text too frequent to start a run: those that make up more than one
percent of a text of at least 200 characters. -/
def frequentIn (b : Array Char) : List Char :=
  if b.size < 200 then []
  else
    let bound := b.size / 100 + 1
    (b.toList.eraseDups).filter fun c => (b.toList.count c) > bound

def positionsOf (b : Array Char) (frequent : List Char) (c : Char) : List Nat :=
  if frequent.contains c then [] else (List.range b.size).filter fun j => b[j]? == some c

/-- A run lengthened backwards while the characters before it agree. The fuel bounds the
steps. -/
def growBack (a b : Array Char) (alo blo : Nat) : Nat → Run → Run
  | 0, r => r
  | fuel + 1, r =>
    if alo < r.first && blo < r.second && a[r.first - 1]? == b[r.second - 1]? then
      growBack a b alo blo fuel ⟨r.first - 1, r.second - 1, r.size + 1⟩
    else r

/-- A run lengthened forwards while the characters after it agree. The fuel bounds the
steps. -/
def growOn (a b : Array Char) (ahi bhi : Nat) : Nat → Run → Run
  | 0, r => r
  | fuel + 1, r =>
    if r.first + r.size < ahi && r.second + r.size < bhi &&
        a[r.first + r.size]? == b[r.second + r.size]? then
      growOn a b ahi bhi fuel { r with size := r.size + 1 }
    else r

/-- The longest common run of `a` between `alo` and `ahi` and `b` between `blo` and `bhi`;
of the longest, the one that starts first in `a`, then first in `b`. -/
def longestRun (a b : Array Char) (frequent : List Char) (alo ahi blo bhi : Nat) : Run :=
  let step (state : List (Nat × Nat) × Run) (i : Nat) : List (Nat × Nat) × Run :=
    let (ending, best) := state
    let js := (positionsOf b frequent (a.getD i ' ')).filter fun j => blo ≤ j && j < bhi
    js.foldl (fun (acc : List (Nat × Nat) × Run) j =>
      let (fresh, best) := acc
      let k := (if j = 0 then 0 else (ending.lookup (j - 1)).getD 0) + 1
      let best := if k > best.size then ⟨i + 1 - k, j + 1 - k, k⟩ else best
      ((j, k) :: fresh, best)) ([], best)
  let (_, best) := ((List.range (ahi - alo)).map (· + alo)).foldl step ([], ⟨alo, blo, 0⟩)
  let best := growBack a b alo blo (a.size + 1) best
  growOn a b ahi bhi (a.size + 1) best

/-- The characters matched between `a` and `b` within the given bounds. The fuel bounds the
depth of the matching. -/
def matchedWithin (a b : Array Char) (frequent : List Char) : Nat → Nat → Nat → Nat → Nat → Nat
  | 0, _, _, _, _ => 0
  | fuel + 1, alo, ahi, blo, bhi =>
    let r := longestRun a b frequent alo ahi blo bhi
    if r.size = 0 then 0
    else
      r.size +
        (if alo < r.first && blo < r.second then matchedWithin a b frequent fuel alo r.first blo r.second
         else 0) +
        (if r.first + r.size < ahi && r.second + r.size < bhi then
          matchedWithin a b frequent fuel (r.first + r.size) ahi (r.second + r.size) bhi
         else 0)

def matched (candidate word : String) : Nat :=
  let a := candidate.toList.toArray
  let b := word.toList.toArray
  matchedWithin a b (frequentIn b) (a.size + 1) 0 a.size 0 b.size

def likeness (candidate word : String) : Nat × Nat :=
  (matched candidate word, candidate.length + word.length)

/-- Whether a likeness reaches three fifths. -/
def closeEnough (l : Nat × Nat) : Bool := l.2 = 0 || 10 * l.1 ≥ 3 * l.2

/-- Whether one likeness ranks before another: higher first, then the later name. -/
def ranksBefore (x y : (Nat × Nat) × String) : Bool :=
  let (lx, nx) := x
  let (ly, ny) := y
  let sx := if lx.2 = 0 then (1, 1) else (2 * lx.1, lx.2)
  let sy := if ly.2 = 0 then (1, 1) else (2 * ly.1, ly.2)
  sx.1 * sy.2 > sy.1 * sx.2 || (sx.1 * sy.2 = sy.1 * sx.2 && ny < nx)

/-- The names close enough to a word, at most three, the likest first. -/
def closeMatches (word : String) (names : List String) : List String :=
  let scored := (names.map fun n => (likeness n word, n)).filter fun (l, _) => closeEnough l
  ((scored.mergeSort ranksBefore).take 3).map (·.2)

end ClassAtlas.Command
