import ClassAtlas.Pattern.Program

/-!
Matching by backtracking. A program is run against a text from a position, and each way of
matching hands its end and its groups to a continuation; the first way whose continuation
succeeds is the match. Alternatives are tried in order; a greedy repetition tries one more
round before stopping, a lazy one stops before trying one more. A round that matches the empty
text ends a repetition once its fewest rounds are done, and a possessive repetition or an
atomic group keeps the first way its body matches.
-/

namespace ClassAtlas.Pattern

open ClassAtlas.Text

/-- Group boundaries found so far: group `g` starts at entry `2 * g - 2` and ends at
entry `2 * g - 1`. -/
abbrev Marks := Array (Option Nat)

/-- A match end and its groups, if the rest succeeds. -/
abbrev Outcome := Option (Nat × Marks)

/-- What happens after a part has matched: from its end, with its groups. -/
abbrev Next := Nat → Marks → Outcome

/-- A part of a program, run from a position with groups and a continuation. -/
abbrev Runner := Nat → Marks → Next → Outcome

def finish : Next := fun j m => some (j, m)

/-- Whether a character counts as a word character, in ASCII or Unicode terms. -/
def isWordAt (ascii : Bool) (c : Char) : Bool :=
  if ascii then c.val < 128 && (c = '_' || isAlnum c) else isWordChar c

/-- Whether position `i` of `text` lies between a word character and another character. -/
def atBoundary (text : Array Char) (ascii : Bool) (i : Nat) : Bool :=
  let before := match text[i - 1]? with
    | some c => i > 0 && isWordAt ascii c
    | none => false
  let after := match text[i]? with
    | some c => isWordAt ascii c
    | none => false
  before != after

/-- Whether an anchor holds at position `i`. -/
def Point.holds (text : Array Char) (i : Nat) : Point → Bool
  | .textStart => i = 0
  | .lineStart => i = 0 || text[i - 1]? == some '\n'
  | .textEnd => i = text.size
  | .finalEnd => i = text.size || (i + 1 = text.size && text[i]? == some '\n')
  | .lineEnd => i = text.size || text[i]? == some '\n'
  | .boundary ascii => text.size > 0 && atBoundary text ascii i
  | .nonBoundary ascii => text.size > 0 && !atBoundary text ascii i

/-- A greedy repetition after `count` rounds, at position `i`. -/
def greedyLoop (text : Array Char) (body : Runner) (lo : Nat) (hi : Option Nat)
    (count i : Nat) (m : Marks) (k : Next) : Outcome :=
  if count < lo then
    body i m fun j m' =>
      if h : i ≤ j ∧ j ≤ text.size then greedyLoop text body lo hi (count + 1) j m' k else none
  else
    let more :=
      if hi.all (count < ·) then
        body i m fun j m' =>
          if j = i then k j m'
          else if h : i < j ∧ j ≤ text.size then greedyLoop text body lo hi (count + 1) j m' k
          else none
      else none
    match more with
    | some r => some r
    | none => k i m
termination_by text.size - i + (lo - count)

/-- A lazy repetition after `count` rounds, at position `i`. -/
def lazyLoop (text : Array Char) (body : Runner) (lo : Nat) (hi : Option Nat)
    (count i : Nat) (m : Marks) (k : Next) : Outcome :=
  if count < lo then
    body i m fun j m' =>
      if h : i ≤ j ∧ j ≤ text.size then lazyLoop text body lo hi (count + 1) j m' k else none
  else
    match k i m with
    | some r => some r
    | none =>
      if hi.all (count < ·) then
        body i m fun j m' =>
          if j = i then k j m'
          else if h : i < j ∧ j ≤ text.size then lazyLoop text body lo hi (count + 1) j m' k
          else none
      else none
termination_by text.size - i + (lo - count)

/-- A possessive repetition after `count` rounds, at position `i`: each round keeps the first
way its body matches, and rounds are never given back. -/
def possessiveLoop (text : Array Char) (body : Runner) (lo : Nat) (hi : Option Nat)
    (count i : Nat) (m : Marks) (k : Next) : Outcome :=
  if count < lo then
    match body i m finish with
    | some (j, m') =>
      if h : i ≤ j ∧ j ≤ text.size then possessiveLoop text body lo hi (count + 1) j m' k else none
    | none => none
  else if hi.all (count < ·) then
    match body i m finish with
    | some (j, m') =>
      if j = i then k j m'
      else if h : i < j ∧ j ≤ text.size then possessiveLoop text body lo hi (count + 1) j m' k
      else none
    | none => k i m
  else k i m
termination_by text.size - i + (lo - count)

def groupSpan (m : Marks) (g : Nat) : Option (Nat × Nat) :=
  match m[2 * g - 2]?, m[2 * g - 1]? with
  | some (some s), some (some e) => if s ≤ e then some (s, e) else none
  | _, _ => none

/-- Whether the characters from `s` (`len` of them) recur at `i` under a fold. -/
def recursAt (text : Array Char) (fold : Fold) (s i : Nat) : Nat → Bool
  | 0 => true
  | len + 1 =>
    match text[s]?, text[i]? with
    | some a, some b => fold.apply a.toNat == fold.apply b.toNat && recursAt text fold (s + 1) (i + 1) len
    | _, _ => false

/-- Runs a program from position `i` with groups `m`, handing each way of matching to `k`. -/
def run (text : Array Char) : Prog → Runner
  | .empty, i, m, k => k i m
  | .char t, i, m, k =>
    match text[i]? with
    | some c => if t.holds c then k (i + 1) m else none
    | none => none
  | .seq a b, i, m, k => run text a i m fun j m' => run text b j m' k
  | .alt a b, i, m, k =>
    match run text a i m k with
    | some r => some r
    | none => run text b i m k
  | .loop lo hi mode body, i, m, k =>
    let step : Runner := fun j m' k' => run text body j m' k'
    match mode with
    | .greedy => greedyLoop text step lo hi 0 i m k
    | .lazy => lazyLoop text step lo hi 0 i m k
    | .possessive => possessiveLoop text step lo hi 0 i m k
  | .group g body, i, m, k =>
    run text body i (m.setIfInBounds (2 * g - 2) (some i)) fun j m' =>
      k j (m'.setIfInBounds (2 * g - 1) (some j))
  | .backref g fold, i, m, k =>
    match groupSpan m g with
    | some (s, e) => if recursAt text fold s i (e - s) then k (i + (e - s)) m else none
    | none => none
  | .point p, i, m, k => if p.holds text i then k i m else none
  | .look none negated body, i, m, k =>
    match run text body i m finish with
    | some (_, m') => if negated then none else k i m'
    | none => if negated then k i m else none
  | .look (some w) negated body, i, m, k =>
    if i < w then (if negated then k i m else none)
    else
      match run text body (i - w) m finish with
      | some (_, m') => if negated then none else k i m'
      | none => if negated then k i m else none
  | .atomic body, i, m, k =>
    match run text body i m finish with
    | some (j, m') => k j m'
    | none => none
  | .ifGroup g yes no, i, m, k =>
    if (groupSpan m g).isSome then run text yes i m k else run text no i m k

structure Found where
  start : Nat
  stop : Nat
  marks : Marks
  deriving Repr, Inhabited

def Found.group (f : Found) (text : Array Char) (g : Nat) : Option String :=
  (groupSpan f.marks g).map fun (s, e) => String.ofList (text.extract s e).toList

def Program.emptyMarks (p : Program) : Marks := Array.replicate (2 * p.groups) none

/-- The match of a program starting exactly at position `i`; with `nonEmpty` an empty match
there is refused. -/
def Program.matchAt (p : Program) (text : Array Char) (i : Nat) (nonEmpty : Bool) : Option Found :=
  (run text p.body i p.emptyMarks fun j m => if nonEmpty && j = i then none else some (j, m)).map
    fun (j, m) => ⟨i, j, m⟩

/-- The first match starting at `i` or later; `nonEmpty` refuses an empty match at `i` only. -/
def Program.searchFrom (p : Program) (text : Array Char) (i : Nat) (nonEmpty : Bool) : Option Found :=
  go i nonEmpty (text.size + 1 - i)
where
  go (i : Nat) (nonEmpty : Bool) : Nat → Option Found
    | 0 => none
    | fuel + 1 =>
      match p.matchAt text i nonEmpty with
      | some f => some f
      | none => go (i + 1) false fuel

def Program.search (p : Program) (s : String) : Option Found :=
  p.searchFrom s.toList.toArray 0 false

/-- The match at the start of a text. -/
def Program.matchStart (p : Program) (s : String) : Option Found :=
  p.matchAt s.toList.toArray 0 false

/-- All matches that do not overlap, left to right; after an empty match the next one may not
be empty at the same place. -/
def Program.findAll (p : Program) (text : Array Char) : List Found :=
  go 0 false (2 * text.size + 2)
where
  go (i : Nat) (nonEmpty : Bool) : Nat → List Found
    | 0 => []
    | fuel + 1 =>
      match p.searchFrom text i nonEmpty with
      | none => []
      | some f => f :: go f.stop (f.stop == f.start) fuel

def textBetween (text : Array Char) (a b : Nat) : String := String.ofList (text.extract a b).toList

/-- A text with every match replaced by `repl`. -/
def Program.replaceAll (p : Program) (s : String) (repl : String) : String :=
  let text := s.toList.toArray
  let rec pieces (pos : Nat) : List Found → List String
    | [] => [textBetween text pos text.size]
    | f :: rest => textBetween text pos f.start :: repl :: pieces f.stop rest
  String.join (pieces 0 (p.findAll text))

end ClassAtlas.Pattern
