import ClassAtlas.Pattern.Parse
import ClassAtlas.Text.Case
import ClassAtlas.Text.Blank
import ClassAtlas.Text.Letter

/-!
Programs: patterns with their flags worked in, ready to match. Ignoring case, a character is
lowered before it is tested, and a literal or a set is lowered likewise, with the extra
identifications of case folding (long s with s, Kelvin sign with k). A set whose members have no
case at all tests characters as they are. Members beyond the Basic Multilingual Plane are kept
as written and tested against the lowered character, and ranges reaching past it also accept a
character whose upper case lies in them.
-/

namespace ClassAtlas.Pattern

open ClassAtlas.Text

def isScalar (c : Nat) : Bool := c < 0xD800 || (0xE000 ≤ c && c < 0x110000)

/-- The simple lower case of a code point; other numbers stay. -/
def lowerCode (c : Nat) : Nat :=
  if c < 128 then (if 65 ≤ c && c ≤ 90 then c + 32 else c)
  else if isScalar c then (lowerSimple (Char.ofNat c)).toNat else c

/-- The simple upper case of a code point; other numbers stay. -/
def upperCode (c : Nat) : Nat :=
  if c < 128 then (if 97 ≤ c && c ≤ 122 then c - 32 else c)
  else if isScalar c then (upperSimple (Char.ofNat c)).toNat else c

def movesCode (c : Nat) : Bool := lowerCode c != c || upperCode c != c

/-- How a character is brought to one case before it is tested. -/
inductive Fold where
  | exact
  | ascii
  | unicode
  deriving DecidableEq, Repr, Inhabited

def Fold.apply : Fold → Nat → Nat
  | .exact, c => c
  | .ascii, c => if 65 ≤ c && c ≤ 90 then c + 32 else c
  | .unicode, c => lowerCode c

/-- Whether a fold moves some code point of a character: ASCII letters, or any case. -/
def Fold.cased : Fold → Nat → Bool
  | .exact, _ => false
  | .ascii, c => (65 ≤ c && c ≤ 90) || (97 ≤ c && c ≤ 122)
  | .unicode, c => movesCode c

/-- Whether a class holds a character; ASCII classes hold no other character. -/
def Category.holds (k : Category) (ascii : Bool) (x : Nat) : Bool :=
  let c := Char.ofNat x
  let digit := if ascii then 48 ≤ x && x ≤ 57 else isScalar x && isDecimal c
  let space := if ascii then x = 32 || (9 ≤ x && x ≤ 13) else isScalar x && isBlank c
  let word := if ascii then x < 128 && (x = 95 || isAlnum c) else isScalar x && isWordChar c
  match k with
  | .digit => digit
  | .notDigit => !digit
  | .space => space
  | .notSpace => !space
  | .word => word
  | .notWord => !word

/-- A test a set applies to the folded character. -/
inductive Probe where
  | char (c : Nat)
  | range (lo hi : Nat)
  /-- The character, or its upper case, lies in the range. -/
  | rangeOrUpper (lo hi : Nat)
  /-- The character is the fold of some code point of the range, or identified with one. -/
  | folded (fold : Fold) (lo hi : Nat)
  | category (k : Category) (ascii : Bool)
  deriving DecidableEq, Repr, Inhabited

/-- The code points other than `y` that a fold brings to `y`. -/
def Fold.sources : Fold → Nat → List Nat
  | .exact, _ => []
  | .ascii, y => if 97 ≤ y && y ≤ 122 then [y - 32] else []
  | .unicode, y => lowerSourcesOf y

/-- Whether `y` is the fold of a code point from `lo` to `hi`. -/
def Fold.hits (f : Fold) (lo hi y : Nat) : Bool :=
  (lo ≤ y && y ≤ hi && f.apply y == y) || (f.sources y).any (fun p => lo ≤ p && p ≤ hi)

/-- Whether a probe holds of the folded character `x`. -/
def Probe.holds (x : Nat) : Probe → Bool
  | .char c => x == c
  | .range lo hi => lo ≤ x && x ≤ hi
  | .rangeOrUpper lo hi => (lo ≤ x && x ≤ hi) || (lo ≤ upperCode x && upperCode x ≤ hi)
  | .folded f lo hi =>
    f.hits lo hi x || (f == .unicode && (foldVariants x).any (f.hits lo hi))
  | .category k ascii => k.holds ascii x

/-- A set of characters: probes of the folded character, possibly negated. -/
structure CharSet where
  negated : Bool
  fold : Fold
  probes : List Probe
  deriving Repr, Inhabited

def CharSet.holds (s : CharSet) (c : Char) : Bool :=
  let x := s.fold.apply c.toNat
  s.probes.any (Probe.holds x) != s.negated

inductive CharTest where
  | char (c : Nat)
  /-- Any character but a newline. -/
  | line
  | anyChar
  | set (s : CharSet)
  deriving Repr, Inhabited

def CharTest.holds : CharTest → Char → Bool
  | .char c, d => d.toNat == c
  | .line, d => d != '\n'
  | .anyChar, _ => true
  | .set s, d => s.holds d

/-- Positions an anchor asserts, with the flags worked in. -/
inductive Point where
  | textStart
  | lineStart
  | textEnd
  /-- The end of the text, or just before a newline that ends it. -/
  | finalEnd
  | lineEnd
  | boundary (ascii : Bool)
  | nonBoundary (ascii : Bool)
  deriving DecidableEq, Repr, Inhabited

/-- A program: a pattern with its flags worked in. -/
inductive Prog where
  | empty
  | char (t : CharTest)
  | seq (a b : Prog)
  | alt (a b : Prog)
  | loop (lo : Nat) (hi : Option Nat) (mode : Repetition) (body : Prog)
  /-- Capturing group `g`, counted from one. -/
  | group (g : Nat) (body : Prog)
  | backref (g : Nat) (fold : Fold)
  | point (p : Point)
  /-- A look-ahead, or a look-behind over the given fixed width. -/
  | look (behind : Option Nat) (negated : Bool) (body : Prog)
  | atomic (body : Prog)
  | ifGroup (g : Nat) (yes no : Prog)
  deriving Repr, Inhabited

structure Program where
  body : Prog
  groups : Nat
  deriving Repr, Inhabited

/-- The fold the flags choose when case is ignored. -/
def foldOf (flags : Nat) : Fold :=
  if !hasFlag flags ignoreCase then .exact else if hasFlag flags asciiFlag then .ascii else .unicode

/-- A literal character (or, negated, any other character) under `flags`. -/
def literalTest (flags : Nat) (negated : Bool) (c : Nat) : CharTest :=
  let fold := foldOf flags
  if fold != .exact && fold.cased c then
    let lo := fold.apply c
    let variants := if fold == .unicode then foldVariants lo else []
    .set ⟨negated, fold, (lo :: variants).map Probe.char⟩
  else if negated then .set ⟨true, .exact, [.char c]⟩
  else .char c

def Member.probe (ascii : Bool) : Member → Probe
  | .char c => .char c
  | .range lo hi => .range lo hi
  | .category k => .category k ascii

/-- The probes of a member under a fold, and whether the member has case. -/
def Member.folded (fold : Fold) (ascii : Bool) : Member → List Probe × Bool
  | .char c =>
    let lo := fold.apply c
    if lo < 0x10000 then
      let variants := if fold == .unicode then foldVariants lo else []
      ((lo :: variants).map Probe.char, fold.cased c)
    else ([.char c], true)
  | .range lo hi =>
    if hi < 0x10000 then
      ([.folded fold lo hi],
        match fold with
        | .unicode => caseMovedIn lo hi
        | _ => (lo ≤ 90 && 65 ≤ hi) || (lo ≤ 122 && 97 ≤ hi))
    else
      ((if lo < 0x10000 then [Probe.folded fold lo 0xFFFF] else []) ++ [.rangeOrUpper lo hi], true)
  | .category k => ([.category k ascii], false)

def setTest (flags : Nat) (negated : Bool) (members : List Member) : CharTest :=
  let ascii := hasFlag flags asciiFlag
  let fold := foldOf flags
  let plain : CharTest := .set ⟨negated, .exact, members.map (Member.probe ascii)⟩
  if fold == .exact then plain
  else
    let parts := members.map (Member.folded fold ascii)
    if parts.any Prod.snd then .set ⟨negated, fold, (parts.map Prod.fst).flatten⟩ else plain

def anchorPoint (flags : Nat) : Anchor → Point
  | .start => if hasFlag flags multiLine then .lineStart else .textStart
  | .startOfText => .textStart
  | .finish => if hasFlag flags multiLine then .lineEnd else .finalEnd
  | .endOfText => .textEnd
  | .boundary => .boundary (hasFlag flags asciiFlag)
  | .nonBoundary => .nonBoundary (hasFlag flags asciiFlag)

def lookbehindLimit : Nat := 4294967295

def Repetition.opName : Repetition → String
  | .greedy => "MAX_REPEAT"
  | .lazy => "MIN_REPEAT"
  | .possessive => "POSSESSIVE_REPEAT"

mutual

/-- Compiles items under `flags`, in order; `gw` holds the widths of the groups. -/
def compileItems (gw : Array (Option (Nat × Nat))) (flags : Nat) : List Item → Except Fault Prog
  | [] => pure .empty
  | [it] => compileItem gw flags it
  | it :: rest => do
    let a ← compileItem gw flags it
    let b ← compileItems gw flags rest
    pure (.seq a b)

def compileAlts (gw : Array (Option (Nat × Nat))) (flags : Nat) : List (List Item) → Except Fault Prog
  | [] => pure .empty
  | [alt] => compileItems gw flags alt
  | alt :: rest => do
    let a ← compileItems gw flags alt
    let b ← compileAlts gw flags rest
    pure (.alt a b)

def compileItem (gw : Array (Option (Nat × Nat))) (flags : Nat) : Item → Except Fault Prog
  | .char c => pure (.char (literalTest flags false c))
  | .notChar c => pure (.char (literalTest flags true c))
  | .any => pure (.char (if hasFlag flags dotAll then .anyChar else .line))
  | .set negated members => pure (.char (setTest flags negated members))
  | .anchor a => pure (.point (anchorPoint flags a))
  | .branch alts => compileAlts gw flags alts
  | .loop lo hi mode body => do
    if hasFlag flags templateFlag then
      throw (.malformed ("internal: unsupported template operator " ++ mode.opName) none)
    pure (.loop lo hi mode (← compileItems gw flags body))
  | .group (some g) _ _ body => do pure (.group g (← compileItems gw flags body))
  | .group none on off body => compileItems gw (combineFlags flags on off) body
  | .atomic body => do pure (.atomic (← compileItems gw flags body))
  | .look behind negated body => do
    if behind then
      let (lo, hi) := widthOf gw body
      if lo > lookbehindLimit then throw (.malformed "looks too much behind" none)
      if lo != hi then throw (.malformed "look-behind requires fixed-width pattern" none)
      pure (.look (some lo) negated (← compileItems gw flags body))
    else pure (.look none negated (← compileItems gw flags body))
  | .backref g => pure (.backref g (foldOf flags))
  | .ifGroup g yes no => do
    let y ← compileItems gw flags yes
    let n ← match no with
      | some n => compileItems gw flags n
      | none => pure .empty
    pure (.ifGroup g y n)

end

/-- Compiles a pattern text under `flags`. -/
def compile (pattern : String) (flags : Nat) : Except Fault Program := do
  let p ← parse pattern flags
  let body ← compileItems p.widths p.flags p.items
  pure ⟨body, p.groups⟩

end ClassAtlas.Pattern
