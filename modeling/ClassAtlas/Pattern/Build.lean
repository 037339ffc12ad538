import ClassAtlas.Pattern.Program

/-!
Writing programs directly: sequences, repetitions, literal texts and the common classes, for
patterns that are fixed in advance and need not be read from text.
-/

namespace ClassAtlas.Pattern

namespace Prog

def all : List Prog → Prog
  | [] => .empty
  | [p] => p
  | p :: rest => .seq p (all rest)

def first : List Prog → Prog
  | [] => .empty
  | [p] => p
  | p :: rest => .alt p (first rest)

/-- The characters of a text as literals, ignoring case when `ignoring` is set. -/
def literal (ignoring : Bool) (s : String) : Prog :=
  all (s.toList.map fun c => .char (literalTest (if ignoring then ignoreCase else 0) false c.toNat))

def lit (c : Char) : Prog := .char (.char c.toNat)

def but (c : Char) : Prog := .char (literalTest 0 true c.toNat)

def oneOf (cs : List Char) : Prog := .char (setTest 0 false (cs.map fun c => .char c.toNat))

/-- A character of a class (Unicode classes). -/
def classOf (k : Category) : Prog := .char (setTest 0 false [.category k])

def blank : Prog := classOf .space

def wordChar : Prog := classOf .word

/-- Any character but a newline. -/
def anyInLine : Prog := .char .line

/-- As many as possible, maybe none. -/
def many (p : Prog) : Prog := .loop 0 none .greedy p

/-- As many as possible, at least one. -/
def many1 (p : Prog) : Prog := .loop 1 none .greedy p

/-- Once or not at all, preferably once. -/
def optional (p : Prog) : Prog := .loop 0 (some 1) .greedy p

/-- A word boundary (Unicode word characters). -/
def boundary : Prog := .point (.boundary false)

end Prog

end ClassAtlas.Pattern
