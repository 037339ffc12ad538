/-!
The items of regular expressions: what a pattern text is read into, the flags that
change how items match, and the faults for which a text is refused.

Code points are kept as numbers, since an escape can name any of them, surrogates included.
-/

namespace ClassAtlas.Pattern

inductive Category where
  | digit
  | notDigit
  | space
  | notSpace
  | word
  | notWord
  deriving DecidableEq, Repr, Inhabited

inductive Member where
  | char (c : Nat)
  | range (lo hi : Nat)
  | category (k : Category)
  deriving DecidableEq, Repr, Inhabited

/-- Positions that an anchor asserts. -/
inductive Anchor where
  /-- `^`: the start of the text, or of a line under the multi-line flag. -/
  | start
  /-- `\A`: the start of the text. -/
  | startOfText
  /-- `$`: the end of the text or just before a final newline, or the end of a line. -/
  | finish
  /-- `\Z`: the end of the text. -/
  | endOfText
  /-- `\b`: between a word character and a character that is not one. -/
  | boundary
  /-- `\B`: anywhere else, but never in an empty text. -/
  | nonBoundary
  deriving DecidableEq, Repr, Inhabited

/-- How a quantifier chooses its number of repetitions. -/
inductive Repetition where
  /-- As many as possible, then fewer on backtracking. -/
  | greedy
  /-- As few as possible, then more on backtracking. -/
  | lazy
  /-- As many as possible, never given back. -/
  | possessive
  deriving DecidableEq, Repr, Inhabited

/-- A parsed pattern item; a sequence of items matches one after the other. -/
inductive Item where
  | char (c : Nat)
  | notChar (c : Nat)
  | any
  | set (negated : Bool) (members : List Member)
  | anchor (a : Anchor)
  | branch (alternatives : List (List Item))
  /-- `hi = none` repeats without bound. -/
  | loop (lo : Nat) (hi : Option Nat) (mode : Repetition) (body : List Item)
  /-- A group: capturing when it has an index; `on` and `off` are the flags it changes. -/
  | group (index : Option Nat) (on off : Nat) (body : List Item)
  | atomic (body : List Item)
  | look (behind negated : Bool) (body : List Item)
  | backref (g : Nat)
  | ifGroup (g : Nat) (yes : List Item) (no : Option (List Item))
  deriving Repr, Inhabited

/-! ## Flags, as bits of a number -/

/-- The flag bits: `i` ignores case. -/
def ignoreCase : Nat := 2
/-- The flag bits: `L` follows the locale (refused for text patterns). -/
def localeFlag : Nat := 4
/-- The flag bits: `m` makes `^` and `$` match at line ends. -/
def multiLine : Nat := 8
/-- The flag bits: `s` lets `.` match a newline. -/
def dotAll : Nat := 16
/-- The flag bits: `u` uses Unicode classes (the default for text). -/
def unicodeFlag : Nat := 32
/-- The flag bits: `x` ignores blanks and comments in the pattern. -/
def verboseFlag : Nat := 64
/-- The flag bits: `a` restricts classes and case folding to ASCII. -/
def asciiFlag : Nat := 256
/-- The flag bits: `t` forbids repetition. -/
def templateFlag : Nat := 1
/-- Flags that choose the character model; at most one may be on. -/
def typeFlags : Nat := asciiFlag ||| localeFlag ||| unicodeFlag
/-- Flags that can only be set for the whole pattern. -/
def globalFlags : Nat := 128 ||| templateFlag

def hasFlag (flags f : Nat) : Bool := flags &&& f != 0

/-- The bit of an inline flag letter. -/
def flagOf? : Char → Option Nat
  | 'i' => some ignoreCase
  | 'L' => some localeFlag
  | 'm' => some multiLine
  | 's' => some dotAll
  | 'x' => some verboseFlag
  | 'a' => some asciiFlag
  | 't' => some templateFlag
  | 'u' => some unicodeFlag
  | _ => none

def clearBits (x m : Nat) : Nat := x - (x &&& m)

/-- Flags inside a scoped group: a type flag turned on replaces the others. -/
def combineFlags (flags on off : Nat) : Nat :=
  let base := if on &&& typeFlags != 0 then clearBits flags typeFlags else flags
  clearBits (base ||| on) off

/-! ## Faults -/

inductive Fault where
  /-- A syntax fault, with the place in the text when it has one. -/
  | malformed (message : String) (position : Option Nat)
  /-- A repetition count of 2³² - 1 or more. -/
  | countTooLarge
  /-- Both the ASCII and the Unicode flag are on. -/
  | flagsIncompatible
  deriving DecidableEq, Repr, Inhabited

/-- The text of a syntax fault: the place is given as a position and, when the pattern has
several lines, as a line and column as well. -/
def Fault.describe (pattern : String) : Fault → String
  | .malformed message none => message
  | .malformed message (some pos) =>
    let before := pattern.toList.take pos
    let line := before.count '\n' + 1
    let column := (before.reverse.takeWhile (· != '\n')).length + 1
    let text := message ++ " at position " ++ toString pos
    if pattern.toList.contains '\n' then
      text ++ " (line " ++ toString line ++ ", column " ++ toString column ++ ")"
    else text
  | .countTooLarge => "the repetition number is too large"
  | .flagsIncompatible => "ASCII and UNICODE flags are incompatible"

end ClassAtlas.Pattern
