import ClassAtlas.Display.Width
import ClassAtlas.Text.Blank

/-!
Fitting text to a width of terminal cells. A text is cut at its line breaks, then each line is
wrapped at word starts, a word being a run of non-blanks with the blanks around it: a word
that does not fit in what is left of a line starts the next one. A word wider than a whole line
is folded across lines, or left whole and then cropped, as the overflow says. Blanks past the
width at the end of a line are dropped, tabs are widened to the next multiple of eight cells,
and a line may be padded with spaces to the width.
-/

namespace ClassAtlas.Display

open ClassAtlas.Text

/-- What is done with a line wider than its width. -/
inductive Overflow where
  /-- Long words are folded across lines. -/
  | fold
  /-- Lines are cropped. -/
  | crop
  /-- Lines are cropped, the last cell kept for an ellipsis. -/
  | ellipsis
  deriving Repr, DecidableEq, Inhabited

inductive Justify where
  /-- Lines are kept as they are. -/
  | asIs
  /-- Lines are padded with spaces on the right up to the width. -/
  | left
  deriving Repr, DecidableEq, Inhabited

/-- A text cut at its line breaks; a break at the end leaves a last empty line. -/
def breakLines (cs : List Char) : List (List Char) := cs.splitOn '\n'

def dropTrailingBlanks (cs : List Char) : List Char := (cs.reverse.dropWhile isBlank).reverse

/-- A line with each tab turned into the spaces that reach the next multiple of eight cells,
`col` being the cells already used. -/
def expandTabsFrom (col : Nat) : List Char → List Char
  | [] => []
  | '\t' :: rest =>
    let col' := col + 1
    let pad := if col' % 8 = 0 then 0 else 8 - col' % 8
    List.replicate (1 + pad) ' ' ++ expandTabsFrom (col' + pad) rest
  | c :: rest => c :: expandTabsFrom (col + charWidth c) rest

def expandTabs (cs : List Char) : List Char :=
  if cs.contains '\t' then expandTabsFrom 0 cs else cs

/-- The words of a line from position `start`: blanks, then at least one non-blank, then
blanks; each with the position it starts at. The fuel bounds the words read. -/
def wordsWithin : Nat → Nat → List Char → List (Nat × List Char)
  | 0, _, _ => []
  | fuel + 1, start, cs =>
    let lead := cs.takeWhile isBlank
    let afterLead := cs.dropWhile isBlank
    let body := afterLead.takeWhile fun c => !isBlank c
    if body.isEmpty then []
    else
      let afterBody := afterLead.dropWhile fun c => !isBlank c
      let trail := afterBody.takeWhile isBlank
      let word := lead ++ body ++ trail
      (start, word) :: wordsWithin fuel (start + word.length) (afterBody.dropWhile isBlank)

def wordsOf (cs : List Char) : List (Nat × List Char) := wordsWithin cs.length 0 cs

/-- A text cut into pieces of at most `width` cells, a character that does not fit starting a
new piece; the first piece is empty when the first character is wider than the width. -/
def chopCells (cs : List Char) (width : Nat) : List (List Char) :=
  let rec go (current : List Char) (used : Nat) : List Char → List (List Char)
    | [] => [current.reverse]
    | c :: rest =>
      let w := charWidth c
      if used + w > width then current.reverse :: go [c] w rest
      else go (c :: current) (used + w) rest
  go [] 0 cs

/-- The positions at which a folded word breaks, from the word's start, and the cells its last
piece takes. -/
def foldBreaks (start : Nat) : List (List Char) → List Nat × Nat
  | [] => ([], 0)
  | [last] => ((if start = 0 then [] else [start]), cellLen last)
  | piece :: rest =>
    let (more, used) := foldBreaks (start + piece.length) rest
    ((if start = 0 then [] else [start]) ++ more, used)

/-- The positions to break a line at so that its lines fit the width, given the words still
to place and the cells used on the current line. -/
def breaksOf (width : Nat) (fold : Bool) : Int → List (Nat × List Char) → List Nat
  | _, [] => []
  | offset, (start, word) :: rest =>
    let wordLength := cellLen (dropTrailingBlanks word)
    if (width : Int) - offset ≥ wordLength then
      breaksOf width fold (offset + cellLen word) rest
    else if wordLength > width then
      if fold then
        let (here, used) := foldBreaks start (chopCells word width)
        here ++ breaksOf width fold used rest
      else
        (if start = 0 then [] else [start]) ++ breaksOf width fold (cellLen word) rest
    else if offset ≠ 0 && start ≠ 0 then
      start :: breaksOf width fold (cellLen word) rest
    else breaksOf width fold offset rest

def divideLine (cs : List Char) (width : Nat) (fold : Bool) : List Nat :=
  breaksOf width fold 0 (wordsOf cs)

def divideAt (cs : List Char) (offsets : List Nat) : List (List Char) :=
  let bounds := 0 :: offsets ++ [cs.length]
  (bounds.zip bounds.tail).map fun (a, b) => (cs.drop a).take (b - a)

/-- A line without as many of its trailing blanks as make it longer than `size` characters. -/
def trimEnd (size : Nat) (cs : List Char) : List Char :=
  if cs.length > size then
    let excess := cs.length - size
    let trailing := (cs.reverse.takeWhile isBlank).length
    cs.take (cs.length - min trailing excess)
  else cs

/-- The longest start of a text that fits in `total` cells, padded with spaces to exactly
`total` cells; a wide character cut in half becomes a space. The search halves the range
`lo`..`hi` of candidate lengths; the fuel bounds its steps. -/
def fitWithin (cs : List Char) (total : Nat) : Nat → Nat → Nat → List Char
  | 0, lo, _ => cs.take lo
  | fuel + 1, lo, hi =>
    let pos := (lo + hi) / 2
    let before := cs.take (pos + 1)
    let beforeLen := cellLen before
    if beforeLen = total + 1 && (before.getLast?.map charWidth) == some 2 then
      before.dropLast ++ [' ']
    else if beforeLen = total then before
    else if beforeLen > total then fitWithin cs total fuel lo pos
    else fitWithin cs total fuel pos hi

/-- A text set to exactly `total` cells: padded with spaces, or cut. -/
def setCellSize (cs : List Char) (total : Nat) : List Char :=
  let size := cellLen cs
  if total = 0 then []
  else if size = total then cs
  else if size < total then cs ++ List.replicate (total - size) ' '
  else fitWithin cs total (2 * cs.length + 2) 0 cs.length

/-- A line made to fit `width` cells as the overflow says, padded to the width when asked. -/
def truncate (width : Nat) (overflow : Overflow) (pad : Bool) (cs : List Char) : List Char :=
  let length := cellLen cs
  let cut :=
    if length > width then
      match overflow with
      | .ellipsis => setCellSize cs (width - 1) ++ ['…']
      | _ => setCellSize cs width
    else cs
  if pad && length < width then cut ++ List.replicate (width - length) ' ' else cut

def wrapLine (width : Nat) (justify : Justify) (overflow : Overflow) (line : List Char) :
    List (List Char) :=
  let line := expandTabs line
  let pieces := (divideAt line (divideLine line width (overflow == .fold))).map (trimEnd width)
  let justified := match justify with
    | .asIs => pieces
    | .left => pieces.map (truncate width overflow true)
  justified.map (truncate width overflow false)

def wrap (width : Nat) (justify : Justify) (overflow : Overflow) (cs : List Char) :
    List (List Char) :=
  (breakLines cs).flatMap (wrapLine width justify overflow)

/-- A line set to the width: cut when wider, padded with spaces when narrower and asked. -/
def fitLine (width : Nat) (pad : Bool) (cs : List Char) : List Char :=
  let size := cellLen cs
  if size > width then setCellSize cs width
  else if pad && size < width then cs ++ List.replicate (width - size) ' '
  else cs

/-- The characters that end a line when a text is measured. -/
def isLineBoundary (c : Char) : Bool :=
  c = '\n' || c = '\r' || c.toNat = 11 || c.toNat = 12 || c.toNat = 0x1C || c.toNat = 0x1D ||
    c.toNat = 0x1E || c.toNat = 0x85 || c.toNat = 0x2028 || c.toNat = 0x2029

/-- A text split into runs that do not contain the given characters, empty runs dropped. -/
def runsWithout (p : Char → Bool) (cs : List Char) : List (List Char) :=
  let rec go (current : List Char) : List Char → List (List Char)
    | [] => if current.isEmpty then [] else [current.reverse]
    | c :: rest =>
      if p c then (if current.isEmpty then go [] rest else current.reverse :: go [] rest)
      else go (c :: current) rest
  go [] cs

/-- The least and the most cells a text needs: its widest word and its widest line. -/
def measureText (cs : List Char) : Nat × Nat :=
  let widest := ((runsWithout isLineBoundary cs).map cellLen).foldl max 0
  let words := runsWithout isBlank cs
  let least := if words.isEmpty then widest else (words.map cellLen).foldl max 0
  (least, widest)

end ClassAtlas.Display
