import ClassAtlas.Text.Blank

/-!
Lines of a text and windows onto them. A text is cut at every newline, and carriage returns
that end a line are dropped, so both newline conventions give the same lines. A window is a
line with up to `radius` lines on either side, cut at the ends of the text; its bounds follow
the rules of slices, where a negative end counts from the back.
-/

namespace ClassAtlas.Text

/-- The pieces of a character list between newlines. -/
def splitNewlines : List Char → List (List Char)
  | [] => [[]]
  | c :: rest =>
    match splitNewlines rest with
    | [] => [[c]]
    | first :: others => if c = '\n' then [] :: first :: others else (c :: first) :: others

/-- The pieces of a text between newlines, kept as they are. -/
def splitAtNewlines (s : String) : List String :=
  (splitNewlines s.toList).map String.ofList

/-- A character list without the carriage returns that end it. -/
def dropTrailingReturns (cs : List Char) : List Char :=
  (cs.reverse.dropWhile (· = '\r')).reverse

def splitLines (content : String) : List String :=
  (splitNewlines content.toList).map fun cs => String.ofList (dropTrailingReturns cs)

/-- A slice bound: a negative bound counts from the back, and bounds are kept within `0` and
`size`. -/
def sliceBound (size : Nat) (b : Int) : Nat :=
  if b < 0 then (b + size).toNat else min b.toNat size

/-- The items from `start` up to, not including, `stop`, with slice bounds. -/
def slice {α : Type} (xs : List α) (start stop : Int) : List α :=
  let a := sliceBound xs.length start
  let b := sliceBound xs.length stop
  (xs.drop a).take (b - a)

/-- The line at `index` with `radius` lines on either side, joined by newlines. -/
def contextWindow (lines : List String) (index radius : Int) : String :=
  "\n".intercalate (slice lines (max 0 (index - radius)) (index + radius + 1))

def trimBlanks (s : String) : String :=
  String.ofList (((s.toList.dropWhile isBlank).reverse.dropWhile isBlank).reverse)

/-- The words of a text: the runs of characters between white space. -/
def words (s : String) : List String :=
  let rec go : List Char → List Char → List String
    | [], [] => []
    | [], w => [String.ofList w.reverse]
    | c :: rest, w =>
      if isBlank c then (if w.isEmpty then go rest [] else String.ofList w.reverse :: go rest [])
      else go rest (c :: w)
  go s.toList []

end ClassAtlas.Text
