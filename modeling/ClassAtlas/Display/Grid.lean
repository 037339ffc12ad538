import ClassAtlas.Display.Wrap

/-!
Tables of text. Every column is as wide as its widest cell, with a space of padding on each side
of every cell (none on the outer sides of a bare table). When the columns do not fit, the
widest are narrowed first, down to the next widest and so on, and as a last resort every
column gives up an even share; cells then wrap within their column, words too long for it cut
short with an ellipsis. A framed table draws heavy lines around and under its header row and
light lines around its body. An elastic table's last column asks for the whole width and so
takes whatever the other columns leave.
-/

namespace ClassAtlas.Display

/-- A table: an optional header row and body rows of plain text, framed or bare, its last
column elastic or not. -/
structure Grid where
  header : Option (List String)
  rows : List (List String)
  framed : Bool
  elastic : Bool
  deriving Repr, Inhabited

/-- A least and a most width, the least never above the most. -/
def normalizeRange (m : Nat × Nat) : Nat × Nat := (min m.1 m.2, m.2)

def capRange (w : Nat) (m : Nat × Nat) : Nat × Nat := (min m.1 w, min m.2 w)

/-- The range of widths a text needs within `w` cells. -/
def measureWithin (w : Nat) (text : List Char) : Nat × Nat :=
  if w < 1 then (0, 0)
  else
    let m := capRange w (normalizeRange (measureText text))
    if m.2 < 1 then (0, 0) else normalizeRange m

/-- The range of widths a cell with `l` and `r` cells of padding needs within `w` cells. -/
def measureCell (w l r : Nat) (text : List Char) : Nat × Nat :=
  if w < 1 then (0, 0)
  else
    let m :=
      if w ≤ l + r then (w, w)
      else
        let inner := measureWithin (w - (l + r)) text
        capRange w (inner.1 + (l + r), inner.2 + (l + r))
    let m := capRange w (normalizeRange m)
    if m.2 < 1 then (0, 0) else normalizeRange m

/-- The padding of column `i` of `n`: one space on each side, none on the outer sides of a
bare table. -/
def Grid.padding (g : Grid) (n i : Nat) : Nat × Nat :=
  (if !g.framed && i = 0 then 0 else 1, if !g.framed && i + 1 = n then 0 else 1)

def Grid.columnCount (g : Grid) : Nat :=
  match g.header with
  | some h => h.length
  | none => (g.rows.map List.length).foldl max 0

def Grid.column (g : Grid) (i : Nat) : List (List Char) :=
  ((g.header.toList ++ g.rows).map fun row => (row.getD i "").toList)

def measureElastic (w l r : Nat) : Nat × Nat :=
  if w < 1 then (0, 0) else if w ≤ l + r then (w, w) else (l + r, w)

/-- The range of widths column `i` needs within `w` cells. -/
def Grid.measureColumn (g : Grid) (w i : Nat) : Nat × Nat :=
  if w < 1 then (0, 0)
  else
    let (l, r) := g.padding g.columnCount i
    let elastic := g.elastic && i + 1 = g.columnCount
    let ranges := (g.column i).map fun text =>
      if elastic then measureElastic w l r else measureCell w l r text
    let least := if ranges.isEmpty then 1 else (ranges.map Prod.fst).foldl max 0
    let most := if ranges.isEmpty then w else (ranges.map Prod.snd).foldl max 0
    capRange w (least, most)

def Grid.frameWidth (g : Grid) : Nat := if g.framed then 2 + (g.columnCount - 1) else 0

/-- `a / b` rounded to the nearest integer, halves to the even one. -/
def roundHalfEven (a : Int) (b : Nat) : Int :=
  if b = 0 then 0
  else
    let q := a / b
    let r := a - q * b
    if 2 * r > b then q + 1
    else if 2 * r < b then q
    else if q % 2 = 0 then q else q + 1

/-- Values reduced by a total shared out by ratio, no value giving up more than its maximum. -/
def ratioReduce (total : Int) (ratios maximums values : List Int) : List Int :=
  let ratios : List Int := (ratios.zip maximums).map fun (ratio, m) => if m ≠ 0 then ratio else 0
  let totalRatio : Int := ratios.foldl (· + ·) 0
  if totalRatio = 0 then values
  else
    let rec go (remaining totalRatio : Int) : List ((Int × Int) × Int) → List Int
      | [] => []
      | ((ratio, m), value) :: rest =>
        if ratio ≠ 0 && totalRatio > 0 then
          let shared := min m (roundHalfEven (ratio * remaining) totalRatio.toNat)
          (value - shared) :: go (remaining - shared) (totalRatio - ratio) rest
        else value :: go remaining totalRatio rest
    go total totalRatio ((ratios.zip maximums).zip values)

/-- Widths narrowed, widest first, until they fit `maxWidth` or no column is wider than the
next. The fuel bounds the rounds. -/
def collapseWithin : Nat → Nat → List Int → List Int
  | 0, _, widths => widths
  | fuel + 1, maxWidth, widths =>
    let total : Int := widths.foldl (· + ·) 0
    let excess : Int := total - maxWidth
    if total = 0 || excess ≤ 0 then widths
    else
      let widest : Int := widths.foldl max 0
      let second : Int := (widths.map fun w => if w ≠ widest then w else 0).foldl max 0
      let difference := widest - second
      let ratios := widths.map fun w => if w = widest then (1 : Int) else 0
      if difference = 0 then widths
      else
        let reduced := ratioReduce excess ratios (widths.map fun _ => min excess difference) widths
        collapseWithin fuel maxWidth reduced

def Grid.widths (g : Grid) (maxWidth : Nat) : List Nat :=
  let n := g.columnCount
  let natural := (List.range n).map fun i =>
    let most := (g.measureColumn maxWidth i).2
    if most = 0 then 1 else most
  if natural.foldl (· + ·) 0 ≤ maxWidth then natural
  else
    let ints : List Int := natural.map Int.ofNat
    let collapsed := collapseWithin (natural.foldl (· + ·) 0 + 1) maxWidth ints
    let total : Int := collapsed.foldl (· + ·) 0
    let reduced :=
      if total > maxWidth then ratioReduce (total - maxWidth) (collapsed.map fun _ => 1) collapsed collapsed
      else collapsed
    (List.range n).zip reduced |>.map fun (i, w) => (g.measureColumn w.toNat i).2

def cellLines (w l r : Nat) (text : String) : List (List Char) :=
  if w < l + r + 1 then []
  else
    let inner := w - (l + r)
    (wrap inner .left .ellipsis text.toList).map fun line =>
      List.replicate l ' ' ++ fitLine inner true line ++ List.replicate r ' '

/-- Cell lines stood in a block `height` lines high, at its top or at its bottom. -/
def standCell (w height : Nat) (atBottom : Bool) (lines : List (List Char)) : List (List Char) :=
  let blank := List.replicate (height - lines.length) (List.replicate w ' ')
  let lines := lines.map (fitLine w true)
  if atBottom then blank ++ lines else lines ++ blank

/-- The lines of one row: its cells set side by side between the given separators. -/
def rowLines (g : Grid) (widths : List Nat) (atBottom : Bool) (left middle right : String)
    (row : List String) : List String :=
  let n := widths.length
  let cells := (List.range n).map fun i =>
    let (l, r) := g.padding n i
    cellLines (widths.getD i 0) l r (row.getD i "")
  let height := (cells.map List.length).foldl max 1
  let stood := ((widths.zip cells).map fun (w, lines) => standCell w height atBottom lines)
  (List.range height).map fun k =>
    left ++ middle.intercalate (stood.map fun lines => String.ofList (lines.getD k [])) ++ right

def ruleLine (widths : List Nat) (left line cross right : String) : String :=
  left ++ cross.intercalate (widths.map fun w => String.join (List.replicate w line)) ++ right

def Grid.render (g : Grid) (maxWidth : Nat) : List String :=
  let widths := g.widths (maxWidth - g.frameWidth)
  if g.framed then
    let head := match g.header with
      | some h => rowLines g widths true "┃" "┃" "┃" h ++ [ruleLine widths "┡" "━" "╇" "┩"]
      | none => []
    [ruleLine widths "┏" "━" "┳" "┓"] ++ head ++ g.rows.flatMap (rowLines g widths false "│" "│" "│") ++
      [ruleLine widths "└" "─" "┴" "┘"]
  else
    (g.header.toList.flatMap (rowLines g widths true "" "" "")) ++
      g.rows.flatMap (rowLines g widths false "" "" "")

end ClassAtlas.Display
