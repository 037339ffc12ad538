import ClassAtlas.Display.Emoji
import ClassAtlas.Text.Blank
import ClassAtlas.Text.Case
import ClassAtlas.Text.Numeral

/-!
Console markup: text with style tags in square brackets, such as `[bold]` and `[/bold]`, and
emoji codes between colons. A tag is an opening bracket, a lower-case letter or one of `#`, `/`
and `@`, then anything but an opening bracket up to the first closing bracket. An odd run of
backslashes before a tag shows the tag as text; each pair of backslashes shows one. Showing
markup keeps the text between tags, with emoji codes replaced, and drops the tags. A closing
tag names a style that an earlier tag opened (styles are compared by their normal spelling, so
`[b]` is closed by `[/bold]`), or is `[/]`, which closes the last style opened; any other
closing tag is a fault. Bell, backspace, vertical tab, form feed and carriage return are never
shown.
-/

namespace ClassAtlas.Display

open ClassAtlas.Text

/-- Why markup could not be shown: the kind of error and its message. -/
structure Fault where
  kind : String
  message : String
  deriving Repr, Inhabited

def markupFault (message : String) : Fault := ⟨"MarkupError", message⟩

def isDroppedControl (c : Char) : Bool :=
  c.toNat = 7 || c.toNat = 8 || c.toNat = 11 || c.toNat = 12 || c.toNat = 13

def dropControls (cs : List Char) : List Char := cs.filter fun c => !isDroppedControl c

/-! ## Emoji codes -/

/-- How an emoji code asks for its emoji to be drawn. -/
inductive Variant where
  | plain
  | asEmoji
  | asText
  deriving Repr, DecidableEq, Inhabited

def Variant.selector : Variant → List Char
  | .plain => []
  | .asEmoji => [Char.ofNat 0xFE0F]
  | .asText => [Char.ofNat 0xFE0E]

def Variant.suffix : Variant → List Char
  | .plain => []
  | .asEmoji => "-emoji".toList
  | .asText => "-text".toList

/-- The code that starts after a colon: the shortest run of non-blank characters that ends
with a colon, or with `-emoji:` or `-text:`; the name, the variant and what follows. -/
def codeAfterColon : List Char → List Char → Option (List Char × Variant × List Char)
  | _, [] => none
  | acc, ':' :: rest => some (acc.reverse, .plain, rest)
  | acc, '-' :: rest =>
    if "emoji:".toList.isPrefixOf rest then some (acc.reverse, .asEmoji, rest.drop 6)
    else if "text:".toList.isPrefixOf rest then some (acc.reverse, .asText, rest.drop 5)
    else codeAfterColon ('-' :: acc) rest
  | acc, c :: rest => if isBlank c then none else codeAfterColon (c :: acc) rest

/-- A text with every emoji code whose name is known replaced by its emoji; codes are found
left to right without overlapping, and an unknown code stays as written. The fuel bounds the
characters read. -/
def replaceCodesWithin : Nat → List Char → List Char
  | 0, cs => cs
  | _, [] => []
  | fuel + 1, ':' :: rest =>
    match codeAfterColon [] rest with
    | some (name, variant, after) =>
      match emojiNamed? (String.ofList name) with
      | some glyph => glyph.toList ++ variant.selector ++ replaceCodesWithin fuel after
      | none => (':' :: name ++ variant.suffix ++ [':']) ++ replaceCodesWithin fuel after
    | none => ':' :: replaceCodesWithin fuel rest
  | fuel + 1, c :: rest => c :: replaceCodesWithin fuel rest

def replaceCodes (cs : List Char) : List Char := replaceCodesWithin cs.length cs

/-! ## Style names -/

/-- The attributes a style can set, in the order they are written, with their short names. -/
def attributeNames : List (String × List String) :=
  [("bold", ["b"]), ("dim", ["d"]), ("italic", ["i"]), ("underline", ["u"]), ("blink", []),
   ("blink2", []), ("reverse", ["r"]), ("conceal", ["c"]), ("strike", ["s"]),
   ("underline2", ["uu"]), ("frame", []), ("encircle", []), ("overline", ["o"])]

def attributeOf? (word : String) : Option String :=
  (attributeNames.find? fun (name, short) => name == word || short.contains word).map (·.1)

def colorNames : List String := [
  "aquamarine1", "aquamarine3", "black", "blue", "blue1", "blue3", "blue_violet",
  "bright_black", "bright_blue", "bright_cyan", "bright_green", "bright_magenta", "bright_red",
  "bright_white", "bright_yellow", "cadet_blue", "chartreuse1", "chartreuse2", "chartreuse3",
  "chartreuse4", "cornflower_blue", "cornsilk1", "cyan", "cyan1", "cyan2", "cyan3",
  "dark_blue", "dark_cyan", "dark_goldenrod", "dark_green", "dark_khaki", "dark_magenta",
  "dark_olive_green1", "dark_olive_green2", "dark_olive_green3", "dark_orange", "dark_orange3",
  "dark_red", "dark_sea_green", "dark_sea_green1", "dark_sea_green2", "dark_sea_green3",
  "dark_sea_green4", "dark_slate_gray1", "dark_slate_gray2", "dark_slate_gray3",
  "dark_turquoise", "dark_violet", "deep_pink1", "deep_pink2", "deep_pink3", "deep_pink4",
  "deep_sky_blue1", "deep_sky_blue2", "deep_sky_blue3", "deep_sky_blue4", "dodger_blue1",
  "dodger_blue2", "dodger_blue3", "gold1", "gold3", "gray0", "gray100", "gray11", "gray15",
  "gray19", "gray23", "gray27", "gray3", "gray30", "gray35", "gray37", "gray39", "gray42",
  "gray46", "gray50", "gray53", "gray54", "gray58", "gray62", "gray63", "gray66", "gray69",
  "gray7", "gray70", "gray74", "gray78", "gray82", "gray84", "gray85", "gray89", "gray93",
  "green", "green1", "green3", "green4", "green_yellow", "grey0", "grey100", "grey11",
  "grey15", "grey19", "grey23", "grey27", "grey3", "grey30", "grey35", "grey37", "grey39",
  "grey42", "grey46", "grey50", "grey53", "grey54", "grey58", "grey62", "grey63", "grey66",
  "grey69", "grey7", "grey70", "grey74", "grey78", "grey82", "grey84", "grey85", "grey89",
  "grey93", "honeydew2", "hot_pink", "hot_pink2", "hot_pink3", "indian_red", "indian_red1",
  "khaki1", "khaki3", "light_coral", "light_cyan1", "light_cyan3", "light_goldenrod1",
  "light_goldenrod2", "light_goldenrod3", "light_green", "light_pink1", "light_pink3",
  "light_pink4", "light_salmon1", "light_salmon3", "light_sea_green", "light_sky_blue1",
  "light_sky_blue3", "light_slate_blue", "light_slate_gray", "light_slate_grey",
  "light_steel_blue", "light_steel_blue1", "light_steel_blue3", "light_yellow3", "magenta",
  "magenta1", "magenta2", "magenta3", "medium_orchid", "medium_orchid1", "medium_orchid3",
  "medium_purple", "medium_purple1", "medium_purple2", "medium_purple3", "medium_purple4",
  "medium_spring_green", "medium_turquoise", "medium_violet_red", "misty_rose1", "misty_rose3",
  "navajo_white1", "navajo_white3", "navy_blue", "orange1", "orange3", "orange4",
  "orange_red1", "orchid", "orchid1", "orchid2", "pale_green1", "pale_green3",
  "pale_turquoise1", "pale_turquoise4", "pale_violet_red1", "pink1", "pink3", "plum1", "plum2",
  "plum3", "plum4", "purple", "purple3", "purple4", "red", "red1", "red3", "rosy_brown",
  "royal_blue1", "salmon1", "sandy_brown", "sea_green1", "sea_green2", "sea_green3",
  "sky_blue1", "sky_blue2", "sky_blue3", "slate_blue1", "slate_blue3", "spring_green1",
  "spring_green2", "spring_green3", "spring_green4", "steel_blue", "steel_blue1",
  "steel_blue3", "tan", "thistle1", "thistle3", "turquoise2", "turquoise4", "violet", "wheat1",
  "wheat4", "white", "yellow", "yellow1", "yellow2", "yellow3", "yellow4"]

/-- How a word reads as a color: a color, not a color, or a color whose components cannot be
read as numbers (a fault of kind `ValueError`). -/
inductive ColorReading where
  | color
  | notColor
  | unreadable
  deriving Repr, DecidableEq, Inhabited

def isLowerHex (c : Char) : Bool := ('0' ≤ c && c ≤ '9') || ('a' ≤ c && c ≤ 'f')

def isAsciiDigit (c : Char) : Bool := '0' ≤ c && c ≤ '9'

/-- How a lower-case word without blanks reads as a color: `default`, a named color, `#`
and six hexadecimal digits, `color(n)` with `n` of at most three digits and at most 255, or
`rgb(r,g,b)` with three components of at most 255. -/
def readColor (word : String) : ColorReading :=
  let cs := word.toList
  if word == "default" || colorNames.contains word then .color
  else match cs with
    | '#' :: hex => if hex.length = 6 && hex.all isLowerHex then .color else .notColor
    | _ =>
      if "color(".toList.isPrefixOf cs && cs.getLast? == some ')' then
        let inner := (cs.drop 6).dropLast
        if 1 ≤ inner.length && inner.length ≤ 3 && inner.all isAsciiDigit then
          (if (String.ofList inner).toNat! ≤ 255 then .color else .notColor)
        else .notColor
      else if "rgb(".toList.isPrefixOf cs && cs.getLast? == some ')' then
        let inner := (cs.drop 4).dropLast
        if inner.isEmpty || !inner.all (fun c => isDecimal c || c == ',') then .notColor
        else
          let parts := (String.ofList inner).splitOn ","
          if parts.length != 3 then .notColor
          else match parts.mapM readInt with
            | none => .unreadable
            | some ns => if ns.all (· ≤ 255) then .color else .notColor
      else .notColor

/-- A style read from its words: attributes set on or off (the latest setting of each first),
a color, a background color and a link. -/
structure StyleWords where
  attributes : List (String × Bool)
  color : Option String
  background : Option String
  link : Option String
  deriving Repr, Inhabited

/-- The normal spelling of a style: attributes in their fixed order, then the color, the
background after `on` and the link after `link`; `none` for a style that sets nothing. -/
def StyleWords.spelling (s : StyleWords) : String :=
  let attrs := attributeNames.filterMap fun (name, _) =>
    (s.attributes.lookup name).map fun on => if on then name else "not " ++ name
  let parts := attrs ++ s.color.toList ++ (s.background.map fun b => ["on", b]).getD [] ++
    (s.link.map fun l => ["link", l]).getD []
  if parts.isEmpty then "none" else " ".intercalate parts

/-- How reading a style ends: a style, a definition that is not a style, or a fault. -/
inductive StyleReading where
  | style (s : StyleWords)
  | notStyle
  | fault (f : Fault)
  deriving Inhabited

def unreadableComponent : Fault := ⟨"ValueError", "invalid literal for int() with base 10: ''"⟩

/-- Reads style words onto a style read so far. -/
def readStyleWords (s : StyleWords) : List String → StyleReading
  | [] => .style s
  | spelled :: rest =>
    let word := lower spelled
    if word == "on" then
      match rest with
      | [] => .notStyle
      | next :: more =>
        let bg := lower next
        match readColor bg with
        | .color => readStyleWords { s with background := some bg } more
        | .notColor => .notStyle
        | .unreadable => .fault unreadableComponent
    else if word == "not" then
      match rest with
      | [] => .notStyle
      | next :: more =>
        match attributeOf? next with
        | some a => readStyleWords { s with attributes := (a, false) :: s.attributes } more
        | none => .notStyle
    else if word == "link" then
      match rest with
      | [] => .notStyle
      | next :: more => readStyleWords { s with link := some next } more
    else match attributeOf? word with
      | some a => readStyleWords { s with attributes := (a, true) :: s.attributes } rest
      | none =>
        match readColor word with
        | .color => readStyleWords { s with color := some word } rest
        | .notColor => .notStyle
        | .unreadable => .fault unreadableComponent

/-- A text split at runs of blanks, without empty words. -/
def splitBlank (cs : List Char) : List (List Char) :=
  let rec go (word : List Char) : List Char → List (List Char)
    | [] => if word.isEmpty then [] else [word.reverse]
    | c :: rest =>
      if isBlank c then (if word.isEmpty then go [] rest else word.reverse :: go [] rest)
      else go (c :: word) rest
  go [] cs

def trimBlank (cs : List Char) : List Char :=
  ((cs.dropWhile isBlank).reverse.dropWhile isBlank).reverse

/-- The normal spelling of a style name: the spelling of the style it reads as, or the name
trimmed and in lower case when it is not a style. -/
def normalStyle (name : String) : Except Fault String :=
  let trimmed := String.ofList (trimBlank name.toList)
  if trimmed == "none" || name.isEmpty then .ok "none"
  else match readStyleWords ⟨[], none, none, none⟩ ((splitBlank name.toList).map String.ofList) with
    | .style s => .ok s.spelling
    | .notStyle => .ok (lower trimmed)
    | .fault f => .error f

/-! ## Tags -/

def isTagStart (c : Char) : Bool := ('a' ≤ c && c ≤ 'z') || c == '#' || c == '/' || c == '@'

/-- The rest of a tag's body up to the first closing bracket, and what follows it; none when
an opening bracket or the end comes first. -/
def tagRest (acc : List Char) : List Char → Option (List Char × List Char)
  | [] => none
  | ']' :: rest => some (acc.reverse, rest)
  | '[' :: _ => none
  | c :: rest => tagRest (c :: acc) rest

def tagBody? : List Char → Option (List Char × List Char)
  | c :: rest => if isTagStart c then tagRest [c] rest else none
  | [] => none

inductive Piece where
  | text (cs : List Char)
  | tag (position : Nat) (body : List Char)
  deriving Repr, Inhabited

def flushText (pending : List Char) : List Piece :=
  if pending.isEmpty then [] else [.text pending.reverse]

/-- The pieces of markup read from position `pos`, with `pending` the text gathered since the
last piece, reversed. The fuel bounds the characters read. -/
def piecesWithin : Nat → Nat → List Char → List Char → List Piece
  | 0, _, pending, _ => flushText pending
  | _, _, pending, [] => flushText pending
  | fuel + 1, pos, pending, '[' :: rest =>
    match tagBody? rest with
    | some (body, after) =>
      let run := (pending.takeWhile (· = '\\')).length
      let kept := List.replicate (run / 2) '\\'
      let shown := if run % 2 = 1 then [Piece.text ('[' :: body ++ [']'])] else [Piece.tag pos body]
      flushText (pending.drop run) ++ (if kept.isEmpty then [] else [.text kept]) ++ shown ++
        piecesWithin fuel (pos + body.length + 2) [] after
    | none => piecesWithin fuel (pos + 1) ('[' :: pending) rest
  | fuel + 1, pos, pending, c :: rest => piecesWithin fuel (pos + 1) (c :: pending) rest

def pieces (cs : List Char) : List Piece := piecesWithin cs.length 0 [] cs

/-- Text with each backslash before an opening bracket dropped. -/
def unescapeBrackets : List Char → List Char
  | '\\' :: '[' :: rest => '[' :: unescapeBrackets rest
  | c :: rest => c :: unescapeBrackets rest
  | [] => []

def showText (cs : List Char) : List Char := dropControls (replaceCodes (unescapeBrackets cs))

/-- The styles left open after a closing tag, or the fault it makes. `opened` holds the normal
names of the open styles, the latest first. -/
def closeTag (opened : List String) (position : Nat) (body : List Char) : Except Fault (List String) :=
  let name := body.takeWhile (· ≠ '=')
  let styleName := trimBlank (name.drop 1)
  if styleName.isEmpty then
    match opened with
    | _ :: rest => .ok rest
    | [] => .error (markupFault ("closing tag '[/]' at position " ++ toString position ++
        " has nothing to close"))
  else do
    let normal ← normalStyle (String.ofList styleName)
    match opened.idxOf? normal with
    | some i => .ok (opened.eraseIdx i)
    | none => .error (markupFault ("closing tag '[" ++ String.ofList body ++ "]' at position " ++
        toString position ++ " doesn't match any open tag"))

def showPieces (opened : List String) : List Piece → Except Fault (List Char)
  | [] => .ok []
  | .text cs :: rest => do
    let more ← showPieces opened rest
    return showText cs ++ more
  | .tag position body :: rest => do
    let name := body.takeWhile (· ≠ '=')
    if name.head? == some '/' then
      let left ← closeTag opened position body
      showPieces left rest
    else
      let normal ← normalStyle (String.ofList name)
      showPieces (normal :: opened) rest

/-- The text a markup text shows, or the fault that stops it. -/
def render (markup : String) : Except Fault String :=
  (showPieces [] (pieces markup.toList)).map String.ofList

/-- A plain text as shown: control characters dropped, nothing else read. -/
def plain (s : String) : String := String.ofList (dropControls s.toList)

end ClassAtlas.Display
