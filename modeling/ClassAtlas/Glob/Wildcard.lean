import ClassAtlas.Pattern.Match

/-!
Shell wildcards for file names, matched case-sensitively against a whole name: `*` stands for
any text (a leading dot included), `?` for one character, and `[...]` for one character of a
set, `[!...]` for one outside it. A `[` without a closing `]` is an ordinary character.

A wildcard is written out as a pattern and compiled: each star but the last becomes a lazy
search for the fixed text after it that never gives back what it found, so that a wildcard
with many stars is matched without trying every split. Set ranges running backwards are
dropped, and a set left empty matches nothing.
-/

namespace ClassAtlas.Glob

open ClassAtlas.Pattern

/-- The characters a pattern writes with a backslash before them. -/
def specialChars : List Char :=
  ['(', ')', '[', ']', '{', '}', '?', '*', '+', '-', '|', '^', '$', '\\', '.', '&', '~', '#',
    ' ', '\t', '\n', '\r', '\x0b', '\x0c']

def escapeChar (c : Char) : String :=
  if specialChars.contains c then "\\" ++ c.toString else c.toString

def doubleBackslashes (s : List Char) : List Char :=
  s.flatMap fun c => if c = '\\' then ['\\', '\\'] else [c]

def escapeChunk (s : List Char) : List Char :=
  s.flatMap fun c => if c = '\\' then ['\\', '\\'] else if c = '-' then ['\\', '-'] else [c]

def escapeSetOperators (s : List Char) : List Char :=
  s.flatMap fun c => if c = '&' || c = '~' || c = '|' then ['\\', c] else [c]

def hyphenFrom (pat : Array Char) (k j : Nat) : Option Nat :=
  (List.range (j - k)).map (· + k) |>.find? fun p => pat[p]? == some '-'

/-- The chunks of a set body between range hyphens, from position `i` up to `j`, the next
hyphen searched from `k`. -/
def setChunks (pat : Array Char) (j : Nat) : Nat → Nat → Nat → List (List Char)
  | 0, i, _ => [(pat.extract i j).toList]
  | fuel + 1, i, k =>
    match hyphenFrom pat k j with
    | none => [(pat.extract i j).toList]
    | some h => (pat.extract i h).toList :: setChunks pat j fuel (h + 1) (h + 3)

/-- The chunks with the last one, when empty, turned into a hyphen ending the one before. -/
def closeChunks (chunks : List (List Char)) : List (List Char) :=
  match chunks.reverse with
  | [] :: prev :: rest => ((prev ++ ['-']) :: rest).reverse
  | _ => chunks

/-- Ranges whose ends run backwards are merged away, from the last chunk to the first. -/
def dropEmptyRanges (chunks : List (List Char)) : List (List Char) :=
  let arr := chunks.toArray
  let merged := (List.range (arr.size - 1)).reverse.foldl (fun (acc : Array (List Char)) k =>
    let a := acc[k]?.getD []
    let b := acc[k + 1]?.getD []
    match a.getLast?, b.head? with
    | some x, some y =>
      if x > y then (acc.set! k (a.dropLast ++ b.tail)).eraseIdxIfInBounds (k + 1) else acc
    | _, _ => acc) arr
  merged.toList

/-- The pattern text of a set body from position `i` (after the `[`) to its `]` at `j`. -/
def setBody (pat : Array Char) (i j : Nat) : List Char :=
  let stuff := (pat.extract i j).toList
  let body :=
    if !stuff.contains '-' then doubleBackslashes stuff
    else
      let start := if pat[i]? == some '!' then i + 2 else i + 1
      let chunks := dropEmptyRanges (closeChunks (setChunks pat j (j + 1) i start))
      "-".toList.intercalate (chunks.map escapeChunk)
  escapeSetOperators body

def setPattern (body : List Char) : String :=
  match body with
  | [] => "(?!)"
  | ['!'] => "."
  | '!' :: rest => "[^" ++ String.ofList rest ++ "]"
  | c :: rest =>
    if c = '^' || c = '[' then "[\\" ++ String.ofList (c :: rest) ++ "]"
    else "[" ++ String.ofList (c :: rest) ++ "]"

/-- Where the `]` closing a set opened before position `i` stands, if it does. -/
def setEnd (pat : Array Char) (i : Nat) : Option Nat :=
  let j := if pat[i]? == some '!' then i + 1 else i
  let j := if pat[j]? == some ']' then j + 1 else j
  (List.range (pat.size - j)).map (· + j) |>.find? fun p => pat[p]? == some ']'

/-- The pieces of a wildcard from position `i`: pattern texts, with `none` for a star. -/
def pieces (pat : Array Char) : Nat → Nat → List (Option String)
  | 0, _ => []
  | fuel + 1, i =>
    match pat[i]? with
    | none => []
    | some '*' => none :: pieces pat fuel (i + 1)
    | some '?' => some "." :: pieces pat fuel (i + 1)
    | some '[' =>
      match setEnd pat (i + 1) with
      | none => some "\\[" :: pieces pat fuel (i + 1)
      | some j => some (setPattern (setBody pat (i + 1) j)) :: pieces pat fuel (j + 1)
    | some c => some (escapeChar c) :: pieces pat fuel (i + 1)

def squeezeStars : List (Option String) → List (Option String)
  | none :: none :: rest => squeezeStars (none :: rest)
  | p :: rest => p :: squeezeStars rest
  | [] => []

/-- The fixed texts before the first star, and the rest. -/
def fixedPrefix (ps : List (Option String)) : String × List (Option String) :=
  let fixed := ps.takeWhile Option.isSome
  (String.join (fixed.filterMap id), ps.drop fixed.length)

/-- The pattern text for what follows the fixed start: each star with the fixed text after it.
-/
def afterStars : Nat → List (Option String) → String
  | 0, _ => ""
  | _, [] => ""
  | fuel + 1, _ :: rest =>
    let (fixed, more) := fixedPrefix rest
    if rest.isEmpty then ".*"
    else if more.isEmpty then ".*" ++ fixed
    else "(?>.*?" ++ fixed ++ ")" ++ afterStars fuel more

/-- The pattern text a wildcard stands for. -/
def wildcardPattern (wildcard : String) : String :=
  let pat := wildcard.toList.toArray
  let ps := squeezeStars (pieces pat (pat.size + 1) 0)
  let (start, rest) := fixedPrefix ps
  "(?s:" ++ start ++ afterStars (rest.length + 1) rest ++ ")\\Z"

def compileWildcard (wildcard : String) : Except Fault Program := compile (wildcardPattern wildcard) 0

def matchesName (p : Program) (name : String) : Bool := (p.matchStart name).isSome

def hasWildcard (component : String) : Bool :=
  component.toList.any fun c => c = '*' || c = '?' || c = '['

end ClassAtlas.Glob
