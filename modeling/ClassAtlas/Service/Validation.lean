import ClassAtlas.Json.Value
import ClassAtlas.Text.Blank

/-!
Checking the parameters of a request before it is served. Every parameter is checked, and
every one that fails is reported with where it came from (`query`, `path` or `body`, then its
name), a message, the value as given and, for bounds, the bound. Texts are read as the
parameter's type leniently: a boolean from `true`/`false`, `1`/`0`, `yes`/`no`, `on`/`off`,
`t`/`f`, `y`/`n` in any case of letters, an integer from decimal digits with an optional sign,
blanks around them and zeros after a decimal point.
-/

namespace ClassAtlas.Service

open ClassAtlas.Text

structure Problem where
  kind : String
  loc : List String
  message : String
  input : Json
  context : Option Json
  deriving Inhabited

def Problem.toJson (p : Problem) : Json :=
  .obj ([("type", .str p.kind), ("loc", .strs p.loc), ("msg", .str p.message), ("input", p.input)] ++
    (match p.context with
      | some c => [("ctx", c)]
      | none => []))

def missing (loc : List String) (input : Json) : Problem :=
  ⟨"missing", loc, "Field required", input, none⟩

def notText (loc : List String) (input : Json) : Problem :=
  ⟨"string_type", loc, "Input should be a valid string", input, none⟩

def readBool? (s : String) : Option Bool :=
  let l := s.toList.map fun c => if 'A' ≤ c && c ≤ 'Z' then Char.ofNat (c.toNat + 32) else c
  let t := String.ofList l
  if s == "0" || ["f", "n", "no", "off", "false"].contains t then some false
  else if s == "1" || ["t", "y", "on", "yes", "true"].contains t then some true
  else none

/-- The longest integer text that is read. -/
def integerDigitLimit : Nat := 4300

/-- The integer of a sign and decimal digits. -/
def readSigned? (cs : List Char) : Option Int :=
  let (neg, digits) := match cs with
    | '-' :: rest => (true, rest)
    | '+' :: rest => (false, rest)
    | _ => (false, cs)
  if digits.isEmpty || !digits.all Char.isDigit then none
  else
    let n : Nat := digits.foldl (fun acc c => 10 * acc + (c.toNat - 48)) 0
    some (if neg then -(n : Int) else n)

/-- The integer a text spells, leniently; `none` for a text too long to read. -/
def readInteger? (s : String) : Except Unit (Option Int) :=
  let cs := ((s.toList.dropWhile isBlank).reverse.dropWhile isBlank).reverse
  if cs.length > integerDigitLimit then .error ()
  else match readSigned? cs with
    | some n => .ok (some n)
    | none =>
      match cs.idxOf? '.' with
      | some i => if (cs.drop (i + 1)).all (· = '0') then .ok (readSigned? (cs.take i)) else .ok none
      | none => .ok none

/-- A required text of at least one character. -/
def requireText (loc : List String) : Option String → Except Problem String
  | none => .error (missing loc .null)
  | some s =>
    if s.isEmpty then
      .error ⟨"string_too_short", loc, "String should have at least 1 character", .str s,
        some (.obj [("min_length", .num 1)])⟩
    else .ok s

/-- A boolean, or its default when absent. -/
def requireBool (loc : List String) (default : Bool) : Option String → Except Problem Bool
  | none => .ok default
  | some s =>
    match readBool? s with
    | some b => .ok b
    | none => .error ⟨"bool_parsing", loc, "Input should be a valid boolean, unable to interpret input",
        .str s, none⟩

/-- An integer of at least one, or its default when absent. -/
def requirePositive (loc : List String) (default : Int) : Option String → Except Problem Int
  | none => .ok default
  | some s =>
    match readInteger? s with
    | .error () => .error ⟨"int_parsing_size", loc,
        "Unable to parse input string as an integer, exceeded maximum size", .str s, none⟩
    | .ok none => .error ⟨"int_parsing", loc,
        "Input should be a valid integer, unable to parse string as an integer", .str s, none⟩
    | .ok (some n) =>
      if n < 1 then .error ⟨"greater_than_equal", loc, "Input should be greater than or equal to 1",
        .str s, some (.obj [("ge", .num 1)])⟩
      else .ok n

/-- The choices written for a message: quoted, the last joined by `or`. -/
def choicesText (choices : List String) : String :=
  let quoted := choices.map fun c => "'" ++ c ++ "'"
  match quoted.reverse with
  | [] => ""
  | [only] => only
  | last :: rest => ", ".intercalate rest.reverse ++ " or " ++ last

/-- One of the given texts, or nothing when absent. -/
def requireChoice (loc : List String) (choices : List String) : Option String → Except Problem (Option String)
  | none => .ok none
  | some s =>
    if choices.contains s then .ok (some s)
    else
      let expected := choicesText choices
      .error ⟨"literal_error", loc, "Input should be " ++ expected, .str s,
        some (.obj [("expected", .str expected)])⟩

def problemsOf : List (Option Problem) → List Problem := List.filterMap id

def problemOf {α : Type} : Except Problem α → Option Problem
  | .error p => some p
  | .ok _ => none

end ClassAtlas.Service
