import ClassAtlas.Text.Utf8

/-!
The parts of a request's address. Percent escapes are read in runs of ASCII characters: each
run becomes bytes (an escape with two hexadecimal digits is one byte, anything else stands for
itself) and the bytes are read as UTF-8, invalid sequences replaced; characters beyond ASCII
are kept as they are. A query string is split at `&` into fields and each field at its first
`=`, a field without `=` having an empty value, and `+` reads as a space before escapes are
read.
-/

namespace ClassAtlas.Service

open ClassAtlas.Text

def hexValue? (c : Char) : Option Nat :=
  if '0' ≤ c && c ≤ '9' then some (c.toNat - 48)
  else if 'a' ≤ c && c ≤ 'f' then some (c.toNat - 87)
  else if 'A' ≤ c && c ≤ 'F' then some (c.toNat - 55)
  else none

/-- The bytes an ASCII run stands for, escapes read. -/
def escapedBytes : List Char → List UInt8
  | '%' :: a :: b :: rest =>
    match hexValue? a, hexValue? b with
    | some x, some y => UInt8.ofNat (16 * x + y) :: escapedBytes rest
    | _, _ => UInt8.ofNat 37 :: escapedBytes (a :: b :: rest)
  | c :: rest => UInt8.ofNat c.toNat :: escapedBytes rest
  | [] => []

/-- The characters of a text with escapes read, run by run. -/
def unescapeChars (cs : List Char) : List Char :=
  let rec go (run : List Char) : List Char → List Char
    | [] => decodeBytes (escapedBytes run.reverse)
    | c :: rest =>
      if c.toNat < 128 then go (c :: run) rest
      else decodeBytes (escapedBytes run.reverse) ++ c :: go [] rest
  go [] cs

def unescape (s : String) : String :=
  if s.toList.contains '%' then String.ofList (unescapeChars s.toList) else s

/-- A text with `+` read as a space and then escapes read. -/
def unescapeField (s : String) : String := unescape (s.map fun c => if c = '+' then ' ' else c)

/-- The fields of a query string, in order. -/
def queryFields (query : String) : List (String × String) :=
  (query.splitOn "&").filterMap fun field =>
    if field.isEmpty then none
    else match field.splitOn "=" with
      | [name] => some (unescapeField name, "")
      | name :: rest => some (unescapeField name, unescapeField ("=".intercalate rest))
      | [] => none

/-- A request target split into its path and its query string, a fragment dropped. -/
def splitTarget (target : String) : String × String :=
  let beforeFragment := (target.splitOn "#").headD ""
  match beforeFragment.splitOn "?" with
  | [] => ("", "")
  | [p] => (p, "")
  | p :: rest => (p, "?".intercalate rest)

/-- The path a request arrives at: one leading slash, escapes read twice (once by the client
that sends it, once by the server that receives it). -/
def arrivingPath (path : String) : String :=
  "/" ++ unescape (unescape (String.ofList (path.toList.dropWhile (· = '/'))))

end ClassAtlas.Service
