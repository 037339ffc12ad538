import ClassAtlas.Text.Lines
import ClassAtlas.Text.Infix

/-!
Brace alternatives in file patterns: the first group `{a,b}` that holds no brace is replaced
by each of its comma-separated options, trimmed, and each result is expanded again, so
`*.{h,cpp}` stands for `*.h` and `*.cpp`. Results keep their order and their repeats.
-/

namespace ClassAtlas.Glob

open ClassAtlas.Text

/-- The first brace group holding no brace: the text before it, its contents and the text after
it, all reversed parts restored. -/
def firstGroup : List Char → Option (List Char × List Char × List Char)
  | [] => none
  | c :: rest =>
    if c = '{' then
      let inner := rest.takeWhile (fun d => d != '{' && d != '}')
      match rest.drop inner.length with
      | '}' :: after => some ([], inner, after)
      | _ => (firstGroup rest).map fun (before, g, after) => (c :: before, g, after)
    else (firstGroup rest).map fun (before, g, after) => (c :: before, g, after)

def splitCommas : List Char → List (List Char)
  | [] => [[]]
  | c :: rest =>
    match splitCommas rest with
    | [] => [[c]]
    | first :: others => if c = ',' then [] :: first :: others else (c :: first) :: others

def openBraces (cs : List Char) : Nat := cs.count '{'

/-- Expands brace groups; at most one level of recursion per opening brace. -/
def expandChars (fuel : Nat) (cs : List Char) : List (List Char) :=
  match fuel with
  | 0 => [cs]
  | fuel + 1 =>
    match firstGroup cs with
    | none => [cs]
    | some (before, inner, after) =>
      (splitCommas inner).flatMap fun option =>
        expandChars fuel (before ++ (trimBlanks (String.ofList option)).toList ++ after)

/-- The patterns a pattern with brace groups stands for. -/
def expandBraces (pattern : String) : List String :=
  (expandChars (openBraces pattern.toList) pattern.toList).map String.ofList

def isShaderPattern (pattern : String) : Bool :=
  contains pattern "usf" || contains pattern "ush"

end ClassAtlas.Glob
