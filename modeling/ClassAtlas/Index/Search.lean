import ClassAtlas.Index.Registry
import ClassAtlas.Pattern.Build
import ClassAtlas.Pattern.Match
import ClassAtlas.Text.Lines

/-!
Searching the sources line by line. The files searched are those the file pattern finds under
each text root in turn, each file once however many roots reach it; every line is searched for
the pattern, and each line where it is found is reported with the column of the leftmost match
and the lines around it, up to a hundred lines in all.

A reference to an identifier is an occurrence of it standing as a whole word; a text search
reads its query as a pattern ignoring case, and may leave out lines that start a comment.
-/

namespace ClassAtlas.Index

open ClassAtlas.Files ClassAtlas.Pattern ClassAtlas.Text

structure CodeMatch where
  file : String
  line : Nat
  column : Nat
  context : String
  deriving DecidableEq, Repr, Inhabited

def matchLimit : Nat := 100

def defaultFilePattern : String := "*.{h,cpp}"

/-- The files a pattern finds under the text roots, in root order, each once by its resolved
location. -/
def collectFiles (t : Tree) (filePattern : String) : IndexM (List Location) := do
  let roots ← requireConfigured
  let mut seen : List Location := []
  for root in roots.textSearchRoots t (Glob.isShaderPattern filePattern) do
    match t.listFiles root filePattern false with
    | .ok paths =>
      for path in paths do
        let resolved := normalize [] path
        if !seen.contains resolved then seen := seen ++ [resolved]
    | .error e => throw e
  return seen

/-- Whether a line, stripped, starts a comment. -/
def startsComment (line : String) : Bool :=
  let s := trimBlanks line
  startsWith s "//" || startsWith s "/*"

def matchLine (p : Program) (includeComments : Bool) (file : String) (lines : List String)
    (line : String) (i : Nat) : Option CodeMatch :=
  if !includeComments && startsComment line then none
  else (p.search line).map fun f => ⟨file, i + 1, f.start + 1, contextWindow lines i 2⟩

/-- The lines of the files where the pattern is found, the first `limit` of them. -/
def scanFiles (t : Tree) (p : Program) (includeComments : Bool) (limit : Nat) (files : List Location) :
    List CodeMatch :=
  let all := files.flatMap fun path =>
    match t.readVia? path with
    | none => []
    | some content =>
      let lines := splitLines content
      lines.zipIdx.filterMap fun (line, i) => matchLine p includeComments (render path) lines line i
  all.take limit

/-- The pattern of a whole-word occurrence: `\b` before and after the identifier's text. -/
def wordPattern (identifier : String) : Program :=
  ⟨Prog.all [Prog.boundary, Prog.literal false identifier, Prog.boundary], 0⟩

/-- The lines where an identifier stands as a whole word. -/
def findReferences (t : Tree) (identifier : String) : IndexM (List CodeMatch) := do
  let files ← collectFiles t defaultFilePattern
  pure (scanFiles t (wordPattern identifier) true matchLimit files)

/-- A query compiled ignoring case; a query that is no valid pattern is refused. -/
def compileQuery (query : String) : Except Failure Program :=
  match compile query ignoreCase with
  | .ok p => .ok p
  | .error .countTooLarge => .error (.overflow (Fault.countTooLarge.describe query))
  | .error .flagsIncompatible => .error (.badValue (Fault.flagsIncompatible.describe query))
  | .error f => .error (.invalidQuery query (f.describe query))

/-- The lines matching a query, ignoring case, in the files a file pattern finds. -/
def searchText (t : Tree) (query filePattern : String) (includeComments : Bool) :
    IndexM (List CodeMatch) := do
  match compileQuery query with
  | .error e => throw e
  | .ok p =>
    let files ← collectFiles t filePattern
    pure (scanFiles t p includeComments matchLimit files)

def CodeMatch.toJson (m : CodeMatch) : Json :=
  .obj [("file", .str m.file), ("line", .nat m.line), ("column", .nat m.column),
    ("context", .str m.context)]

end ClassAtlas.Index
