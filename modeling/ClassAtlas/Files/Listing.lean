import ClassAtlas.Files.Tree
import ClassAtlas.Glob.Braces
import ClassAtlas.Glob.Wildcard
import ClassAtlas.Index.Failure

/-!
Listing the files under a directory that match a pattern, at any depth. The pattern is read
as components: a component `**` stands for any number of directories, a component with a
wildcard is matched against the names in a directory, and any other component is looked up
as it is (`..` included, which steps back out without being folded into the path). The
pattern is tried from every directory under the base, hidden ones included, so `*.h` finds
headers at every depth.

A listing expands brace groups first, keeps only files, leaves out whatever lies below an
`Intermediate` directory (build output) and, when asked, generated headers, and comes out
sorted component by component with each path once.
-/

namespace ClassAtlas.Files

open ClassAtlas.Glob ClassAtlas.Index ClassAtlas.Pattern

inductive Step where
  /-- Any number of directories, none included. -/
  | anyDepth
  /-- A name looked up as it is. -/
  | exact (name : String)
  /-- Names matching a compiled wildcard. -/
  | matching (wildcard : Program)
  /-- The end of a pattern written with a trailing slash. -/
  | stop

/-- The directory where build output goes, never listed. -/
def buildOutputDir : String := "Intermediate"

def generatedSuffix : String := ".generated.h"

def stepOf (component : String) : Except Failure Step :=
  if component.isEmpty then .ok .stop
  else if component == "**" then .ok .anyDepth
  else if Text.contains component "**" then
    .error (.badValue "Invalid pattern: '**' can only be an entire path component")
  else if hasWildcard component then
    match compileWildcard component with
    | .ok p => .ok (.matching p)
    | .error f => .error (.badWildcard (f.describe (wildcardPattern component)))
  else .ok (.exact component)

/-- The steps of a pattern looked for at any depth: a pattern from the root is refused. -/
def stepsOf (pattern : String) : Except Failure (List Step) :=
  if isRooted pattern then .error (.unsupported "Non-relative patterns are unsupported")
  else
    let parts := components pattern ++ (if pattern.endsWith "/" then [""] else [])
    ("**" :: parts).mapM stepOf

/-- The directories at or below `path`, each as `path` followed by the names leading to it. -/
def Tree.dirsBelow (t : Tree) (path : List String) : List (List String) :=
  match t.walk [] path with
  | none => []
  | some here =>
    path :: t.dirs.filterMap fun l =>
      if here.length < l.length && l.take here.length == here then some (path ++ l.drop here.length)
      else none

/-- The paths that steps select from the directory `path`. -/
def Tree.select (t : Tree) : List Step → List String → List (List String)
  | [], path => [path]
  | .stop :: _, path => [path]
  | .anyDepth :: rest, path => (t.dirsBelow path).flatMap fun d => t.select rest d
  | .exact name :: rest, path =>
    let child := path ++ [name]
    if (if rest.isEmpty then t.existsVia child else t.isDirVia child) then t.select rest child
    else []
  | .matching p :: rest, path =>
    match t.walk [] path with
    | none => []
    | some here =>
      (t.children here).flatMap fun (name, isDir) =>
        if (rest.isEmpty || isDir) && matchesName p name then t.select rest (path ++ [name]) else []

/-- Whether a listed path is kept: a file, not below build output and, when asked, not a
generated header. -/
def Tree.keeps (t : Tree) (base : Location) (excludeGenerated : Bool) (path : List String) : Bool :=
  t.isFileVia path && !(relativeTo path base).contains buildOutputDir &&
    !(excludeGenerated && Text.endsWith (Location.name path) generatedSuffix)

/-- The files under `root` matching `pattern`, sorted component by component. -/
def Tree.listFiles (t : Tree) (root : Location) (pattern : String) (excludeGenerated : Bool) :
    Except Failure (List (List String)) := do
  let base := normalize [] root
  if !t.isDirAt base then return []
  let mut found : List (List String) := []
  for sub in expandBraces pattern do
    let steps ← stepsOf sub
    found := found ++ (t.select steps base).filter (t.keeps base excludeGenerated)
  return found.eraseDups.mergeSort fun a b => !Location.before b a

end ClassAtlas.Files
