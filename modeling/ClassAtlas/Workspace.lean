import ClassAtlas.Index.Hierarchy
import ClassAtlas.Index.Search
import ClassAtlas.Index.Subsystems
import ClassAtlas.Index.Settings
import ClassAtlas.Reference.Query
import ClassAtlas.Reference.Idioms

/-!
A workspace: a file system and the registry that indexes it. Requests to the registry run
against the file system as it is when they are made; files may change between requests, and
the registry keeps what it cached.
-/

namespace ClassAtlas

open ClassAtlas.Files ClassAtlas.Index ClassAtlas.Source ClassAtlas.Reference

structure Workspace where
  tree : Tree
  index : Registry
  deriving Inhabited

namespace Workspace

/-- Runs a request on the registry, keeping the registry it leaves, failed or not. -/
def run {α : Type} (w : Workspace) (m : IndexM α) : Except Failure α × Workspace :=
  let (r, ix) := (m.run).run w.index
  (r, { w with index := ix })

/-- A path text as a path prints: components joined, `.` and empty ones left out. -/
def pathText (path : String) : String :=
  if isRooted path then render (components path)
  else if (components path).isEmpty then "." else "/".intercalate (components path)

def readSource (w : Workspace) (path : String) : Option String := w.tree.readText? path

def extractClassFromFile (w : Workspace) (path name : String) : Option Record :=
  (w.readSource path).bind fun content => extractClass content name (pathText path)

/-- The idioms in one file, reported under the path as given. -/
def detectInFile (w : Workspace) (path : String) : Except Failure (List Sighting) :=
  if !w.tree.isFile path then .error (.fileNotFound path)
  else match w.readSource path with
    | some content => .ok (detectIdioms content path)
    | none => .error (.fileNotFound path)

def writeFile (w : Workspace) (path : String) (bytes : ByteArray) : Workspace :=
  { w with tree := w.tree.write (resolvePath path) bytes }

def removeFile (w : Workspace) (path : String) : Workspace :=
  { w with tree := w.tree.remove (resolvePath path) }

end Workspace

end ClassAtlas
