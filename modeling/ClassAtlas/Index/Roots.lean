import ClassAtlas.Files.Tree
import ClassAtlas.Index.Failure
import ClassAtlas.Json.Value

/-!
The two roots sources are looked for under: a project's own sources, and an engine. Classes
are looked for first under the project, then in the engine's runtime and editor sources, then
anywhere in the engine; text is searched under both roots, and under the engine's shader
directories when the files asked for are shaders.

Setting the roots checks every path given before changing anything: an engine root must be a
directory holding an `Engine` or a `Source` directory, a project root a directory. A root that
is not given keeps its value.
-/

namespace ClassAtlas.Index

open ClassAtlas.Files

structure Roots where
  custom : Option Location
  engine : Option Location
  deriving DecidableEq, Repr, Inhabited

/-- Directories under the engine root holding classes, in the order they are tried. -/
def engineClassDirs : List (List String) :=
  [["Engine", "Source", "Runtime"], ["Engine", "Source", "Editor"], ["Source", "Runtime"], ["Source"]]

def engineShaderDirs : List (List String) := [["Engine", "Shaders"], ["Shaders"]]

namespace Roots

def none : Roots := ⟨Option.none, Option.none⟩

def isConfigured (r : Roots) : Bool := r.custom.isSome || r.engine.isSome

def require (r : Roots) : Except Failure Roots :=
  if r.isConfigured then .ok r else .error .notInitialized

/-- The directories classes are looked for under, in order, keeping only those that exist. -/
def classSearchRoots (r : Roots) (t : Tree) : List Location :=
  let candidates := r.custom.toList ++
    (match r.engine with
      | some e => engineClassDirs.map (e ++ ·) ++ [e]
      | Option.none => [])
  candidates.filter t.isDirAt

/-- The directories text is searched under, with the shader directories that exist when asked. -/
def textSearchRoots (r : Roots) (t : Tree) (withShaders : Bool) : List Location :=
  r.custom.toList ++
    (match r.engine with
      | some e =>
        e :: (if withShaders then (engineShaderDirs.map (e ++ ·)).filter t.isDirAt else [])
      | Option.none => [])

end Roots

/-- The location a path text resolves to: its components from the root, each `..` stepping
back. -/
def resolvePath (path : String) : Location := normalize [] (components path)

/-- Whether a path text names an engine root: a directory holding `Engine` or `Source`. -/
def checkEngine (t : Tree) (path : String) : Except Failure Location :=
  if !t.isDir path then .error (.invalidPath path)
  else if !t.isDir (path ++ "/Engine") && !t.isDir (path ++ "/Source") then
    .error (.invalidEnginePath path)
  else .ok (resolvePath path)

def checkCustom (t : Tree) (path : String) : Except Failure Location :=
  if t.isDir path then .ok (resolvePath path) else .error (.invalidPath path)

/-- The roots after setting those given; nothing changes unless every given path is valid, and
the engine path is checked first. -/
def Roots.configure (r : Roots) (t : Tree) (custom engine : Option String) : Except Failure Roots := do
  let e ← match engine with
    | some p => some <$> checkEngine t p
    | Option.none => pure r.engine
  let c ← match custom with
    | some p => some <$> checkCustom t p
    | Option.none => pure r.custom
  return ⟨c, e⟩

def Roots.toJson (r : Roots) : Json :=
  .obj [("custom_root", .optStr (r.custom.map render)), ("engine_root", .optStr (r.engine.map render))]

end ClassAtlas.Index
