import ClassAtlas.Index.Registry

/-!
Summaries of the engine's subsystems. Each subsystem lives in one runtime directory of the
engine; its summary lists the headers and sources there, at any depth, and the classes with a
base that its headers declare.
-/

namespace ClassAtlas.Index

open ClassAtlas.Files ClassAtlas.Source

structure Summary where
  name : String
  mainClasses : List String
  sourceFiles : List String
  deriving DecidableEq, Repr, Inhabited

def subsystemDir? : String → Option (List String)
  | "Rendering" => some ["Engine", "Source", "Runtime", "RenderCore"]
  | "Physics" => some ["Engine", "Source", "Runtime", "PhysicsCore"]
  | "Audio" => some ["Engine", "Source", "Runtime", "AudioCore"]
  | "Networking" => some ["Engine", "Source", "Runtime", "Networking"]
  | "Input" => some ["Engine", "Source", "Runtime", "InputCore"]
  | "AI" => some ["Engine", "Source", "Runtime", "AIModule"]
  | "Animation" => some ["Engine", "Source", "Runtime", "AnimationCore"]
  | "UI" => some ["Engine", "Source", "Runtime", "UMG"]
  | _ => none

/-- The summary of a subsystem of the configured engine. -/
def analyzeSubsystem (t : Tree) (name : String) : IndexM Summary := do
  let roots ← requireConfigured
  let some engine := roots.engine | throw .notInitialized
  let some rel := subsystemDir? name | throw (.unknownSubsystem name)
  let dir := engine ++ rel
  if !t.isDirVia dir then throw (.subsystemDirectoryMissing (render dir))
  let files ← match t.listFiles dir "*.{h,cpp}" false with
    | .ok fs => pure fs
    | .error e => throw e
  let headers := files.filter fun f => suffixOf (Location.name f) == ".h"
  let classes := headers.flatMap fun f =>
    match t.readVia? f with
    | some content => classNames content
    | none => []
  pure ⟨name, classes, files.map render⟩

/-- A summary as a JSON object; features and dependencies are never filled in. -/
def Summary.toJson (s : Summary) : Json :=
  .obj [("name", .str s.name), ("main_classes", .strs s.mainClasses),
    ("source_files", .strs (s.sourceFiles)), ("key_features", .arr []), ("dependencies", .arr [])]

end ClassAtlas.Index
