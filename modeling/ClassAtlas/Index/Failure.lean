/-!
The ways a request to the index can fail, each with the name it is known by and the message
that explains it. The names are those clients match on; the messages quote the path, name or
query the request gave, as given.
-/

namespace ClassAtlas.Index

/-- The subsystems that can be summarized, in the order they are offered. -/
def subsystemNames : List String :=
  ["Rendering", "Physics", "Audio", "Networking", "Input", "AI", "Animation", "UI"]

/-- The concepts that have a guide, in the order they are offered. -/
def conceptNames : List String :=
  ["UPROPERTY", "UFUNCTION", "Components", "Events", "Replication", "Blueprints"]

/-- A failed request. -/
inductive Failure where
  /-- Neither root has been set. -/
  | notInitialized
  /-- A root that is not a directory. -/
  | invalidPath (path : String)
  /-- An engine root with neither an `Engine` nor a `Source` directory. -/
  | invalidEnginePath (path : String)
  /-- No directory to look for classes in exists. -/
  | noSearchPath
  | classNotFound (name : String)
  | unknownSubsystem (name : String)
  | subsystemDirectoryMissing (path : String)
  | unknownConcept (concept : String)
  /-- A search query that is not a valid pattern, with the reason. -/
  | invalidQuery (query detail : String)
  /-- A file to read that does not exist. -/
  | fileNotFound (path : String)
  /-- An argument out of its range. -/
  | badValue (message : String)
  /-- A chain of superclasses that does not end. -/
  | tooDeep
  /-- A file pattern of a form that is not handled, such as one from the root. -/
  | unsupported (message : String)
  /-- A file pattern whose wildcard does not compile. -/
  | badWildcard (message : String)
  /-- A number in a query too large to be used. -/
  | overflow (message : String)
  deriving DecidableEq, Repr, Inhabited

def Failure.kind : Failure → String
  | .notInitialized => "NotInitializedError"
  | .invalidPath _ => "InvalidPathError"
  | .invalidEnginePath _ => "InvalidEnginePathError"
  | .noSearchPath => "NoSearchPathConfiguredError"
  | .classNotFound _ => "ClassNotFoundError"
  | .unknownSubsystem _ => "UnknownSubsystemError"
  | .subsystemDirectoryMissing _ => "SubsystemDirectoryNotFoundError"
  | .unknownConcept _ => "UnknownConceptError"
  | .invalidQuery _ _ => "InvalidQueryError"
  | .fileNotFound _ => "FileNotFoundError"
  | .badValue _ => "ValueError"
  | .tooDeep => "RecursionError"
  | .unsupported _ => "NotImplementedError"
  | .badWildcard _ => "error"
  | .overflow _ => "OverflowError"

def Failure.message : Failure → String
  | .notInitialized =>
    "No codebase initialized. Set an Unreal Engine path or a custom codebase first."
  | .invalidPath p => "Invalid path: Directory does not exist - " ++ p
  | .invalidEnginePath p => "Invalid path: Neither Engine nor Source directory found - " ++ p
  | .noSearchPath => "No valid search path configured"
  | .classNotFound n => "Class not found: " ++ n
  | .unknownSubsystem n => "Unknown subsystem: " ++ n ++ ". Available: " ++ ", ".intercalate subsystemNames
  | .subsystemDirectoryMissing p => "Subsystem directory not found: " ++ p
  | .unknownConcept c => "Unknown concept: " ++ c ++ ". Available: " ++ ", ".intercalate conceptNames
  | .invalidQuery q d => "Invalid search query '" ++ q ++ "': " ++ d
  | .fileNotFound p => "File not found: " ++ p
  | .badValue m => m
  | .tooDeep => "maximum recursion depth exceeded while calling a Python object"
  | .unsupported m => m
  | .badWildcard m => m
  | .overflow m => m

/-- Whether a failure is one of the index's own, as opposed to a fault of the surroundings. -/
def Failure.isIndexFailure : Failure → Bool
  | .fileNotFound _ | .badValue _ | .tooDeep | .unsupported _ | .badWildcard _
  | .overflow _ => false
  | _ => true

end ClassAtlas.Index
