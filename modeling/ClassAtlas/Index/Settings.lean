import ClassAtlas.Cache.Recency
import ClassAtlas.Index.Registry
import ClassAtlas.Text.Numeral

/-!
Settings read from the environment. The cache bound is taken from a variable when it holds a
positive integer, written as integers are usually written (blanks around it, a sign, single
underscores between digits, digits of any script); anything else leaves the default.
-/

namespace ClassAtlas.Index

open ClassAtlas.Text ClassAtlas.Cache

def engineVariable : String := "UNREAL_ENGINE_PATH"

def customVariable : String := "UNREAL_CUSTOM_CODEBASE"

def cacheVariable : String := "UNREAL_INDEX_CACHE_SIZE"

/-- The cache bound a variable's value asks for: a positive integer it holds, else the default. -/
def cacheSizeFrom (raw : Option String) : Nat :=
  match raw with
  | none => Cache.defaultCapacity
  | some s =>
    if s.isEmpty then Cache.defaultCapacity
    else match readInt s with
      | some n => if n > 0 then n.toNat else Cache.defaultCapacity
      | none => Cache.defaultCapacity

/-- The variables a registry is set up from; each may be unset. -/
structure Environment where
  engine : Option String
  custom : Option String
  cacheSize : Option String
  deriving DecidableEq, Repr, Inhabited

/-- A given path, else the variable's value; an empty text counts as none. -/
def pathOr (given fallback : Option String) : Option String :=
  match given with
  | some p => if p.isEmpty then fallback.filter (!·.isEmpty) else some p
  | none => fallback.filter (!·.isEmpty)

/-- A registry set up from explicit paths, falling back to the environment. A path that is
refused is left unset, so that the roots can still be set later, and a refused engine path does
not keep the project path from being set. -/
def createIndex (t : Files.Tree) (enginePath customPath : Option String) (env : Environment) :
    Registry :=
  let bound := cacheSizeFrom env.cacheSize
  let ix : Registry := ⟨Roots.none, Recency.empty bound, Recency.empty bound⟩
  let setRoot (ix : Registry) (custom engine : Option String) : Registry :=
    match ix.roots.configure t custom engine with
    | .ok r => { ix with roots := r }
    | .error _ => ix
  let ix := match pathOr enginePath env.engine with
    | some e => setRoot ix none (some e)
    | none => ix
  match pathOr customPath env.custom with
  | some c => setRoot ix (some c) none
  | none => ix

end ClassAtlas.Index
