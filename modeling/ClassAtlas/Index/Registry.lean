import ClassAtlas.Index.Roots
import ClassAtlas.Files.Listing
import ClassAtlas.Cache.Recency
import ClassAtlas.Source.Extract
import ClassAtlas.Reference.Entry

/-!
The registry of resolved classes. A class is resolved by name, ignoring case: the headers under
the class roots are read in order (root by root, each root's headers sorted, generated headers
and build output left out), and the first one that defines the class gives its record, which
carries the name as the header spells it. Records are kept in a bounded cache under the lowered
name, and reference entries in a second one under the declared name; neither is ever
invalidated, so later changes to the files are not seen for a class already resolved.

Operations run in `IndexM`: they read the file system, may fail, and change the registry even
when they fail later, as a search through several classes does.
-/

namespace ClassAtlas.Index

open ClassAtlas.Files ClassAtlas.Source ClassAtlas.Reference ClassAtlas.Cache

/-- The roots and the two caches. -/
structure Registry where
  roots : Roots
  classes : Recency String Record
  entries : Recency String Entry
  deriving Inhabited

/-- A step of work on the registry that may fail, keeping what it changed before failing. -/
abbrev IndexM := ExceptT Failure (StateM Registry)

def headerPattern : String := "*.h"

namespace Registry

/-- A registry with no roots and empty caches of the given bound; a bound below one is
refused. -/
def create (bound : Int) : Except Failure Registry :=
  if bound < 1 then .error (.badValue (Recency.boundMessage bound))
  else .ok ⟨Roots.none, Recency.empty bound.toNat, Recency.empty bound.toNat⟩

/-- The records in the cache, least recently used first. -/
def cachedRecords (ix : Registry) : List Record := ix.classes.values.filterMap id

def cacheSize (ix : Registry) : Nat := ix.classes.size

end Registry

/-- The roots, or a refusal when none is set. -/
def requireConfigured : IndexM Roots := do
  let r := (← get).roots
  match r.require with
  | .ok r => pure r
  | .error e => throw e

/-- Sets the roots given; nothing changes when a path is refused. -/
def configureRoots (t : Tree) (custom engine : Option String) : IndexM Roots := do
  let ix ← get
  match ix.roots.configure t custom engine with
  | .ok r =>
    set { ix with roots := r }
    pure r
  | .error e => throw e

/-- The record of the first header under `roots` that defines `name`. -/
def findDefinition (t : Tree) (name : String) : List Location → Option Record
  | [] => none
  | root :: rest =>
    let files := match t.listFiles root headerPattern true with
      | .ok fs => fs
      | .error _ => []
    let found := files.findSome? fun path =>
      match t.readVia? path with
      | some content =>
        if containsDefinition content name then extractClass content name (render path) else none
      | none => none
    match found with
    | some r => some r
    | none => findDefinition t name rest

/-- The record of a class, found in the cache under its lowered name or else in the headers. -/
def resolveClass (t : Tree) (name : String) : IndexM Record := do
  let key := Text.lower name
  let ix ← get
  let (cached, classes) := ix.classes.get key
  set { ix with classes := classes }
  match cached with
  | some r => pure r
  | none =>
    let roots := ix.roots.classSearchRoots t
    if roots.isEmpty then throw .noSearchPath
    match findDefinition t name roots with
    | some r =>
      modify fun ix => { ix with classes := ix.classes.put key (some r) }
      pure r
    | none => throw (.classNotFound name)

/-- The reference entry of a record, made once and then kept under the record's name. -/
def apiEntry (r : Record) : IndexM Entry := do
  let ix ← get
  let (cached, entries) := ix.entries.get r.name
  set { ix with entries := entries }
  match cached with
  | some e => pure e
  | none =>
    let e := synthesize r
    modify fun ix => { ix with entries := ix.entries.put r.name (some e) }
    pure e

end ClassAtlas.Index
