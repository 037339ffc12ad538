import ClassAtlas.Index.Registry

/-!
The superclass tree of a class. Each superclass is resolved and expanded in turn; one that
cannot be found becomes a leaf, and one whose name is already on the path from the root (the
names as the headers declare them) becomes a leaf marked as closing a cycle. A class reached
along two branches is expanded on each.

The names on the path are compared as written, while classes are resolved ignoring case, so a
class naming itself as a base in another case would be expanded without end; the expansion
stops at a fixed depth and fails there.
-/

namespace ClassAtlas.Index

open ClassAtlas.Files ClassAtlas.Source

/-- A class with its expanded superclasses. -/
inductive Node where
  | node (className : String) (superclasses : List Node) (interfaces : List String) (cycle : Bool)
  deriving Repr, Inhabited

def Node.leaf (name : String) (cycle : Bool) : Node := .node name [] [] cycle

/-- How deep an expansion may go before the runtime's bound on nested calls stops it. -/
def hierarchyDepthLimit : Nat := 900

mutual

/-- The tree of `name`, whose path from the root holds the names `path`. -/
def expand (t : Tree) (includeInterfaces : Bool) : Nat → List String → String → IndexM Node
  | 0, _, _ => throw .tooDeep
  | fuel + 1, path, name => do
    let r ← resolveClass t name
    let onPath := path ++ [r.name]
    let children ← expandBases t includeInterfaces fuel onPath r.superclassNames
    pure (.node r.name children (if includeInterfaces then r.interfaceNames else []) false)
termination_by fuel _ _ => (fuel, 1, 0)

def expandBases (t : Tree) (includeInterfaces : Bool) : Nat → List String → List String →
    IndexM (List Node)
  | _, _, [] => pure []
  | fuel, onPath, base :: rest => do
    let child ←
      if onPath.contains base then pure (Node.leaf base true)
      else tryCatch (expand t includeInterfaces fuel onPath base) fun e =>
        match e with
        | .classNotFound _ => pure (Node.leaf base false)
        | e => throw e
    let others ← expandBases t includeInterfaces fuel onPath rest
    pure (child :: others)
termination_by fuel _ bases => (fuel, 2, bases.length)

end

/-- The superclass tree of a class; failing to resolve the class itself is a failure. -/
def buildHierarchy (t : Tree) (name : String) (includeInterfaces : Bool) : IndexM Node :=
  expand t includeInterfaces hierarchyDepthLimit [] name

mutual

def Node.toJson : Node → Json
  | .node name sups ifaces cycle =>
    .obj [("class_name", .str name), ("superclasses", .arr (Node.listToJson sups)),
      ("interfaces", .strs ifaces), ("cycle", .bool cycle)]

def Node.listToJson : List Node → List Json
  | [] => []
  | n :: rest => n.toJson :: Node.listToJson rest

end

end ClassAtlas.Index
