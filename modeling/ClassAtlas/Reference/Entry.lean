import ClassAtlas.Source.Record
import ClassAtlas.Files.Path
import ClassAtlas.Text.Case
import ClassAtlas.Text.Infix

/-!
Reference entries derived from extracted classes. An entry names a class, sorts it into a
category by the first letter of its name (the engine's naming convention: `U` for objects,
`A` for actors, `F` for plain structures) or, failing that, by a component base, and places it
in the module that follows `Runtime` in its header's path.

Entries are ranked against search terms by weighted substring hits: a term found in the name
weighs ten, in the category or the module five each, and anywhere in the entry's text two.
-/

namespace ClassAtlas.Reference

open ClassAtlas.Source ClassAtlas.Text

/-- The kinds of class an entry can describe. -/
inductive Category where
  | object
  | actor
  | struct
  | component
  | miscellaneous
  deriving DecidableEq, Repr, Inhabited

/-- The name of a category as it is shown and filtered on. -/
def Category.label : Category → String
  | .object => "Object"
  | .actor => "Actor"
  | .struct => "Structure"
  | .component => "Component"
  | .miscellaneous => "Miscellaneous"

def Category.ofLabel? (s : String) : Option Category :=
  [Category.object, .actor, .struct, .component, .miscellaneous].find? (·.label == s)

structure Entry where
  className : String
  description : String
  declaration : String
  category : Category
  module : String
  relatedClasses : List String
  examples : List String
  remarks : List String
  version : String
  deriving Repr, Inhabited

/-- A pointer to further reading. -/
structure Resource where
  title : String
  kind : String
  url : String
  description : String
  deriving Repr, Inhabited

def defaultModule : String := "Core"

def apiVersion : String := "5.0"

def docsBase : String := "https://dev.epicgames.com/documentation/en-us/unreal-engine/API"

/-- The category of a class: by the first letter of its name, else by a component base. -/
def categoryOf (r : Record) : Category :=
  if r.name.startsWith "U" then .object
  else if r.name.startsWith "A" then .actor
  else if r.name.startsWith "F" then .struct
  else if r.superclassNames.any (contains · "Component") then .component
  else .miscellaneous

/-- The component after the first `Runtime` component of a path, if there is one. -/
def moduleAfterRuntime : List String → Option String
  | [] => none
  | "Runtime" :: rest => rest.head?
  | _ :: rest => moduleAfterRuntime rest

/-- The module of a header: the component after `Runtime` in its path, else the default. -/
def moduleOf (sourceFile : String) : String :=
  (moduleAfterRuntime (Files.components sourceFile)).getD defaultModule

/-- The declaration of a class with its public bases. -/
def classSyntax (r : Record) : String :=
  let head := "class " ++ r.name
  if r.superclassNames.isEmpty then head
  else head ++ " : public " ++ ", public ".intercalate r.superclassNames

/-- The entry derived from an extracted class. -/
def synthesize (r : Record) : Entry where
  className := r.name
  description := "Class " ++ r.name
  declaration := classSyntax r
  category := categoryOf r
  module := moduleOf r.sourceFile
  relatedClasses := r.superclassNames ++ r.interfaceNames
  examples := []
  remarks := []
  version := apiVersion

/-- The weight of one term: ten for the name, five each for the category and the module, two
for the entry's whole text. -/
def termScore (name category module text term : String) : Nat :=
  (if contains name term then 10 else 0) + (if contains category term then 5 else 0) +
    (if contains module term then 5 else 0) + (if contains text term then 2 else 0)

/-- The lowered text of an entry that terms are looked for in. -/
def Entry.searchText (e : Entry) : String :=
  lower (" ".intercalate ([e.className, e.description, e.category.label, e.module] ++ e.relatedClasses))

/-- The relevance of an entry to terms, each used as given. -/
def score (e : Entry) (terms : List String) : Nat :=
  let name := lower e.className
  let category := lower e.category.label
  let module := lower e.module
  let text := e.searchText
  (terms.map (termScore name category module text)).foldr (· + ·) 0

/-- A short text describing an entry, with its examples when asked for. -/
def Entry.context (e : Entry) (withExamples : Bool) : String :=
  let base := e.className ++ " - " ++ e.description ++ "\n" ++ "Module: " ++ e.module ++ "\n" ++
    "Category: " ++ e.category.label ++ "\n\n" ++ "Syntax:\n" ++ e.declaration ++ "\n"
  if withExamples && !e.examples.isEmpty then
    base ++ "\nExamples:\n" ++ "\n".intercalate (e.examples.map (· ++ "\n"))
  else base

def Entry.docsUrl (e : Entry) : String := docsBase ++ "/" ++ e.module ++ "/" ++ e.className

/-- The reading offered with a result: the official documentation at `url`. -/
def learningResources (name url : String) : List Resource :=
  [⟨"Official Documentation", "documentation", url, "Official Unreal Engine documentation for " ++ name⟩]

def Entry.toJson (e : Entry) : Json :=
  .obj [("class_name", .str e.className), ("description", .str e.description),
    ("syntax", .str e.declaration), ("category", .str e.category.label), ("module", .str e.module),
    ("related_classes", .strs e.relatedClasses), ("examples", .strs e.examples),
    ("remarks", .strs e.remarks), ("version", .str e.version)]

def Resource.toJson (r : Resource) : Json :=
  .obj [("title", .str r.title), ("type", .str r.kind), ("url", .str r.url),
    ("description", .str r.description)]

end ClassAtlas.Reference
