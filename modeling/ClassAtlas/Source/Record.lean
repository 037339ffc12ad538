import ClassAtlas.Json.Value

/-!
What is recorded of a C++ class: where it is declared, the names of its bases, split into
superclasses and interfaces, and the methods and reflected properties found in its file.
-/

namespace ClassAtlas.Source

/-- A parameter of a method (none are ever read, so lists of them stay empty). -/
structure Parameter where
  name : String
  type : String
  defaultValue : Option String
  deriving DecidableEq, Repr, Inhabited

/-- A method declaration: its name, the type it returns, its markers and its line. -/
structure Method where
  name : String
  returnType : String
  isVirtual : Bool
  isOverride : Bool
  line : Nat
  parameters : List Parameter
  deriving DecidableEq, Repr, Inhabited

structure Property where
  name : String
  type : String
  line : Nat
  deriving DecidableEq, Repr, Inhabited

/-- A class as declared in a source file: the spelling of its name there, the file, the
1-based line of its declaration, its bases and the members found in the file. -/
structure Record where
  name : String
  sourceFile : String
  definitionLine : Nat
  superclassNames : List String
  interfaceNames : List String
  methods : List Method
  properties : List Property
  deriving DecidableEq, Repr, Inhabited

def Parameter.toJson (p : Parameter) : Json :=
  .obj [("name", .str p.name), ("type", .str p.type), ("default_value", .optStr p.defaultValue)]

def Method.toJson (m : Method) : Json :=
  .obj [("name", .str m.name), ("return_type", .str m.returnType), ("is_virtual", .bool m.isVirtual),
    ("is_override", .bool m.isOverride), ("line", .nat m.line),
    ("parameters", .arr (m.parameters.map Parameter.toJson))]

def Property.toJson (p : Property) : Json :=
  .obj [("name", .str p.name), ("type", .str p.type), ("line", .nat p.line)]

def Record.toJson (r : Record) : Json :=
  .obj [("name", .str r.name), ("source_file", .str r.sourceFile),
    ("definition_line", .nat r.definitionLine), ("superclass_names", .strs r.superclassNames),
    ("interface_names", .strs r.interfaceNames), ("methods", .arr (r.methods.map Method.toJson)),
    ("properties", .arr (r.properties.map Property.toJson))]

end ClassAtlas.Source
