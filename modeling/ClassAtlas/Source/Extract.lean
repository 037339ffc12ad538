import ClassAtlas.Source.Record
import ClassAtlas.Source.Shapes
import ClassAtlas.Pattern.Match
import ClassAtlas.Text.Lines
import ClassAtlas.Text.Infix

/-!
Extracting a class from the text of a header, line by line and by the shapes of declarations
alone: template bases, nested classes and declarations spread over several lines are not
understood. Methods and properties are collected from the whole file, not only from the body
of the class, and at most `memberLimit` of each are kept.
-/

namespace ClassAtlas.Source

open ClassAtlas.Pattern ClassAtlas.Text

/-- The most methods, and the most properties, kept for one class. -/
def memberLimit : Nat := 100

/-- Whether a base name names an interface: it starts with `I`, but the marker base
`IInterface` and value types such as `IntBox` do not count. -/
def isInterfaceName (name : String) : Bool :=
  startsWith name "I" && name != "IInterface" && !startsWith name "Int"

/-- Whether a text has something like a definition of class `name`: `class`, the name and then
a colon or an opening brace, case ignored. -/
def containsDefinition (content name : String) : Bool :=
  ((existenceShape name).search content).isSome

/-- The names of all classes declared with an inheritance clause, in file order. -/
def classNames (content : String) : List String :=
  let text := content.toList.toArray
  (anyClassShape.findAll text).filterMap fun f => f.group text 1

/-- An inheritance clause split into superclasses and interfaces: an opening brace and what
follows it are dropped, and each comma-separated entry names the base after its access
keyword. -/
def splitBases (clause : String) : List String × List String :=
  let clause := trimBlanks (braceTailShape.replaceAll clause "")
  if clause.isEmpty then ([], [])
  else
    let bases := ((clause.toList.splitOn ',').map String.ofList).filterMap fun entry =>
      let entry := trimBlanks entry
      let text := entry.toList.toArray
      (baseShape.searchFrom text 0 false).bind fun f => f.group text 1
    (bases.filter (!isInterfaceName ·), bases.filter isInterfaceName)

/-- Whether a line is a macro definition, a type alias or a declaration macro, where no
method is looked for. -/
def skipsMethods (line : String) : Bool :=
  contains line "DECLARE_" || contains line "typedef" || contains line "#define"

/-- The method a line declares, if any, with the given line number. -/
def methodOfLine (line : String) (number : Nat) : Option Method :=
  if skipsMethods line then none
  else
    let text := line.toList.toArray
    (methodShape.matchAt text 0 false).bind fun f =>
      match f.group text 1, f.group text 2 with
      | some ret, some name =>
        some ⟨name, ret, contains line "virtual", contains line "override", number, []⟩
      | _, _ => none

/-- The methods declared in lines, numbered from one, at most `memberLimit`. -/
def methodsOf (lines : List String) : List Method :=
  let numbered := lines.zipIdx.filterMap fun (line, i) => methodOfLine line (i + 1)
  numbered.take memberLimit

/-- The reflected properties of a text, at most `memberLimit`: a `UPROPERTY(...)` macro at the
start of a line followed by a type and a name; the line is the macro's. -/
def propertiesOf (content : String) : List Property :=
  let text := content.toList.toArray
  let found := (propertyShape.findAll text).filterMap fun f =>
    match f.group text 1, f.group text 2 with
    | some type, some name => some ⟨name, type, (text.extract 0 f.start).toList.count '\n' + 1⟩
    | _, _ => none
  found.take memberLimit

/-- The first definition line of class `name` in lines: its 1-based number, the name as
written and the inheritance clause. -/
def definitionOf (lines : List String) (name : String) : Option (Nat × String × String) :=
  let shape := definitionShape name
  let rec go : List String → Nat → Option (Nat × String × String)
    | [], _ => none
    | line :: rest, i =>
      let text := line.toList.toArray
      match shape.matchAt text 0 false with
      | some f => some (i, (f.group text 1).getD name, (f.group text 2).getD "")
      | none => go rest (i + 1)
  go lines 1

/-- The record of class `name` from the text of `sourceFile`, or `none` when no line defines
it. -/
def extractClass (content name sourceFile : String) : Option Record :=
  let lines := splitLines content
  (definitionOf lines name).map fun (line, declared, clause) =>
    let (supers, interfaces) := splitBases clause
    ⟨declared, sourceFile, line, supers, interfaces, methodsOf lines, propertiesOf content⟩

end ClassAtlas.Source
