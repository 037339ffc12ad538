import ClassAtlas.Reference.Entry
import ClassAtlas.Source.Shapes
import ClassAtlas.Pattern.Match
import ClassAtlas.Text.Lines
import ClassAtlas.Text.Quote

/-!
Idioms of engine code that are worth a second look: reflected property declarations,
components created in a constructor, and delegate bindings. Each idiom has a catalog entry and
a line pattern; every line that shows an idiom is reported with the lines around it, and the
surroundings decide which improvements are suggested.
-/

namespace ClassAtlas.Reference

open ClassAtlas.Pattern Prog ClassAtlas.Source ClassAtlas.Text

inductive Idiom where
  | propertyMacro
  | componentSetup
  | eventBinding
  deriving DecidableEq, Repr, Inhabited

def Idiom.all : List Idiom := [.propertyMacro, .componentSetup, .eventBinding]

def Idiom.label : Idiom → String
  | .propertyMacro => "UPROPERTY Macro"
  | .componentSetup => "Component Setup"
  | .eventBinding => "Event Binding"

def Idiom.ofLabel? (s : String) : Option Idiom := Idiom.all.find? (·.label == s)

/-- The idiom a name stands for; another name is refused, shown as a quoted literal. -/
def Idiom.parse (s : String) : Except String Idiom :=
  match Idiom.ofLabel? s with
  | some i => .ok i
  | none => .error (quote s ++ " is not a valid PatternKind")

structure Info where
  name : String
  description : String
  bestPractices : List String
  documentation : String
  examples : List String
  relatedPatterns : List String
  deriving Repr, Inhabited

def Idiom.info : Idiom → Info
  | .propertyMacro =>
    { name := "UPROPERTY Macro"
      description := "Property declaration for Unreal reflection system"
      bestPractices := [
        "Use appropriate property specifiers (EditAnywhere, BlueprintReadWrite, etc.)",
        "Consider replication needs (Replicated, ReplicatedUsing)",
        "Group related properties with categories"]
      documentation := "https://docs.unrealengine.com/5.0/en-US/unreal-engine-uproperty-specifier-reference/"
      examples := [
        "UPROPERTY(EditAnywhere, BlueprintReadWrite, Category = \"Combat\")\nfloat Health;",
        "UPROPERTY(Replicated)\nFVector Location;"]
      relatedPatterns := ["UFUNCTION Macro", "UCLASS Macro"] }
  | .componentSetup =>
    { name := "Component Setup"
      description := "Creating and initializing components in constructor"
      bestPractices := [
        "Create components in constructor",
        "Set default values in constructor",
        "Use CreateDefaultSubobject for components",
        "Set root component appropriately"]
      documentation := "https://docs.unrealengine.com/5.0/en-US/components-in-unreal-engine/"
      examples := [
        "RootComponent = CreateDefaultSubobject<USceneComponent>(TEXT(\"Root\"));",
        "MeshComponent = CreateDefaultSubobject<UStaticMeshComponent>(TEXT(\"Mesh\"));"]
      relatedPatterns := ["Actor Initialization", "Component Registration"] }
  | .eventBinding =>
    { name := "Event Binding"
      description := "Binding to delegate events and implementing event handlers"
      bestPractices := [
        "Bind events in BeginPlay",
        "Unbind events in EndPlay",
        "Use DECLARE_DYNAMIC_MULTICAST_DELEGATE for Blueprint exposure",
        "Consider weak pointer bindings for safety"]
      documentation := "https://docs.unrealengine.com/5.0/en-US/delegates-in-unreal-engine/"
      examples := [
        "OnHealthChanged.AddDynamic(this, &AMyActor::HandleHealthChanged);",
        "FScriptDelegate Delegate; Delegate.BindUFunction(this, \"OnCustomEvent\");"]
      relatedPatterns := ["Delegate Declaration", "Event Dispatching"] }

/-- The line pattern of an idiom, searched anywhere in a line:
`UPROPERTY\s*\([^)]*\)`, `CreateDefaultSubobject\s*<[^>]+>\s*\(` and
`\.Add(?:Dynamic|Unique|Raw|Lambda)|BindUFunction`. -/
def Idiom.shape : Idiom → Program
  | .propertyMacro => ⟨macroCall false "UPROPERTY", 0⟩
  | .componentSetup =>
    ⟨Prog.all [literal false "CreateDefaultSubobject", blanks, lit '<', many1 (but '>'), lit '>',
      blanks, lit '('], 0⟩
  | .eventBinding =>
    ⟨first [Prog.all [literal false ".Add",
        first [literal false "Dynamic", literal false "Unique", literal false "Raw",
          literal false "Lambda"]],
      literal false "BindUFunction"], 0⟩

/-- The improvements an idiom's surroundings suggest. -/
def Idiom.suggestions (i : Idiom) (context : String) : List String :=
  match i with
  | .propertyMacro =>
    (if contains context "Category" then [] else
      ["Consider adding a Category specifier for better organization"]) ++
    (if contains context "BlueprintReadWrite" && !contains context "Meta" then
      ["Consider adding Meta specifiers for validation"] else [])
  | .componentSetup =>
    if contains context "RootComponent" then [] else ["Consider setting up component hierarchy"]
  | .eventBinding =>
    let lowered := lower context
    if !contains lowered "beginplay" && !contains lowered "endplay" then
      ["Consider managing event binding/unbinding in BeginPlay/EndPlay"]
    else []

structure Sighting where
  idiom : Idiom
  file : String
  line : Nat
  context : String
  suggestions : List String
  resources : List Resource
  deriving Repr, Inhabited

/-- The sightings of one idiom in the lines of a file, in line order. -/
def Idiom.sightings (i : Idiom) (file : String) (lines : List String) : List Sighting :=
  let shape := i.shape
  (lines.zipIdx.filter fun (l, _) => (shape.search l).isSome).map fun (_, n) =>
    let context := contextWindow lines n 2
    ⟨i, file, n + 1, context, i.suggestions context,
      learningResources i.info.name i.info.documentation⟩

/-- Every sighting of every idiom in a text, idiom by idiom in catalog order. -/
def detectIdioms (content file : String) : List Sighting :=
  let lines := splitLines content
  Idiom.all.flatMap fun i => i.sightings file lines

def Info.toJson (i : Info) : Json :=
  .obj [("name", .str i.name), ("description", .str i.description),
    ("best_practices", .strs i.bestPractices), ("documentation", .str i.documentation),
    ("examples", .strs i.examples), ("related_patterns", .strs i.relatedPatterns)]

def Sighting.toJson (s : Sighting) : Json :=
  .obj [("pattern", s.idiom.info.toJson), ("file", .str s.file), ("line", .nat s.line),
    ("context", .str s.context), ("suggested_improvements", .strs s.suggestions),
    ("learning_resources", .arr (s.resources.map Resource.toJson))]

end ClassAtlas.Reference
