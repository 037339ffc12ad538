import ClassAtlas.Service.Validation
import ClassAtlas.Index.Hierarchy
import ClassAtlas.Index.Search
import ClassAtlas.Index.Subsystems
import ClassAtlas.Reference.Query
import ClassAtlas.Reference.Practices
import ClassAtlas.Workspace

/-!
Tools for assistants over a workspace. Each tool takes named arguments, checked leniently
against the tool's parameters before it runs: a text must be a text, an integer may be given as
a number, a boolean or a numeral, a boolean as a boolean, `0`/`1` or a word for one. When
arguments fail, every failure is described in one message, each with the argument, what was
wrong and the value as the assistant's language writes it. A tool that fails while running
answers `Error calling tool '<name>': <message>`.

A tool answers with content (the text of its value, which for data is its compact JSON) and,
when its value is data, with that data: an object as it is, anything else under `result`.
-/

namespace ClassAtlas.Service

open ClassAtlas.Index ClassAtlas.Reference ClassAtlas.Text

structure ToolAnswer where
  isError : Bool
  structured : Option Json
  text : List String
  deriving Inhabited

mutual

/-- A value written as the assistant's language writes it. -/
def pyRepr : Json → String
  | .null => "None"
  | .bool true => "True"
  | .bool false => "False"
  | .num n => toString n
  | .str s => quote s
  | .arr items => "[" ++ reprItems items ++ "]"
  | .obj members => "\x7b" ++ reprMembers members ++ "\x7d"

def reprItems : List Json → String
  | [] => ""
  | [x] => pyRepr x
  | x :: rest => pyRepr x ++ ", " ++ reprItems rest

def reprMembers : List (String × Json) → String
  | [] => ""
  | [(k, v)] => quote k ++ ": " ++ pyRepr v
  | (k, v) :: rest => quote k ++ ": " ++ pyRepr v ++ ", " ++ reprMembers rest

end

/-- The name of a value's type in the assistant's language. -/
def pyType : Json → String
  | .null => "NoneType"
  | .bool _ => "bool"
  | .num _ => "int"
  | .str _ => "str"
  | .arr _ => "list"
  | .obj _ => "dict"

/-- The longest written value shown whole in a message, in bytes. -/
def reprLimit : Nat := 50

/-- A long written value cut in its middle: its first 25 and last 24 bytes around `...`,
each end kept to whole characters. -/
def truncateRepr (s : String) : String :=
  if s.utf8ByteSize ≤ reprLimit then s
  else
    let cs := s.toList
    let front := (cs.foldl (fun (acc : List Char × Nat) c =>
      if acc.2 + c.utf8Size ≤ 25 then (acc.1 ++ [c], acc.2 + c.utf8Size) else (acc.1, 26)) ([], 0)).1
    let back := (cs.reverse.foldl (fun (acc : List Char × Nat) c =>
      if acc.2 + c.utf8Size ≤ 24 then (c :: acc.1, acc.2 + c.utf8Size) else (acc.1, 25)) ([], 0)).1
    String.ofList front ++ "..." ++ String.ofList back

/-- An argument that failed its check: its place, kind, message and value. -/
structure ArgProblem where
  loc : String
  kind : String
  message : String
  input : Json
  deriving Inhabited

/-- The text describing failed arguments of a tool. -/
def describeProblems (tool : String) (ps : List ArgProblem) : String :=
  let head := toString ps.length ++ " validation error" ++ (if ps.length == 1 then "" else "s") ++
    " for call[" ++ tool ++ "]"
  let lines := ps.map fun p =>
    p.loc ++ "\n  " ++ p.message ++ " [type=" ++ p.kind ++ ", input_value=" ++
      truncateRepr (pyRepr p.input) ++ ", input_type=" ++ pyType p.input ++ "]\n" ++
      "    For further information visit https://errors.pydantic.dev/2.14/v/" ++ p.kind
  "\n".intercalate (head :: lines)

inductive ParamKind where
  | text
  | optionalText
  | flag
  | integer
  | choice (options : List String)
  | optionalChoice (options : List String)
  deriving Inhabited

inductive ArgValue where
  | none
  | text (s : String)
  | flag (b : Bool)
  | integer (n : Int)
  deriving Inhabited

/-- Checks one argument's value against its kind. -/
def checkArg (name : String) : ParamKind → Json → Except ArgProblem ArgValue
  | .text, .str s => .ok (.text s)
  | .text, v => .error ⟨name, "string_type", "Input should be a valid string", v⟩
  | .optionalText, .null => .ok .none
  | .optionalText, .str s => .ok (.text s)
  | .optionalText, v => .error ⟨name, "string_type", "Input should be a valid string", v⟩
  | .flag, .bool b => .ok (.flag b)
  | .flag, .num 0 => .ok (.flag false)
  | .flag, .num 1 => .ok (.flag true)
  | .flag, v@(.num _) => .error ⟨name, "bool_parsing", "Input should be a valid boolean, unable to interpret input", v⟩
  | .flag, v@(.str s) =>
    match readBool? s with
    | some b => .ok (.flag b)
    | Option.none => .error ⟨name, "bool_parsing", "Input should be a valid boolean, unable to interpret input", v⟩
  | .flag, v => .error ⟨name, "bool_type", "Input should be a valid boolean", v⟩
  | .integer, .num n => .ok (.integer n)
  | .integer, .bool b => .ok (.integer (if b then 1 else 0))
  | .integer, v@(.str s) =>
    match readInteger? s with
    | .ok (some n) => .ok (.integer n)
    | .ok Option.none =>
      .error ⟨name, "int_parsing", "Input should be a valid integer, unable to parse string as an integer", v⟩
    | .error () =>
      .error ⟨name, "int_parsing_size", "Unable to parse input string as an integer, exceeded maximum size", v⟩
  | .integer, v => .error ⟨name, "int_type", "Input should be a valid integer", v⟩
  | .choice options, v => checkChoice options v
  | .optionalChoice _, .null => .ok .none
  | .optionalChoice options, v => checkChoice options v
where
  checkChoice (options : List String) : Json → Except ArgProblem ArgValue
    | .str s => if options.contains s then .ok (.text s)
      else .error ⟨name, "literal_error", "Input should be " ++ choicesText options, .str s⟩
    | v => .error ⟨name, "literal_error", "Input should be " ++ choicesText options, v⟩

/-- A tool parameter: its name, kind and, when it may be left out, its default. -/
structure Param where
  name : String
  kind : ParamKind
  fallback : Option ArgValue
  deriving Inhabited

structure ToolSpec where
  name : String
  description : String
  params : List Param
  deriving Inhabited

def subsystemChoices : List String := subsystemNames

def conceptChoices : List String := conceptNames

/-- The tools, in the order they are declared. -/
def toolSpecs : List ToolSpec :=
  [⟨"set_unreal_path", "Set the path to Unreal Engine source code.", [⟨"path", .text, none⟩]⟩,
   ⟨"set_custom_codebase", "Set the path to a custom C++ codebase for analysis.", [⟨"path", .text, none⟩]⟩,
   ⟨"analyze_class", "Get detailed information about a C++ class.", [⟨"class_name", .text, none⟩]⟩,
   ⟨"find_class_hierarchy", "Get the inheritance hierarchy for a class.",
    [⟨"class_name", .text, none⟩, ⟨"include_implemented_interfaces", .flag, some (.flag true)⟩]⟩,
   ⟨"find_references", "Find all references to a class, function, or variable.",
    [⟨"identifier", .text, none⟩, ⟨"type", .optionalChoice ["class", "function", "variable"], some .none⟩]⟩,
   ⟨"search_code",
    "Search through code with context. Supports C++ headers, source files, and HLSL shaders (*.\x7busf,ush\x7d).",
    [⟨"query", .text, none⟩, ⟨"file_pattern", .text, some (.text defaultFilePattern)⟩,
     ⟨"include_comments", .flag, some (.flag true)⟩]⟩,
   ⟨"detect_patterns", "Detect Unreal Engine patterns in a file and suggest improvements.",
    [⟨"file_path", .text, none⟩]⟩,
   ⟨"get_best_practices", "Get Unreal Engine best practices and documentation for a specific concept.",
    [⟨"concept", .choice conceptChoices, none⟩]⟩,
   ⟨"analyze_subsystem", "Analyze a specific Unreal Engine subsystem.",
    [⟨"subsystem", .choice subsystemChoices, none⟩]⟩,
   ⟨"query_api", "Rank previously analyzed classes as API reference entries for a query.",
    [⟨"query", .text, none⟩, ⟨"category", .optionalText, some .none⟩, ⟨"module", .optionalText, some .none⟩,
     ⟨"include_examples", .flag, some (.flag true)⟩, ⟨"max_results", .integer, some (.integer 10)⟩]⟩]

def Param.schema (p : Param) : Json :=
  let base : List (String × Json) := match p.kind with
    | .text => [("type", .str "string")]
    | .optionalText => [("anyOf", .arr [.obj [("type", .str "string")], .obj [("type", .str "null")]])]
    | .flag => [("type", .str "boolean")]
    | .integer => [("type", .str "integer")]
    | .choice options => [("enum", .strs options), ("type", .str "string")]
    | .optionalChoice options =>
      [("anyOf", .arr [.obj [("enum", .strs options), ("type", .str "string")], .obj [("type", .str "null")]])]
  let dflt : List (String × Json) := match p.fallback with
    | none => []
    | some .none => [("default", .null)]
    | some (.text s) => [("default", .str s)]
    | some (.flag b) => [("default", .bool b)]
    | some (.integer n) => [("default", .num n)]
  .obj (base ++ dflt)

def ToolSpec.listing (s : ToolSpec) : Json :=
  .obj [("name", .str s.name), ("description", .str s.description),
    ("input_schema", .obj [("properties", .obj (s.params.map fun p => (p.name, p.schema))),
      ("required", .strs ((s.params.filter (·.fallback.isNone)).map (·.name))), ("type", .str "object")])]

/-- Sorts names by code point. -/
def sortNames {α : Type} (key : α → String) (xs : List α) : List α :=
  xs.mergeSort fun a b => key a ≤ key b

def toolListings : List Json := (sortNames (·.name) toolSpecs).map ToolSpec.listing

/-- The checked arguments of a call, or every failure. -/
def checkArgs (spec : ToolSpec) (args : List (String × Json)) : Except (List ArgProblem) (List ArgValue) :=
  let results := spec.params.map fun p =>
    match (args.find? (·.1 == p.name)).map Prod.snd with
    | some v => checkArg p.name p.kind v
    | none => match p.fallback with
      | some d => .ok d
      | none => .error ⟨p.name, "missing_argument", "Missing required argument", .obj args⟩
  let extra := (args.filter fun (k, _) => !spec.params.any (·.name == k)).map fun (k, v) =>
    (⟨k, "unexpected_keyword_argument", "Unexpected keyword argument", v⟩ : ArgProblem)
  let problems := results.filterMap (fun r => match r with
    | .error p => some p
    | .ok _ => none) ++ extra
  if problems.isEmpty then .ok (results.filterMap fun r => match r with
    | .ok v => some v
    | .error _ => none)
  else .error problems

def ArgValue.textOr (v : ArgValue) (d : String) : String :=
  match v with
  | .text s => s
  | _ => d

def ArgValue.optText : ArgValue → Option String
  | .text s => some s
  | _ => Option.none

def ArgValue.flagOr (v : ArgValue) (d : Bool) : Bool :=
  match v with
  | .flag b => b
  | _ => d

def ArgValue.intOr (v : ArgValue) (d : Int) : Int :=
  match v with
  | .integer n => n
  | _ => d

def dataAnswer (j : Json) : ToolAnswer :=
  match j with
  | .obj _ => ⟨false, some j, [j.compact]⟩
  | .arr [] => ⟨false, some (.obj [("result", j)]), []⟩
  | _ => ⟨false, some (.obj [("result", j)]), [j.compact]⟩

def textAnswer (s : String) : ToolAnswer := ⟨false, some (.obj [("result", .str s)]), [s]⟩

def failedAnswer (tool message : String) : ToolAnswer :=
  ⟨true, none, ["Error calling tool '" ++ tool ++ "': " ++ message]⟩

def sightingData (s : Sighting) : Json :=
  let info := s.idiom.info
  .obj [("pattern", .str info.name), ("description", .str info.description),
    ("location", .str (s.file ++ ":" ++ toString s.line)), ("context", .str s.context),
    ("improvements", .str ("\n".intercalate s.suggestions)), ("documentation", .str info.documentation),
    ("best_practices", .str ("\n".intercalate info.bestPractices)),
    ("examples", .str ("\n".intercalate info.examples))]

def rankedData (q : QueryResult) : Json :=
  .obj [("class", .str q.entry.className), ("description", .str q.entry.description),
    ("module", .str q.entry.module), ("category", .str q.entry.category.label),
    ("syntax", .str q.entry.declaration), ("examples", .strs q.entry.examples),
    ("remarks", .strs q.entry.remarks), ("documentation", .str q.entry.docsUrl),
    ("relevance", .nat q.relevance)]

def runTool (w : Workspace) (tool : String) (args : List ArgValue) : IndexM Json := do
  let t := w.tree
  let arg := fun i => args.getD i .none
  match tool with
  | "set_unreal_path" =>
    let p := (arg 0).textOr ""
    let _ ← configureRoots t none (some p)
    pure (.str ("Successfully set Unreal Engine path to: " ++ p))
  | "set_custom_codebase" =>
    let p := (arg 0).textOr ""
    let _ ← configureRoots t (some p) none
    pure (.str ("Successfully set custom codebase path to: " ++ p))
  | "analyze_class" =>
    let _ ← requireConfigured
    pure (← resolveClass t ((arg 0).textOr "")).toJson
  | "find_class_hierarchy" =>
    let _ ← requireConfigured
    pure (← buildHierarchy t ((arg 0).textOr "") ((arg 1).flagOr true)).toJson
  | "find_references" =>
    pure (.arr ((← findReferences t ((arg 0).textOr "")).map CodeMatch.toJson))
  | "search_code" =>
    pure (.arr ((← searchText t ((arg 0).textOr "") ((arg 1).textOr defaultFilePattern)
      ((arg 2).flagOr true)).map CodeMatch.toJson))
  | "detect_patterns" =>
    match w.detectInFile ((arg 0).textOr "") with
    | .ok xs => pure (.arr (xs.map sightingData))
    | .error e => throw e
  | "get_best_practices" =>
    match guideFor ((arg 0).textOr "") with
    | .ok g => pure g.toJson
    | .error e => throw e
  | "analyze_subsystem" => pure (← analyzeSubsystem t ((arg 0).textOr "")).toJson
  | _ =>
    let rs ← queryApi ((arg 0).textOr "") (arg 1).optText (arg 2).optText ((arg 3).flagOr true)
      ((arg 4).intOr 10)
    pure (.arr (rs.map rankedData))

/-- Calls a tool by name with named arguments. -/
def callTool (w : Workspace) (tool : String) (args : List (String × Json)) : ToolAnswer × Workspace :=
  match toolSpecs.find? (·.name == tool) with
  | none => (⟨true, none, ["Unknown tool: " ++ tool]⟩, w)
  | some spec =>
    match checkArgs spec args with
    | .error ps => (⟨true, none, [describeProblems tool ps]⟩, w)
    | .ok values =>
      match w.run (runTool w tool values) with
      | (.ok (.str s), w') => (textAnswer s, w')
      | (.ok j, w') => (dataAnswer j, w')
      | (.error e, w') => (failedAnswer tool e.message, w')

def ToolAnswer.toJson (a : ToolAnswer) : Json :=
  .obj [("is_error", .bool a.isError), ("structured", a.structured.getD .null), ("text", .strs a.text)]

end ClassAtlas.Service
