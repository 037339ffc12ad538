import ClassAtlas.Command.Help
import ClassAtlas.Display.Markup
import ClassAtlas.Display.Outline
import ClassAtlas.Reference.Practices
import ClassAtlas.Workspace

/-!
Running a command line. The line is read against the command tree; help and mistakes are
written as such, and a command runs against a file system and the environment it is given.
Commands that query sources build a fresh registry from the roots given as options, or else
from the environment. Everything written goes through console markup, so a text that is not
valid markup stops the run with the fault escaping, after whatever was written before it.
A failure of the registry is written in red and ends the run with status 1; any other failure
escapes.
-/

namespace ClassAtlas.Command

open ClassAtlas.Display ClassAtlas.Index ClassAtlas.Files ClassAtlas.Source ClassAtlas.Reference

/-- How a run ends early: with an exit status, or with an error that escapes. -/
inductive Stop where
  | exit (code : Nat)
  | escape (kind : String)
  deriving Repr, DecidableEq, Inhabited

/-- A run: it writes text, kept even when it stops early. -/
abbrev Console := ExceptT Stop (StateM String)

/-- What a run leaves: the text written, the exit status, and the kind of error that
escaped, if one did. -/
structure Transcript where
  output : String
  exitCode : Nat
  escaped : Option String
  deriving Repr, DecidableEq, Inhabited

/-- What a command runs against: the file system, the directory relative paths start from,
and the environment's variables with their values. -/
structure Surroundings where
  tree : Tree
  workingDir : String
  settings : List (String × String)
  deriving Inhabited

def emitLines (lines : List String) : Console Unit :=
  modify (· ++ String.join (lines.map (· ++ "\n")))

def cropLines (lines : List String) : List String :=
  lines.map fun l => String.ofList (fitLine consoleWidth false l.toList)

def escapeFault {α : Type} (f : Display.Fault) : Console α := throw (.escape f.kind)

/-- Writes a markup text, wrapped to the console. -/
def say (markup : String) : Console Unit :=
  match render markup with
  | .ok text => emitLines (cropLines ((wrap consoleWidth .asIs .fold text.toList).map String.ofList))
  | .error f => escapeFault f

/-- Every cell of some rows shown, column by column, the first fault stopping. -/
def showCells (columns : Nat) (rows : List (List String)) : Except Display.Fault (List (List String)) := do
  let byColumn ← (List.range columns).mapM fun i => rows.mapM fun row => render (row.getD i "")
  return (List.range rows.length).map fun r => byColumn.map fun col => col.getD r ""

def sayTable (headers : List String) (rows : List (List String)) : Console Unit := do
  match showCells headers.length rows with
  | .error f => escapeFault f
  | .ok shown =>
    emitLines (cropLines ((Grid.mk (some headers) shown true false).render consoleWidth))
    say ("(" ++ toString rows.length ++ " rows)")

def sayOutline (o : Outline) : Console Unit :=
  match o.mapLabels render with
  | .ok shown => emitLines (cropLines (shown.render consoleWidth))
  | .error f => escapeFault f

def sayFailure {α : Type} (message : String) : Console α := do
  say ("[red]" ++ message ++ "[/red]")
  throw (.exit 1)

/-- The result of a registry request: a registry failure is written and ends the run, any
other failure escapes. -/
def settle {α : Type} : Except Failure α → Console α
  | .ok a => pure a
  | .error e => if e.isIndexFailure then sayFailure e.message else throw (.escape e.kind)

def Surroundings.locate (s : Surroundings) (path : String) : String :=
  if path.isEmpty || isRooted path then path else s.workingDir ++ "/" ++ path

def Surroundings.setting (s : Surroundings) (name : String) : Option String := s.settings.lookup name

def textValue (values : List (String × Given)) (key : String) : Option String :=
  match values.lookup key with
  | some (.text s) => some s
  | _ => none

def switchValue (values : List (String × Given)) (key : String) (default : Bool) : Bool :=
  match values.lookup key with
  | some (.switch b) => b
  | _ => default

/-- The registry a query command builds: roots from its options, else from the environment. -/
def Surroundings.registry (s : Surroundings) (values : List (String × Given)) : Registry :=
  let env : Environment :=
    ⟨(s.setting "UNREAL_ENGINE_PATH").map s.locate, (s.setting "UNREAL_CUSTOM_CODEBASE").map s.locate,
      s.setting "UNREAL_INDEX_CACHE_SIZE"⟩
  createIndex s.tree ((textValue values "engine_path").map s.locate)
    ((textValue values "custom_path").map s.locate) env

def request {α : Type} (ix : Registry) (m : IndexM α) : Except Failure α × Registry :=
  (m.run).run ix

def listOrDash (xs : List String) : String := if xs.isEmpty then "-" else ", ".intercalate xs

def truthText (b : Bool) : String := if b then "True" else "False"

def showClass (s : Surroundings) (values : List (String × Given)) (name : String) : Console Unit := do
  let r ← settle (request (s.registry values) (resolveClass s.tree name)).1
  say ("[bold]" ++ r.name ++ "[/bold]  " ++ r.sourceFile ++ ":" ++ toString r.definitionLine)
  say ("Superclasses: " ++ listOrDash r.superclassNames)
  say ("Interfaces:   " ++ listOrDash r.interfaceNames)
  sayTable ["method", "returns", "virtual", "override", "line"]
    (r.methods.map fun m => [m.name, m.returnType, truthText m.isVirtual, truthText m.isOverride,
      toString m.line])
  sayTable ["property", "type", "line"] (r.properties.map fun p => [p.name, p.type, toString p.line])

def interfacesNote (interfaces : List String) : String :=
  if interfaces.isEmpty then "" else " [dim](" ++ ", ".intercalate interfaces ++ ")[/dim]"

mutual

def branchOf : Node → Outline
  | .node name supers interfaces cycle =>
    .node (name ++ interfacesNote interfaces ++ (if cycle then " [yellow](cycle)[/yellow]" else ""))
      (branchesOf supers)

def branchesOf : List Node → List Outline
  | [] => []
  | n :: rest => branchOf n :: branchesOf rest

end

def showHierarchy (s : Surroundings) (values : List (String × Given)) (name : String) : Console Unit := do
  let t := s.tree
  let node ← settle (request (s.registry values)
    (buildHierarchy t name (switchValue values "interfaces" true))).1
  match node with
  | .node root supers interfaces _ =>
    sayOutline (.node ("[bold]" ++ root ++ "[/bold]" ++ interfacesNote interfaces)
      (branchesOf supers))

/-- The line of a match's context that holds the match, stripped of blanks. -/
def matchText (m : CodeMatch) : String :=
  let lines := Text.splitAtNewlines m.context
  String.ofList (trimBlank ((lines.getD (min 2 (m.line - 1)) "").toList))

def sayMatches (ms : List CodeMatch) : Console Unit :=
  sayTable ["file", "line", "column", "text"]
    (ms.map fun m => [m.file, toString m.line, toString m.column, matchText m])

def showReferences (s : Surroundings) (values : List (String × Given)) (identifier : String) :
    Console Unit := do
  let ms ← settle (request (s.registry values) (findReferences s.tree identifier)).1
  sayMatches ms

def showSearch (s : Surroundings) (values : List (String × Given)) (query : String) : Console Unit := do
  let ms ← settle (request (s.registry values)
    (searchText s.tree query ((textValue values "file_pattern").getD defaultFilePattern)
      (switchValue values "include_comments" true))).1
  sayMatches ms

/-- Resolves the classes named, then ranks the entries of the classes resolved. -/
def showApi (s : Surroundings) (values : List (String × Given)) (query : String) : Console Unit := do
  let t := s.tree
  let names := match values.lookup "resolve" with
    | some (.texts ns) => ns
    | _ => []
  let count : Int := match values.lookup "max_results" with
    | some (.number n) => n
    | _ => 10
  let steps : IndexM (List QueryResult) := do
    for n in names do
      let _ ← resolveClass t n
    queryApi query (textValue values "category") (textValue values "module") false count
  let results ← settle (request (s.registry values) steps).1
  sayTable ["class", "category", "module", "relevance", "syntax"]
    (results.map fun r => [r.entry.className, r.entry.category.label, r.entry.module,
      toString r.relevance, r.entry.declaration])

def showSubsystem (s : Surroundings) (values : List (String × Given)) (name : String) : Console Unit := do
  let summary ← settle (request (s.registry values) (analyzeSubsystem s.tree name)).1
  say ("[bold]" ++ summary.name ++ "[/bold]: " ++ toString summary.sourceFiles.length ++ " files")
  sayTable ["class"] (summary.mainClasses.map fun c => [c])

def showReview (s : Surroundings) (file : String) : Console Unit := do
  let located := s.locate file
  let content? := if s.tree.isFile located then s.tree.readText? located else none
  match content? with
  | none => sayFailure (Failure.fileNotFound file).message
  | some content =>
    let found := detectIdioms content file
    sayTable ["pattern", "line", "suggestions"]
      (found.map fun f => [f.idiom.info.name, toString f.line,
        if f.suggestions.isEmpty then "-" else "; ".intercalate f.suggestions])

def showPractices (concept : String) : Console Unit := do
  match guideFor concept with
  | .error e => sayFailure e.message
  | .ok g =>
    say ("[bold]" ++ g.concept ++ "[/bold]: " ++ g.description)
    for item in g.bestPractices do
      say ("  • " ++ item)
    say ("More: " ++ g.searchUrl)

def argumentText (values : List (String × Given)) (key : String) : String :=
  (textValue values key).getD ""

def perform (s : Surroundings) (action : Action) (values : List (String × Given)) : Console Unit :=
  match action with
  | .showClass => showClass s values (argumentText values "name")
  | .showHierarchy => showHierarchy s values (argumentText values "name")
  | .findReferences => showReferences s values (argumentText values "identifier")
  | .searchText => showSearch s values (argumentText values "query")
  | .rankApi => showApi s values (argumentText values "query")
  | .summarizeSubsystem => showSubsystem s values (argumentText values "name")
  | .reviewFile => showReview s (argumentText values "file")
  | .showPractices => showPractices (argumentText values "concept")
  | .serveApi =>
    let listenAt := match values.lookup "listen" with
      | some (.number n) => toString n
      | _ => "8000"
    say ("[green]Starting API server on " ++ ((textValue values "host").getD "127.0.0.1") ++ ":" ++
      listenAt ++ "[/green]")
  | .serveTools =>
    say ("[green]Starting MCP server (transport: " ++ ((textValue values "transport").getD "stdio") ++
      ")[/green]")

def linesText (lines : List String) : String := String.join (lines.map (· ++ "\n"))

/-- Runs a command line. -/
def invoke (s : Surroundings) (words : List String) : Transcript :=
  match readLine words with
  | .help path e asked =>
    let screen := linesText (helpScreen path e)
    if asked then ⟨screen ++ "\n", 0, none⟩ else ⟨screen, 2, none⟩
  | .misuse path e message => ⟨linesText (misuseReport path e message), 2, none⟩
  | .run action values =>
    let (r, out) := ((perform s action values).run).run ""
    match r with
    | .ok () => ⟨out, 0, none⟩
    | .error (.exit code) => ⟨out, code, none⟩
    | .error (.escape kind) => ⟨out, 1, some kind⟩

end ClassAtlas.Command
