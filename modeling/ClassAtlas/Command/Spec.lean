/-!
The command line of the tool: a tree of groups and commands, each with its options and, for
commands, the arguments it takes in order. An option takes a value (a text or an integer, once
or repeatedly), is a flag set by its name, is a pair of names that turn a setting on and off,
or asks for help. Every group and command takes `-h` and `--help`.
-/

namespace ClassAtlas.Command

inductive Reading where
  | text
  | integer
  deriving Repr, DecidableEq, Inhabited

/-- How an option takes its value. -/
inductive Shape where
  /-- A value follows the option; a repeated option gathers every value. -/
  | value (reading : Reading) (repeated : Bool)
  /-- The option is on when given. -/
  | flag
  /-- The first name turns the setting on, this one turns it off. -/
  | toggle (off : String)
  /-- The option asks for help. -/
  | help
  deriving Repr, DecidableEq, Inhabited

/-- An option: the key its value is kept under, its names, how it takes its value, its help
and the default its help shows. -/
structure Opt where
  key : String
  names : List String
  shape : Shape
  help : String
  shownDefault : Option String
  deriving Repr, Inhabited

/-- An argument: the key its value is kept under and its help. Every argument is required. -/
structure Arg where
  key : String
  help : String
  deriving Repr, Inhabited

inductive Action where
  | showClass
  | showHierarchy
  | findReferences
  | searchText
  | rankApi
  | summarizeSubsystem
  | reviewFile
  | showPractices
  | serveApi
  | serveTools
  deriving Repr, DecidableEq, Inhabited

/-- A group of commands, or a command. A group may show its help when given nothing. -/
inductive Entry where
  | group (name summary : String) (options : List Opt) (helpWhenBare : Bool) (entries : List Entry)
  | command (name summary : String) (arguments : List Arg) (options : List Opt) (action : Action)
  deriving Repr, Inhabited

def Entry.name : Entry → String
  | .group name .. => name
  | .command name .. => name

def Entry.summary : Entry → String
  | .group _ summary .. => summary
  | .command _ summary .. => summary

def Entry.options : Entry → List Opt
  | .group _ _ options .. => options
  | .command _ _ _ options _ => options

def Entry.arguments : Entry → List Arg
  | .group .. => []
  | .command _ _ arguments .. => arguments

def helpOption : Opt := ⟨"help", ["-h", "--help"], .help, "Show this message and exit.", none⟩

def textOption (key name help : String) : Opt := ⟨key, [name], .value .text false, help, none⟩

def enginePathOption : Opt :=
  textOption "engine_path" "--engine-path" "Unreal Engine root (defaults to $UNREAL_ENGINE_PATH)."

def customPathOption : Opt :=
  textOption "custom_path" "--custom-path" "Custom codebase root (defaults to $UNREAL_CUSTOM_CODEBASE)."

/-- The options of a command that reads an index, with the help option last. -/
def indexOptions (own : List Opt) : List Opt := own ++ [enginePathOption, customPathOption, helpOption]

def queryEntries : List Entry := [
  .command "class" "Show the structure of a class." [⟨"name", "Class name, e.g. AActor."⟩]
    (indexOptions []) .showClass,
  .command "hierarchy" "Print the inheritance tree of a class." [⟨"name", "Class name."⟩]
    (indexOptions [⟨"interfaces", ["--interfaces"], .toggle "--no-interfaces",
      "Include implemented interfaces.", some "interfaces"⟩]) .showHierarchy,
  .command "refs" "Find whole-word references to an identifier."
    [⟨"identifier", "Identifier to look up."⟩]
    (indexOptions [textOption "kind" "--kind" "Symbol kind: class, function or variable."])
    .findReferences,
  .command "search" "Search source lines with a regular expression."
    [⟨"query", "Regular expression (case-insensitive)."⟩]
    (indexOptions [⟨"file_pattern", ["--file-pattern"], .value .text false,
        "File glob, e.g. '*.\x7busf,ush\x7d'.", some "*.\x7bh,cpp\x7d"⟩,
      ⟨"include_comments", ["--include-comments"], .toggle "--no-include-comments",
        "Match lines that start a comment.", some "include-comments"⟩]) .searchText,
  .command "api" "Rank API entries; only classes resolved in this invocation are candidates."
    [⟨"query", "Free-text query."⟩]
    (indexOptions [⟨"resolve", ["--resolve", "-r"], .value .text true,
        "Class to resolve before ranking (repeatable).", none⟩,
      textOption "category" "--category" "Only this category.",
      textOption "module" "--module" "Only this module.",
      ⟨"max_results", ["--max-results"], .value .integer false, "Max rows to return.", some "10"⟩])
    .rankApi,
  .command "subsystem" "Summarize an engine subsystem."
    [⟨"name", "Rendering, Physics, Audio, Networking, Input, AI, Animation or UI."⟩]
    (indexOptions []) .summarizeSubsystem,
  .command "patterns" "Detect Unreal idioms in a file and suggest improvements."
    [⟨"file", "Source file to review."⟩] [helpOption] .reviewFile,
  .command "practices" "Show best practices for a concept."
    [⟨"concept", "UPROPERTY, UFUNCTION, Components, Events, Replication or Blueprints."⟩]
    [helpOption] .showPractices]

def serveEntries : List Entry := [
  .command "api" "Start the FastAPI REST API server." []
    [⟨"host", ["--host"], .value .text false, "", some "127.0.0.1"⟩,
     ⟨"listen", ["--port"], .value .integer false, "", some "8000"⟩, helpOption] .serveApi,
  .command "mcp" "Start the MCP server." []
    [⟨"transport", ["--transport"], .value .text false, "", some "stdio"⟩,
     textOption "engine_path" "--engine-path" "", textOption "custom_path" "--custom-path" "",
     helpOption] .serveTools]

def program : Entry :=
  .group "unreal-index"
    "Unreal Index CLI: query classes, hierarchies and references in Unreal C++ sources."
    [⟨"verbose", ["--verbose", "-v"], .flag, "Enable debug logging.", none⟩,
     ⟨"install_completion", ["--install-completion"], .flag,
       "Install completion for the current shell.", none⟩,
     ⟨"show_completion", ["--show-completion"], .flag,
       "Show completion for the current shell, to copy it or customize the installation.", none⟩,
     helpOption] true
    [.group "query" "Query an Unreal source tree." [helpOption] false queryEntries,
     .group "serve" "Start servers." [helpOption] false serveEntries]

end ClassAtlas.Command
