import ClassAtlas.Command.Spec
import ClassAtlas.Command.Similar
import ClassAtlas.Text.Letter
import ClassAtlas.Text.Numeral
import ClassAtlas.Text.Quote

/-!
Reading a command line against the command tree. Each group reads its own options up to the
first word that is not one, which names the group or command that reads the rest; a command
reads options and arguments in any order. A word `--` ends the options. A long option takes
its value from after `=` or from the next word; a short option from the rest of its word or
from the next word, and short flags may share one word. After reading, help is given if asked
for; then the options given are checked in the order they were first given, then the arguments
in order, then the words left over. The first mistake found is reported. A word that names no
command of a group is reported with the command names close to it; when it looks like an
option, the group's options are read again from it, so that a mistake there, or a request for
help, comes first.
-/

namespace ClassAtlas.Command

open ClassAtlas.Text

inductive Given where
  | text (s : String)
  | texts (ss : List String)
  | number (n : Int)
  | switch (on : Bool)
  deriving Repr, DecidableEq, Inhabited

/-- What the options of one entry read: the values by key, the keys of the options in the
order they were given, the words taken as arguments and the words left unread. -/
structure Gathered where
  values : List (String × Given)
  order : List String
  loose : List String
  rest : List String
  deriving Repr, Inhabited

/-- Whether a name is long: two dashes, or one dash and more than one letter. -/
def isLongName (name : String) : Bool :=
  match name.toList with
  | '-' :: '-' :: _ => true
  | [_, _] => false
  | _ => true

/-- The long names of options, in order, the names that turn settings off included. -/
def longNames (opts : List Opt) : List String :=
  opts.flatMap fun o =>
    (o.names.filter isLongName) ++ (match o.shape with
      | .toggle off => if isLongName off then [off] else []
      | _ => [])

/-- The option a name belongs to, and whether the name sets it on. -/
def findOption (opts : List Opt) (long : Bool) (name : String) : Option (Opt × Bool) :=
  opts.findSome? fun o =>
    if o.names.contains name && isLongName name == long then some (o, true)
    else match o.shape with
      | .toggle off => if off == name && isLongName name == long then some (o, false) else none
      | _ => none

def Opt.takesValue (o : Opt) : Bool :=
  match o.shape with
  | .value .. => true
  | _ => false

def quoted (s : String) : String := quote s

/-- A mistake found while reading: its message, and the option names close to a name no option
has, which are shown after everything else said about the mistake. -/
structure Mistake where
  message : String
  close : List String
  deriving Repr, Inhabited

def Mistake.plain (message : String) : Mistake := ⟨message, []⟩

/-- A mistake as it is shown: its message and then the close names, one suggested or all
listed in order. -/
def Mistake.text (m : Mistake) : String :=
  match m.close.mergeSort (· ≤ ·) with
  | [] => m.message
  | [one] => m.message ++ " Did you mean " ++ one ++ "?"
  | many => m.message ++ " (Possible options: " ++ ", ".intercalate many ++ ")"

/-- A mistake whose message goes on to suggest some command names: the message loses its final
full stops and the names follow, quoted. Nothing changes when no name is close. -/
def Mistake.suggesting (m : Mistake) (names : List String) : Mistake :=
  match names with
  | [] => m
  | _ =>
    let stem := String.ofList (m.message.toList.reverse.dropWhile (· == '.')).reverse
    { m with message := stem ++ ". Did you mean " ++ ", ".intercalate (names.map quoted) ++ "?" }

def noSuchOption (name : String) (close : List String) : Mistake :=
  ⟨"No such option: " ++ name, close⟩

def Gathered.record (g : Gathered) (o : Opt) (v : Given) : Gathered :=
  let values := match o.shape, v, g.values.lookup o.key with
    | .value _ true, .text s, some (.texts old) =>
      (g.values.filter (·.1 != o.key)) ++ [(o.key, .texts (old ++ [s]))]
    | .value _ true, .text s, _ => (g.values.filter (·.1 != o.key)) ++ [(o.key, .texts [s])]
    | _, _, _ => (g.values.filter (·.1 != o.key)) ++ [(o.key, v)]
  { g with values := values, order := g.order ++ [o.key] }

def takeValue (name : String) (g : Gathered) : Except Mistake (String × Gathered) :=
  match g.rest with
  | w :: more => .ok (w, { g with rest := more })
  | [] => .error (.plain ("Option " ++ quoted name ++ " requires an argument."))

/-- Reads the short options packed in one word after its first character `prefix`. -/
def readShort (opts : List Opt) (pre : Char) : List Char → Gathered → Except Mistake Gathered
  | [], g => .ok g
  | c :: more, g =>
    let name := String.ofList [pre, c]
    match findOption opts false name with
    | none => .error (noSuchOption name [])
    | some (o, on) =>
      if o.takesValue then
        let g := if more.isEmpty then g else { g with rest := String.ofList more :: g.rest }
        match takeValue name g with
        | .ok (v, g) => .ok (g.record o (.text v))
        | .error e => .error e
      else readShort opts pre more (g.record o (.switch on))

def readOption (opts : List Opt) (word : String) (g : Gathered) : Except Mistake Gathered :=
  let (name, attached) := match word.splitOn "=" with
    | [w] => (w, none)
    | w :: more => (w, some ("=".intercalate more))
    | [] => (word, none)
  match findOption opts true name with
  | some (o, on) =>
    if o.takesValue then
      let g := match attached with
        | some v => { g with rest := v :: g.rest }
        | none => g
      match takeValue name g with
      | .ok (v, g) => .ok (g.record o (.text v))
      | .error e => .error e
    else match attached with
      | some _ => .error (.plain ("Option " ++ quoted name ++ " does not take a value."))
      | none => .ok (g.record o (.switch on))
  | none =>
    match word.toList with
    | '-' :: '-' :: _ => .error (noSuchOption name (closeMatches name (longNames opts)))
    | pre :: chars => readShort opts pre chars g
    | [] => .ok g

/-- Whether a word is read as an option: it starts with a dash and is more than a dash. -/
def looksLikeOption (word : String) : Bool := word.startsWith "-" && word.length > 1

/-- Reads the words left, options among them; with `mixed` other words are kept as arguments
and reading goes on, otherwise reading stops before the first other word. The fuel bounds the
steps. -/
def readWords (opts : List Opt) (mixed : Bool) : Nat → Gathered → Except Mistake Gathered
  | 0, g => .ok g
  | fuel + 1, g =>
    match g.rest with
    | [] => .ok g
    | w :: more =>
      if w == "--" then .ok { g with rest := more }
      else if looksLikeOption w then
        match readOption opts w { g with rest := more } with
        | .ok g => readWords opts mixed fuel g
        | .error e => .error e
      else if mixed then readWords opts mixed fuel { g with loose := g.loose ++ [w], rest := more }
      else .ok g

/-- The steps reading a list of words can take. -/
def readingFuel (words : List String) : Nat :=
  (words.map String.length).foldr (· + ·) 0 + words.length + 1

def gather (opts : List Opt) (mixed : Bool) (words : List String) : Except Mistake Gathered :=
  readWords opts mixed (readingFuel words) ⟨[], [], [], words⟩

def Gathered.asksHelp (g : Gathered) : Bool := g.values.lookup "help" == some (.switch true)

def Gathered.givenKeys (g : Gathered) : List String := g.order.eraseDups

def Opt.hint (o : Opt) : String := " / ".intercalate (o.names.map quoted)

/-- The values with every integer option's text read as an integer; the first that is not one
is a mistake. -/
def convertValues (opts : List Opt) (g : Gathered) : Except String (List (String × Given)) :=
  g.givenKeys.foldlM (fun values key =>
    match opts.find? (·.key == key), values.lookup key with
    | some o, some (.text s) =>
      match o.shape with
      | .value .integer _ =>
        match readInt s with
        | some n => .ok ((values.filter (·.1 != key)) ++ [(key, .number n)])
        | none => .error ("Invalid value for " ++ o.hint ++ ": " ++ quoted s ++
            " is not a valid integer.")
      | _ => .ok values
    | _, _ => .ok values) g.values

def extraWords (words : List String) : String :=
  (if words.length = 1 then "Got unexpected extra argument (" else "Got unexpected extra arguments (") ++
    " ".intercalate words ++ ")"

/-- Where a command line leads. -/
inductive Outcome where
  /-- Help on an entry reached by the names in `path`: asked for, or shown for a group given
  nothing. -/
  | help (path : List String) (entry : Entry) (asked : Bool)
  /-- A mistake, reported against the entry reached by the names in `path`. -/
  | misuse (path : List String) (entry : Entry) (message : String)
  /-- A command to run with the values read. -/
  | run (action : Action) (values : List (String × Given))
  deriving Inhabited

def noSuchCommand (name : String) : Mistake := .plain ("No such command " ++ quoted name ++ ".")

/-- Whether a word starts like an option name rather than a command name. -/
def startsLikeOption (word : String) : Bool :=
  match word.toList with
  | c :: _ => !isAlnum c
  | [] => false

def readCommand (path : List String) (e : Entry) (arguments : List Arg) (opts : List Opt)
    (action : Action) (words : List String) : Outcome :=
  match gather opts true words with
  | .error m => .misuse path e m.text
  | .ok g =>
    if g.asksHelp then .help path e true
    else match convertValues opts g with
      | .error m => .misuse path e m
      | .ok values =>
        let positional := g.loose ++ g.rest
        match arguments.drop positional.length with
        | a :: _ => .misuse path e ("Missing argument " ++ quoted a.key ++ ".")
        | [] =>
          let extra := positional.drop arguments.length
          if !extra.isEmpty then .misuse path e (extraWords extra)
          else .run action (values ++ (arguments.zip positional).map fun (a, w) => (a.key, .text w))

mutual

def Entry.read (path : List String) : Entry → List String → Outcome
  | e@(.command _ _ arguments opts action), words => readCommand path e arguments opts action words
  | e@(.group _ _ opts helpWhenBare entries), words =>
    if words.isEmpty && helpWhenBare then .help path e false
    else match gather opts false words with
      | .error m => .misuse path e m.text
      | .ok g =>
        if g.asksHelp then .help path e true
        else match g.rest with
          | [] => .misuse path e "Missing command."
          | name :: more =>
            match readAmong path name more entries with
            | some outcome => outcome
            | none =>
              let close := closeMatches name (entries.map Entry.name)
              let again := if startsLikeOption name then gather opts false (name :: more) else .ok g
              match again with
              | .error m => .misuse path e (m.suggesting close).text
              | .ok g' =>
                if startsLikeOption name && g'.asksHelp then .help path e true
                else .misuse path e ((noSuchCommand name).suggesting close).text

/-- Reads a command line given to the first of some entries called `name`, if one is. -/
def readAmong (path : List String) (name : String) (words : List String) :
    List Entry → Option Outcome
  | [] => none
  | sub :: rest =>
    if sub.name == name then some (sub.read (path ++ [name]) words)
    else readAmong path name words rest

end

def readLine (words : List String) : Outcome := program.read [program.name] words

end ClassAtlas.Command
