import ClassAtlas.Command.Parse
import ClassAtlas.Display.Frame
import ClassAtlas.Display.Grid
import ClassAtlas.Display.Markup

/-!
Help screens and mistake reports. A help screen shows the usage line and the entry's help in a
margin, then boxes of its arguments, its options and, for a group, its commands. An option's
row shows its long names, its short names, the names that turn it off, what its value reads
as, and its help followed by the default it shows; an argument is marked as required. A
mistake is reported by the usage line, a hint to ask for help, and the mistake in a box.
-/

namespace ClassAtlas.Command

open ClassAtlas.Display

def consoleWidth : Nat := 240

def usageLine (path : List String) (e : Entry) : String :=
  "Usage: " ++ " ".intercalate path ++ " " ++
    match e with
    | .group .. => "[OPTIONS] COMMAND [ARGS]..."
    | .command _ _ arguments _ _ =>
      " ".intercalate ("[OPTIONS]" :: arguments.map fun a => "\x7b" ++ a.key ++ "\x7d")

def Opt.valueName (o : Opt) : String :=
  match o.shape with
  | .value .text _ => "<str>"
  | .value .integer _ => "<int>"
  | _ => ""

def Opt.helpText (o : Opt) : String :=
  " ".intercalate ((if o.help.isEmpty then [] else [o.help]) ++
    (o.shownDefault.map fun d => "[default: " ++ d ++ "]").toList)

/-- The row of an option: long names, short names, the long and short names that turn it off,
what its value reads as, and its help. -/
def Opt.row (o : Opt) : List String :=
  let offNames := match o.shape with
    | .toggle off => [off]
    | _ => []
  let isLong (n : String) : Bool := (n.splitOn "--").length > 1
  [",".intercalate (o.names.filter isLong), ",".intercalate (o.names.filter (!isLong ·)),
   ",".intercalate (offNames.filter isLong), ",".intercalate (offNames.filter (!isLong ·)),
   o.valueName, o.helpText]

def Arg.row (a : Arg) : List String :=
  ["*", "", a.key, "", "", "<str>", a.help ++ " [required]"]

/-- A box titled `title` around a bare table whose last column may be elastic. -/
def panel (title : String) (rows : List (List String)) (elastic : Bool) : List String :=
  boxed consoleWidth title ((Grid.mk none rows false elastic).render (consoleWidth - 4))

/-- Text wrapped to the console with a margin of one space on each side, and blank lines above
and below as asked. -/
def inMargin (above below : Nat) (text : String) : List String :=
  margined consoleWidth 1 above below
    ((wrap (consoleWidth - 2) .asIs .fold text.toList).map String.ofList)

def helpScreen (path : List String) (e : Entry) : List String :=
  let arguments := match e.arguments with
    | [] => []
    | args => panel "Arguments" (args.map Arg.row) true
  let commands := match e with
    | .group _ _ _ _ entries =>
      panel "Commands" (entries.map fun sub => [sub.name, sub.summary]) false
    | .command .. => []
  inMargin 1 1 (usageLine path e) ++
    (if e.summary.isEmpty then [] else inMargin 0 1 e.summary) ++
    arguments ++ panel "Options" (e.options.map Opt.row) true ++ commands

def misuseReport (path : List String) (e : Entry) (message : String) : List String :=
  [usageLine path e, "Try '" ++ " ".intercalate path ++ " -h' for help."] ++
    boxed consoleWidth "Error" (boxedText consoleWidth (plain message))

end ClassAtlas.Command
