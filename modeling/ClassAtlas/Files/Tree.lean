import ClassAtlas.Files.Path
import ClassAtlas.Text.Utf8

/-!
A file system as a value: the directories it holds and the files with their bytes, each by
location. The root is always a directory. A path text is followed from the root one component
at a time, as the operating system does: every component before the last must be a
directory, and `..` steps back to the parent of where the walk stands. A path that does not
start at the root is taken from a working directory outside the tree, so it names nothing.
-/

namespace ClassAtlas.Files

structure Tree where
  dirs : List Location
  files : List (Location × ByteArray)
  deriving Inhabited

namespace Tree

def empty : Tree := ⟨[], []⟩

def isDirAt (t : Tree) (l : Location) : Bool := l.isEmpty || t.dirs.contains l

def fileAt? (t : Tree) (l : Location) : Option ByteArray :=
  (t.files.find? fun e => e.1 == l).map Prod.snd

def isFileAt (t : Tree) (l : Location) : Bool := (t.fileAt? l).isSome

/-- Where following `parts` from the directory `cur` leads, if every component before the last
is a directory. -/
def walk (t : Tree) (cur : Location) : List String → Option Location
  | [] => some cur
  | ".." :: rest => t.walk cur.dropLast rest
  | c :: rest =>
    let next := cur ++ [c]
    if rest.isEmpty then some next
    else if t.isDirAt next then t.walk next rest
    else none

def reach (t : Tree) (path : String) : Option Location :=
  if isRooted path then t.walk [] (components path) else none

def isDir (t : Tree) (path : String) : Bool := ((t.reach path).map t.isDirAt).getD false

def isFile (t : Tree) (path : String) : Bool := ((t.reach path).map t.isFileAt).getD false

def isDirVia (t : Tree) (parts : List String) : Bool := ((t.walk [] parts).map t.isDirAt).getD false

def isFileVia (t : Tree) (parts : List String) : Bool := ((t.walk [] parts).map t.isFileAt).getD false

def existsVia (t : Tree) (parts : List String) : Bool :=
  ((t.walk [] parts).map fun l => t.isDirAt l || t.isFileAt l).getD false

def readBytes? (t : Tree) (path : String) : Option ByteArray := (t.reach path).bind t.fileAt?

/-- The text of the file a path names, invalid UTF-8 replaced. -/
def readText? (t : Tree) (path : String) : Option String := (t.readBytes? path).map Text.decodeUtf8

def readVia? (t : Tree) (parts : List String) : Option String :=
  ((t.walk [] parts).bind t.fileAt?).map Text.decodeUtf8

/-- The locations that begin a location, itself included, shortest first, without the root. -/
def ancestry (l : Location) : List Location := (List.range l.length).map fun n => l.take (n + 1)

def makeDirs (t : Tree) (l : Location) : Tree :=
  { t with dirs := t.dirs ++ (ancestry l).filter fun a => !t.dirs.contains a }

def write (t : Tree) (l : Location) (bytes : ByteArray) : Tree :=
  let t := t.makeDirs l.dropLast
  { t with files := (t.files.filter fun e => e.1 != l) ++ [(l, bytes)] }

def remove (t : Tree) (l : Location) : Tree :=
  { t with files := t.files.filter fun e => e.1 != l }

/-- The names directly inside the directory `d`, each with whether it is a directory. -/
def children (t : Tree) (d : Location) : List (String × Bool) :=
  let depth := d.length + 1
  (t.dirs.filterMap fun l =>
      if l.length == depth && l.take d.length == d then l.getLast?.map (·, true) else none) ++
    (t.files.filterMap fun (l, _) =>
      if l.length == depth && l.take d.length == d then l.getLast?.map (·, false) else none)

end Tree

end ClassAtlas.Files
