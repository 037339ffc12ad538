/-!
Paths of a POSIX file system. A path text is read as components between slashes, where empty
components and `.` name nothing and are dropped, while `..` is kept: whether it steps back out
of a directory depends on the file system, so it is only resolved against one. Locations are
paths from the root, and two of them are ordered component by component, each compared by code
point, which is how sorted listings come out.
-/

namespace ClassAtlas.Files

abbrev Location := List String

/-- The components of a path text, without empty components and `.`. -/
def components (s : String) : List String :=
  ((s.toList.splitOn '/').map String.ofList).filter fun c => c != "" && c != "."

def isRooted (s : String) : Bool := s.startsWith "/"

/-- A location written out: the root is `/`. -/
def render (l : Location) : String :=
  "/" ++ "/".intercalate l

/-- The location of `parts` taken from `base`, with each `..` stepping back one component
(never above the root): the path written without the file system's help. -/
def normalize : Location → List String → Location
  | base, [] => base
  | base, ".." :: rest => normalize base.dropLast rest
  | base, c :: rest => normalize (base ++ [c]) rest

/-- Component-wise order of locations; a location comes before every longer one it begins. -/
def Location.before : Location → Location → Bool
  | [], [] => false
  | [], _ :: _ => true
  | _ :: _, [] => false
  | a :: as, b :: bs => a < b || (a == b && Location.before as bs)

def Location.name (l : Location) : String := l.getLast?.getD ""

/-- The suffix of a file name: from its last dot, when that dot neither starts nor ends it. -/
def suffixOf (name : String) : String :=
  let cs := name.toList
  match (List.range cs.length).reverse.find? (fun i => cs[i]? == some '.') with
  | some i => if 0 < i && i + 1 < cs.length then String.ofList (cs.drop i) else ""
  | none => ""

def relativeTo (l base : Location) : List String := l.drop base.length

end ClassAtlas.Files
