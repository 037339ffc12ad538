import ClassAtlas.Service.Url
import ClassAtlas.Service.Validation
import ClassAtlas.Index.Hierarchy
import ClassAtlas.Index.Search
import ClassAtlas.Index.Subsystems
import ClassAtlas.Reference.Query
import ClassAtlas.Reference.Idioms
import ClassAtlas.Reference.Practices

/-!
The web service over a registry. A request names a method and a path; the path is matched
against the routes in order, a route whose path fits but whose method does not answering
405, and no route at all 404. A path that fits no route but would fit one with its trailing
slashes removed (or with one added) is redirected there, and the redirect is followed with the
same method and body.

Parameters are checked before a route is served, and all that fail are reported together with
status 422. A failure of the registry is answered with its name and message and a status by its
kind: 404 for what does not exist, 400 for a bad path or query, 409 when the registry is not
set up. Any other failure is not answered: it escapes the service.
-/

namespace ClassAtlas.Service

open ClassAtlas.Files ClassAtlas.Index ClassAtlas.Reference

structure Request where
  method : String
  /-- The path, possibly with a query string after `?`. -/
  target : String
  /-- Query parameters given apart from the path. -/
  params : List (String × String)
  body : Option Json
  deriving Inhabited

inductive Body where
  | json (j : Json)
  | text (s : String)
  deriving Inhabited

structure Response where
  status : Nat
  body : Body
  deriving Inhabited

/-- The pages a request can reach. -/
inductive Endpoint where
  | schema
  | docs
  | docsRedirect
  | redoc
  | home
  | health
  | live
  | ready
  | roots
  | classRecord (name : String)
  | hierarchy (name : String)
  | references (identifier : String)
  | search
  | patterns
  | practices (concept : String)
  | subsystem (name : String)
  | apiReference
  deriving Inhabited

/-- A part of a route's path: fixed text, or a parameter taking any non-empty text without a
slash. -/
inductive Segment where
  | fixed (s : String)
  | param
  deriving Inhabited

/-- A route: its path, the methods it serves, and its page given the parameters. -/
structure Route where
  segments : List Segment
  methods : List String
  page : List String → Endpoint

def firstParam (ps : List String) : String := ps.headD ""

/-- The routes, in the order they are tried. -/
def routes : List Route :=
  [⟨[.fixed "openapi.json"], ["GET", "HEAD"], fun _ => .schema⟩,
   ⟨[.fixed "docs"], ["GET", "HEAD"], fun _ => .docs⟩,
   ⟨[.fixed "docs", .fixed "oauth2-redirect"], ["GET", "HEAD"], fun _ => .docsRedirect⟩,
   ⟨[.fixed "redoc"], ["GET", "HEAD"], fun _ => .redoc⟩,
   ⟨[.fixed ""], ["GET"], fun _ => .home⟩,
   ⟨[.fixed "health"], ["GET"], fun _ => .health⟩,
   ⟨[.fixed "healthz", .fixed "live"], ["GET"], fun _ => .live⟩,
   ⟨[.fixed "healthz", .fixed "ready"], ["GET"], fun _ => .ready⟩,
   ⟨[.fixed "roots"], ["PUT"], fun _ => .roots⟩,
   ⟨[.fixed "classes", .param], ["GET"], fun ps => .classRecord (firstParam ps)⟩,
   ⟨[.fixed "classes", .param, .fixed "hierarchy"], ["GET"], fun ps => .hierarchy (firstParam ps)⟩,
   ⟨[.fixed "references", .param], ["GET"], fun ps => .references (firstParam ps)⟩,
   ⟨[.fixed "search"], ["GET"], fun _ => .search⟩,
   ⟨[.fixed "patterns"], ["POST"], fun _ => .patterns⟩,
   ⟨[.fixed "practices", .param], ["GET"], fun ps => .practices (firstParam ps)⟩,
   ⟨[.fixed "subsystems", .param], ["GET"], fun ps => .subsystem (firstParam ps)⟩,
   ⟨[.fixed "api-reference"], ["GET"], fun _ => .apiReference⟩]

/-- The parameters of a path's parts if they fit a route's segments. -/
def fitSegments : List Segment → List String → Option (List String)
  | [], [] => some []
  | .fixed s :: rest, p :: ps => if s == p then fitSegments rest ps else none
  | .param :: rest, p :: ps =>
    if p.isEmpty then none else (fitSegments rest ps).map (p :: ·)
  | _, _ => none

/-- How a path fits the routes. -/
inductive Fit where
  /-- A route serves the path with this method. -/
  | full (e : Endpoint)
  /-- A route has the path but not the method. -/
  | methodOnly
  | none

/-- How a path (starting with a slash) and a method fit the routes. -/
def fitRoutes (method path : String) : Fit :=
  let parts := (String.ofList (path.toList.drop 1)).splitOn "/"
  let fits := routes.filterMap fun r => (fitSegments r.segments parts).map (r, ·)
  match fits.find? (fun (r, _) => r.methods.contains method) with
  | some (r, ps) => .full (r.page ps)
  | Option.none => if fits.isEmpty then .none else .methodOnly

/-- The status of a registry failure, if it is one the service answers. -/
def statusOf : Failure → Option Nat
  | .classNotFound _ | .unknownSubsystem _ | .unknownConcept _ | .subsystemDirectoryMissing _ => some 404
  | .invalidPath _ | .invalidEnginePath _ | .invalidQuery _ _ => some 400
  | .notInitialized | .noSearchPath => some 409
  | _ => Option.none

def answer (status : Nat) (j : Json) : Response := ⟨status, .json j⟩

def rejected (problems : List Problem) : Response :=
  answer 422 (.obj [("detail", .arr (problems.map Problem.toJson))])

def detail (status : Nat) (message : String) : Response := answer status (.obj [("detail", .str message)])

/-- Runs a registry step, answering its failures that the service answers. -/
def serveIndex {α : Type} (m : IndexM α) (enc : α → Json) : IndexM Response :=
  tryCatch (do pure (answer 200 (enc (← m)))) fun e =>
    match statusOf e with
    | some s => pure (answer s (.obj [("error", .str e.kind), ("detail", .str e.message)]))
    | Option.none => throw e

/-- The front page: what the service is and where its pages are. -/
def homePage : Json :=
  .obj [("meta", .obj [("title", .str "Unreal Index API"),
      ("description", .str "Query classes, hierarchies, references and API entries of Unreal C++ source trees."),
      ("version", .str "0.1.0")]),
    ("links", .obj [("self", .str "/"), ("roots", .str "/roots"), ("classes", .str "/classes/\x7bname\x7d"),
      ("hierarchy", .str "/classes/\x7bname\x7d/hierarchy"),
      ("references", .str "/references/\x7bidentifier\x7d"), ("search", .str "/search"),
      ("patterns", .str "/patterns"), ("practices", .str "/practices/\x7bconcept\x7d"),
      ("subsystems", .str "/subsystems/\x7bname\x7d"), ("api-reference", .str "/api-reference"),
      ("openapi", .str "/openapi.json"), ("docs", .str "/docs")])]

/-- A text field of a JSON object: absent or null is none, a text is some, anything else fails. -/
def optionalTextField (loc : List String) (kvs : List (String × Json)) (key : String) :
    Except Problem (Option String) :=
  match (kvs.reverse.find? (·.1 == key)).map Prod.snd with
  | Option.none | some .null => .ok Option.none
  | some (.str s) => .ok (some s)
  | some v => .error (notText (loc ++ [key]) v)

def notAnObject (input : Json) : Problem :=
  ⟨"model_attributes_type", ["body"], "Input should be a valid dictionary or object to extract fields from",
    input, Option.none⟩

/-- The two root paths of a body setting the roots. -/
def rootsBody : Option Json → Except (List Problem) (Option String × Option String)
  | Option.none => .error [missing ["body"] .null]
  | some (.obj kvs) =>
    let c := optionalTextField ["body"] kvs "custom_path"
    let e := optionalTextField ["body"] kvs "engine_path"
    match c, e with
    | .ok c, .ok e => .ok (c, e)
    | _, _ => .error (problemsOf [problemOf c, problemOf e])
  | some v => .error [notAnObject v]

/-- The text and file name of a body holding a text to review. -/
def patternsBody : Option Json → Except (List Problem) (String × String)
  | Option.none => .error [missing ["body"] .null]
  | some (.obj kvs) =>
    let field := fun key => (kvs.reverse.find? (·.1 == key)).map Prod.snd
    let content : Except Problem String := match field "content" with
      | Option.none => .error (missing ["body", "content"] (.obj kvs))
      | some (.str s) => .ok s
      | some v => .error (notText ["body", "content"] v)
    let file : Except Problem String := match field "file_path" with
      | Option.none => .ok "<inline>"
      | some (.str s) => .ok s
      | some v => .error (notText ["body", "file_path"] v)
    match content, file with
    | .ok c, .ok f => .ok (c, f)
    | _, _ => .error (problemsOf [problemOf content, problemOf file])
  | some v => .error [notAnObject v]

/-- Serves a page once its parameters are checked. -/
def servePage (t : Tree) (query : String → Option String) (body : Option Json) :
    Endpoint → IndexM Response
  | .schema | .docs | .docsRedirect | .redoc => pure (detail 404 "Not Found")
  | .home => pure (answer 200 homePage)
  | .health | .live => pure (answer 200 (.obj [("status", .str "ok")]))
  | .ready => do
    if (← get).roots.isConfigured then
      pure (answer 200 (.obj [("status", .str "ok"), ("index", .str "configured")]))
    else pure (answer 503 (.obj [("status", .str "degraded"), ("index", .str "unconfigured")]))
  | .roots =>
    match rootsBody body with
    | .error ps => pure (rejected ps)
    | .ok (custom, engine) => serveIndex (configureRoots t custom engine) Roots.toJson
  | .classRecord name =>
    serveIndex (do let _ ← requireConfigured; resolveClass t name) Source.Record.toJson
  | .hierarchy name =>
    match requireBool ["query", "include_interfaces"] true (query "include_interfaces") with
    | .error p => pure (rejected [p])
    | .ok ifaces =>
      serveIndex (do let _ ← requireConfigured; buildHierarchy t name ifaces) Node.toJson
  | .references identifier =>
    match requireChoice ["query", "kind"] ["class", "function", "variable"] (query "kind") with
    | .error p => pure (rejected [p])
    | .ok _ => serveIndex (findReferences t identifier) fun ms => .arr (ms.map CodeMatch.toJson)
  | .search =>
    let q := requireText ["query", "q"] (query "q")
    let comments := requireBool ["query", "include_comments"] true (query "include_comments")
    match q, comments with
    | .ok q, .ok comments =>
      serveIndex (searchText t q ((query "file_pattern").getD defaultFilePattern) comments)
        fun ms => .arr (ms.map CodeMatch.toJson)
    | _, _ => pure (rejected (problemsOf [problemOf q, problemOf comments]))
  | .patterns =>
    match patternsBody body with
    | .error ps => pure (rejected ps)
    | .ok (content, file) => pure (answer 200 (.arr ((detectIdioms content file).map Sighting.toJson)))
  | .practices concept =>
    match guideFor concept with
    | .ok g => pure (answer 200 g.toJson)
    | .error e => serveIndex (throw e : IndexM Json) id
  | .subsystem name => serveIndex (analyzeSubsystem t name) Summary.toJson
  | .apiReference =>
    let q := requireText ["query", "q"] (query "q")
    let examples := requireBool ["query", "include_examples"] false (query "include_examples")
    let count := requirePositive ["query", "max_results"] 10 (query "max_results")
    match q, examples, count with
    | .ok q, .ok examples, .ok count =>
      serveIndex (queryApi q (query "category") (query "module") examples count)
        fun rs => .arr (rs.map QueryResult.toJson)
    | _, _, _ => pure (rejected (problemsOf [problemOf q, problemOf examples, problemOf count]))

/-- The value of a query parameter: a parameter given apart wins, else the last one in the
path's query string. -/
def lookupQuery (fields params : List (String × String)) (key : String) : Option String :=
  match params.find? (·.1 == key) with
  | some (_, v) => some v
  | Option.none => (fields.reverse.find? (·.1 == key)).map Prod.snd

/-- The path with its trailing slashes removed, or with one added. -/
def toggledSlash (path : String) : String :=
  if path.endsWith "/" then String.ofList (path.toList.reverse.dropWhile (· = '/')).reverse
  else path ++ "/"

/-- Serves a request arriving at `path`, following redirects at most `fuel` times. -/
def serveAt (t : Tree) (method : String) (query : String → Option String) (body : Option Json) :
    Nat → String → IndexM Response
  | 0, _ => pure (detail 404 "Not Found")
  | fuel + 1, path =>
    match fitRoutes method path with
    | .full e => servePage t query body e
    | .methodOnly => pure (detail 405 "Method Not Allowed")
    | .none =>
      let other := toggledSlash path
      match fitRoutes method other with
      | .none => pure (detail 404 "Not Found")
      | _ => if path == "/" then pure (detail 404 "Not Found")
        else serveAt t method query body fuel (arrivingPath other)

def serve (t : Tree) (r : Request) : IndexM Response :=
  let (path, queryString) := splitTarget r.target
  let fields := queryFields queryString
  let method := r.method.toUpper
  serveAt t method (lookupQuery fields r.params) r.body 21 (arrivingPath path)

end ClassAtlas.Service
