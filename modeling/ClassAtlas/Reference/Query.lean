import ClassAtlas.Index.Registry
import ClassAtlas.Text.Lines

/-!
Ranking the classes resolved so far against a free-text query. Only records already in the
class cache take part, in cache order, so a query never resolves anything new. The query is
lowered and split into words; each record's entry, filtered by category and module when they
are given, is scored against the words, and those scoring above zero are sorted by score, ties
keeping cache order, and cut to the number asked for (ten when none is; a negative number
drops that many from the end).
-/

namespace ClassAtlas.Reference

open ClassAtlas.Index ClassAtlas.Text

structure QueryResult where
  entry : Entry
  context : String
  relevance : Nat
  resources : List Resource
  deriving Repr, Inhabited

def defaultResultCount : Int := 10

/-- The result for an entry when it passes the filters and scores above zero. -/
def rankEntry (e : Entry) (terms : List String) (category module : Option String)
    (withExamples : Bool) : Option QueryResult :=
  let passes := (category.all fun c => c.isEmpty || e.category.label == c) &&
    (module.all fun m => m.isEmpty || e.module == m)
  let relevance := score e terms
  if passes && relevance > 0 then
    some ⟨e, e.context withExamples, relevance, learningResources e.className e.docsUrl⟩
  else none

/-- The results in order of relevance, ties in their given order, cut to `count` (slice
bounds: ten when zero, from the end when negative). -/
def rankResults (results : List QueryResult) (count : Int) : List QueryResult :=
  let sorted := results.mergeSort fun a b => a.relevance ≥ b.relevance
  slice sorted 0 (if count == 0 then defaultResultCount else count)

/-- The cached classes ranked against a query. -/
def queryApi (text : String) (category module : Option String) (withExamples : Bool)
    (count : Int) : IndexM (List QueryResult) := do
  let _ ← requireConfigured
  let terms := (words (lower text)).filter (!·.isEmpty)
  let records := (← get).cachedRecords
  let mut results : List QueryResult := []
  for r in records do
    let e ← apiEntry r
    match rankEntry e terms category module withExamples with
    | some q => results := results ++ [q]
    | none => pure ()
  return rankResults results count

def QueryResult.toJson (q : QueryResult) : Json :=
  .obj [("reference", q.entry.toJson), ("context", .str q.context), ("relevance", .nat q.relevance),
    ("learning_resources", .arr (q.resources.map Resource.toJson))]

end ClassAtlas.Reference
