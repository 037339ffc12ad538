import ClassAtlas.Index.Registry

/-!
Setting the roots is all or nothing. Every path given is checked before anything changes: an
engine path must name a directory holding an `Engine` or a `Source` directory, a project path a
directory. When all pass, exactly the given roots are set, to the paths as resolved, and a root
not given keeps its value; when one fails, the request fails with the engine's refusal first and
the registry is left as it was (`configureRoots_all_or_nothing`). Hence along any sequence of
such requests a root once set stays set, and a configured registry stays configured.
-/

namespace ClassAtlas.Index

open ClassAtlas.Files

/-- A path can be an engine root: it names a directory holding an `Engine` or a `Source`
    directory. -/
def EngineLayout (t : Tree) (p : String) : Prop :=
  t.isDir p = true ∧ (t.isDir (p ++ "/Engine") = true ∨ t.isDir (p ++ "/Source") = true)

/-- The roots after a request that sets the given ones: each given path as resolved, the
    others as they were. -/
def Roots.update (r : Roots) (custom engine : Option String) : Roots :=
  ⟨(custom.map resolvePath).or r.custom,(engine.map resolvePath).or r.engine⟩

/-- The registry after a sequence of requests to set roots, each made whatever the one before
    answered. -/
def configureAll (t : Tree) (ix : Registry) : List (Option String × Option String) → Registry
  | [] => ix
  | (custom,engine) :: rest => configureAll t ((configureRoots t custom engine).run.run ix).2 rest

/-- A request to set roots changes the registry only by the roots it answers. -/
theorem configureRoots_run (t : Tree) (ix : Registry) (custom engine : Option String) :
    (configureRoots t custom engine).run.run ix =
      match ix.roots.configure t custom engine with
      | .ok r => (.ok r,{ ix with roots := r })
      | .error e => (.error e,ix) := by
  -- past the read of the registry, the request is the match on the checked roots
  show (match ix.roots.configure t custom engine with
      | .ok r => (do set { ix with roots := r }; pure r : IndexM Roots)
      | .error e => (throw e : IndexM Roots)).run.run ix = _
  cases ix.roots.configure t custom engine <;> rfl

theorem checkEngine_of_layout (t : Tree) (p : String) (layout : EngineLayout t p) :
    checkEngine t p = .ok (resolvePath p) := by
  obtain ⟨dir,sub⟩ := layout
  rcases sub with sub | sub <;> simp [checkEngine,dir,sub]

theorem checkEngine_of_not_dir (t : Tree) (p : String) (missing : t.isDir p = false) :
    checkEngine t p = .error (.invalidPath p) := by
  simp [checkEngine,missing]

theorem checkEngine_of_no_layout (t : Tree) (p : String) (dir : t.isDir p = true)
    (bare : ¬ EngineLayout t p) : checkEngine t p = .error (.invalidEnginePath p) := by
  have noEngine : t.isDir (p ++ "/Engine") = false :=
    Bool.eq_false_iff.mpr fun h => bare ⟨dir,.inl h⟩
  have noSource : t.isDir (p ++ "/Source") = false :=
    Bool.eq_false_iff.mpr fun h => bare ⟨dir,.inr h⟩
  simp [checkEngine,dir,noEngine,noSource]

theorem checkCustom_eq (t : Tree) (q : String) :
    checkCustom t q = if t.isDir q then .ok (resolvePath q) else .error (.invalidPath q) := rfl

theorem configure_of_engine_error (r : Roots) (t : Tree) (custom : Option String) (p : String)
    (e : Failure) (refused : checkEngine t p = .error e) :
    r.configure t custom (some p) = .error e := by
  simp [Roots.configure,refused,Functor.map,Except.map,bind,Except.bind]

theorem configure_of_engine_ok (r : Roots) (t : Tree) (custom engine : Option String)
    (accepted : ∀ p ∈ engine, EngineLayout t p) :
    r.configure t custom engine =
      match custom with
      | some q => if t.isDir q then .ok (r.update custom engine) else .error (.invalidPath q)
      | none => .ok (r.update custom engine) := by
  cases engine with
  | none =>
    cases custom with
    | none => rfl
    | some q => by_cases dir : t.isDir q <;> simp [Roots.configure,checkCustom,dir,Roots.update,
        Functor.map,Except.map,bind,Except.bind,pure,Except.pure]
  | some p =>
    have checked := checkEngine_of_layout t p (accepted p rfl)
    cases custom with
    | none => simp [Roots.configure,checked,Roots.update,Functor.map,Except.map,bind,Except.bind,pure,
        Except.pure]
    | some q => by_cases dir : t.isDir q <;> simp [Roots.configure,checkCustom,checked,dir,Roots.update,
        Functor.map,Except.map,bind,Except.bind,pure,Except.pure]

theorem configureRoots_answer (t : Tree) (ix : Registry) (custom engine : Option String) :
    ((configureRoots t custom engine).run.run ix).1 = ix.roots.configure t custom engine := by
  rw [configureRoots_run]
  cases ix.roots.configure t custom engine <;> rfl

theorem checkEngine_ok (t : Tree) (p : String) (l : Location) (accepted : checkEngine t p = .ok l) :
    l = resolvePath p := by
  unfold checkEngine at accepted
  split at accepted
  · cases accepted
  · split at accepted
    · cases accepted
    · cases accepted; rfl

theorem checkEngine_layout (t : Tree) (p : String) (l : Location) (accepted : checkEngine t p = .ok l) :
    EngineLayout t p := by
  unfold checkEngine at accepted
  split at accepted
  · cases accepted
  · next dir =>
    split at accepted
    · cases accepted
    · next sub =>
      refine ⟨by simpa using dir,?_⟩
      cases engineDir : t.isDir (p ++ "/Engine") <;> simp_all

/-- A request that succeeds sets the roots it was given, each as resolved, and keeps the
    others. -/
theorem configure_ok (r : Roots) (t : Tree) (custom engine : Option String) (r' : Roots)
    (accepted : r.configure t custom engine = .ok r') : r' = r.update custom engine := by
  have engineOk : ∀ p ∈ engine, EngineLayout t p := by
    intro p given
    cases checked : checkEngine t p with
    | ok l => exact checkEngine_layout t p l checked
    | error e =>
      rw [Option.mem_def] at given
      subst given
      rw [configure_of_engine_error r t custom p e checked] at accepted
      cases accepted
  rw [configure_of_engine_ok r t custom engine engineOk] at accepted
  cases custom with
  | none => cases accepted; rfl
  | some q =>
    by_cases dir : t.isDir q
    · simp only [dir,if_true] at accepted
      cases accepted; rfl
    · simp [dir] at accepted

/-- Setting roots never unsets one: a root set before a request is set after it. -/
theorem configureRoots_keeps_set (t : Tree) (ix : Registry) (custom engine : Option String) :
    let after := ((configureRoots t custom engine).run.run ix).2.roots
    (ix.roots.custom.isSome → after.custom.isSome) ∧ (ix.roots.engine.isSome → after.engine.isSome) := by
  intro after
  have answered := configureRoots_run t ix custom engine
  cases configured : ix.roots.configure t custom engine with
  | ok r =>
    have updated : after = ix.roots.update custom engine := by
      simp only [after,answered,configured]
      exact configure_ok _ _ _ _ _ configured
    rw [updated]
    constructor <;> intro wasSet <;> simp [Roots.update,Option.isSome_or,wasSet]
  | error e =>
    have kept : after = ix.roots := by simp only [after,answered,configured]
    rw [kept]
    exact ⟨id,id⟩

/-- Along any sequence of requests to set roots, a root once set stays set. -/
theorem configureAll_keeps_set (t : Tree) (steps : List (Option String × Option String)) :
    ∀ ix : Registry, (ix.roots.custom.isSome → (configureAll t ix steps).roots.custom.isSome) ∧
      (ix.roots.engine.isSome → (configureAll t ix steps).roots.engine.isSome) := by
  induction steps with
  | nil => intro ix; exact ⟨id,id⟩
  | cons step rest ih =>
    intro ix
    obtain ⟨custom,engine⟩ := step
    have kept := configureRoots_keeps_set t ix custom engine
    have later := ih ((configureRoots t custom engine).run.run ix).2
    exact ⟨fun wasSet => later.1 (kept.1 wasSet),fun wasSet => later.2 (kept.2 wasSet)⟩

theorem configure_of_engine_refused (r : Roots) (t : Tree) (custom : Option String)
    {engine : Option String} {p : String} (given : p ∈ engine) {e : Failure}
    (refused : checkEngine t p = .error e) : r.configure t custom engine = .error e := by
  rw [Option.mem_def] at given
  subst given
  exact configure_of_engine_error r t custom p e refused

theorem configure_of_custom_missing (r : Roots) (t : Tree) {custom : Option String}
    (engine : Option String) (accepted : ∀ p ∈ engine, EngineLayout t p) {q : String}
    (given : q ∈ custom) (missing : t.isDir q = false) :
    r.configure t custom engine = .error (.invalidPath q) := by
  rw [Option.mem_def] at given
  subst given
  rw [configure_of_engine_ok r t _ engine accepted]
  simp [missing]

theorem configure_fails_of_bare_engine (r : Roots) (t : Tree) (custom : Option String)
    {engine : Option String} {p : String} (given : p ∈ engine) (bare : ¬ EngineLayout t p) :
    ∃ e, r.configure t custom engine = .error e := by
  cases checked : checkEngine t p with
  | ok l => exact absurd (checkEngine_layout t p l checked) bare
  | error e => exact ⟨e,configure_of_engine_refused r t custom given checked⟩

/-- Checking roots fails exactly when a given engine path is no engine root or a given project
    path is no directory. -/
theorem configure_fails_iff (r : Roots) (t : Tree) (custom engine : Option String) :
    (∃ e, r.configure t custom engine = .error e) ↔
      (∃ p ∈ engine, ¬ EngineLayout t p) ∨ ∃ q ∈ custom, t.isDir q = false := by
  constructor
  · rintro ⟨e,failed⟩
    by_cases accepted : ∀ p ∈ engine, EngineLayout t p
    · -- past the engine, only the project path can refuse
      rw [configure_of_engine_ok r t _ engine accepted] at failed
      cases custom with
      | none => cases failed
      | some q =>
        right
        refine ⟨q,rfl,?_⟩
        cases dir : t.isDir q
        · rfl
        · simp [dir] at failed
    · left
      simpa using accepted
  · rintro (⟨p,given,bare⟩ | ⟨q,given,missing⟩)
    · exact configure_fails_of_bare_engine r t custom given bare
    · by_cases accepted : ∀ p ∈ engine, EngineLayout t p
      · exact ⟨_,configure_of_custom_missing r t engine accepted given missing⟩
      · obtain ⟨p,givenEngine,bare⟩ : ∃ p ∈ engine, ¬ EngineLayout t p := by simpa using accepted
        exact configure_fails_of_bare_engine r t custom givenEngine bare

/-- A request to set roots either sets exactly the given ones or fails with the registry kept. -/
theorem configureRoots_outcome (t : Tree) (ix : Registry) (custom engine : Option String) :
    (configureRoots t custom engine).run.run ix =
        (.ok (ix.roots.update custom engine),{ ix with roots := ix.roots.update custom engine }) ∨
      ∃ e, (configureRoots t custom engine).run.run ix = (.error e,ix) := by
  rw [configureRoots_run]
  cases configured : ix.roots.configure t custom engine with
  | ok r =>
    left
    rw [configure_ok _ _ _ _ _ configured]
  | error e => exact .inr ⟨e,rfl⟩

/-- Along any sequence of requests to set roots, a configured registry stays configured. -/
theorem configureAll_configured (t : Tree) (ix : Registry) (steps : List (Option String × Option String))
    (configured : ix.roots.isConfigured) : (configureAll t ix steps).roots.isConfigured := by
  obtain ⟨keepsCustom,keepsEngine⟩ := configureAll_keeps_set t steps ix
  cases hc : ix.roots.custom.isSome
  · have engineSet : ix.roots.engine.isSome = true := by
      simpa [Roots.isConfigured,hc] using configured
    simp [Roots.isConfigured,keepsEngine engineSet]
  · simp [Roots.isConfigured,keepsCustom hc]

/-- Setting roots is all or nothing. For any registry and any two optional paths, the request
    either sets exactly the given roots, each as resolved, keeping the others, or fails and
    leaves the registry as it was. It fails exactly when the engine path is given and is no
    engine root, or the project path is given and is no directory; a missing engine directory
    is an invalid path, one without an `Engine` or `Source` directory an invalid engine path,
    and the engine's refusal comes before the project's. Along any sequence of such requests a
    root once set stays set, so a configured registry stays configured. -/
theorem configureRoots_all_or_nothing (t : Tree) (ix : Registry) (custom engine : Option String) :
    let answer := (configureRoots t custom engine).run.run ix
    (answer = (.ok (ix.roots.update custom engine),{ ix with roots := ix.roots.update custom engine }) ∨
      ∃ e, answer = (.error e,ix)) ∧
    ((∃ e, answer.1 = .error e) ↔
      (∃ p ∈ engine, ¬ EngineLayout t p) ∨ ∃ q ∈ custom, t.isDir q = false) ∧
    (∀ p ∈ engine, t.isDir p = false → answer.1 = .error (.invalidPath p)) ∧
    (∀ p ∈ engine, t.isDir p = true → ¬ EngineLayout t p → answer.1 = .error (.invalidEnginePath p)) ∧
    ((∀ p ∈ engine, EngineLayout t p) → ∀ q ∈ custom, t.isDir q = false →
      answer.1 = .error (.invalidPath q)) ∧
    ∀ steps, let last := (configureAll t ix steps).roots
      (ix.roots.custom.isSome → last.custom.isSome) ∧ (ix.roots.engine.isSome → last.engine.isSome) ∧
      (ix.roots.isConfigured → last.isConfigured) := by
  intro answer
  have answered : answer.1 = ix.roots.configure t custom engine := configureRoots_answer t ix custom engine
  refine ⟨configureRoots_outcome t ix custom engine,?_,?_,?_,?_,fun steps => ?_⟩
  · rw [answered]
    exact configure_fails_iff ix.roots t custom engine
  · intro p given missing
    rw [answered]
    exact configure_of_engine_refused _ t custom given (checkEngine_of_not_dir t p missing)
  · intro p given dir bare
    rw [answered]
    exact configure_of_engine_refused _ t custom given (checkEngine_of_no_layout t p dir bare)
  · intro accepted q given missing
    rw [answered]
    exact configure_of_custom_missing _ t engine accepted given missing
  · obtain ⟨keepsCustom,keepsEngine⟩ := configureAll_keeps_set t steps ix
    exact ⟨keepsCustom,keepsEngine,configureAll_configured t ix steps⟩

end ClassAtlas.Index
