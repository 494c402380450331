import ResourceSearch.Activation
import ResourceSearch.Engine.Store
import ResourceSearch.Proofs.Config.Saving
import ResourceSearch.Proofs.Definition.Creation

/-!
# Activation registers a backend that works

The configuration is written last, and only if everything before has gone well: the definitions of
the indices were found, each index was created, and the health query was answered. What is called
up to there follows a plan, which is empty if there are no definitions to be had. So an activation
has two parts. The first reaches a world in which no file has changed, and it tells whether the
backend works (`activate_cases`); the second, which makes no calls, writes the file.
-/

namespace ResourceSearch.Service

open World (Reaches)

variable {σ : Type} {service : Service σ} {world : World σ}

/-! ## The plan -/

/-- The calls of an activation: each index that is defined is created, and then the health query is
asked. -/
def activationPlan (service : Service σ) (files : Files) : List Call :=
  match service.definitions files with
  | .error _ => []
  | .ok definitions =>
    definitions.map .createIndex ++ [.search (service.compiler.compile healthQuery)]

/-- Whether the backend works: there are definitions of indices, and no call fails. -/
def IsReady (service : Service σ) (world : World σ) : Prop :=
  (∃ definitions, service.definitions world.files = .ok definitions) ∧
    service.engine.failure? (service.activationPlan world.files) world.engine = none

theorem isReady_iff {definitions : List IndexDefinition} {calls : List Call}
    (hdefinitions : service.definitions world.files = .ok definitions)
    (h : service.engine.FollowsPlan world.engine (service.activationPlan world.files) calls) :
    service.IsReady world ↔ service.engine.failure? calls world.engine = none := by
  rw [h.failure?_eq_none_iff, IsReady]
  exact and_iff_right ⟨definitions, hdefinitions⟩

theorem query_apply (service : Service σ) (query : Query.UserQuery) (world : World σ) :
    Reaches service.engine [.search (service.compiler.compile query)]
        [.search (service.compiler.compile query)] world (service.query query world).2 ∧
      ((∃ found, (service.query query world).1 = .ok found) ↔
        service.engine.failure? [.search (service.compiler.compile query)] world.engine
          = none) := by
  have hlogged := (Reaches.refl service.engine world).logAll (service.compiler.events query)
  have hcalled := World.reaches_call service.engine (.search (service.compiler.compile query))
    (Run.logAll (service.compiler.events query) world).2
  have hfailure := service.engine.failure?_call (.search (service.compiler.compile query))
    (Run.logAll (service.compiler.events query) world).2
  have hreaches := hlogged.append rfl hcalled
  have hsame : (Run.logAll (service.compiler.events query) world).2.engine = world.engine := rfl
  rw [hsame] at hfailure
  rw [Service.query, Run.bind_apply, Run.bind_apply, hfailure]
  cases (Run.call service.engine (.search (service.compiler.compile query))
    (Run.logAll (service.compiler.events query) world).2).1 with
  | ok response => exact ⟨hreaches, iff_of_true ⟨_, rfl⟩ rfl⟩
  | error error => exact ⟨hreaches.logAll _, iff_of_false nofun nofun⟩

/-! ## The two parts of an activation -/

theorem activate_of_error {output : Option String} {error : CreationError}
    (h : (service.createConfigured world).1 = .error error) :
    service.activate output world
      = (creationFailure error,
        (Run.log .error "Index creation failed" [("error", .string error.message)]
          (service.createConfigured world).2).2) := by
  rw [activate, Run.bind_apply, h]
  rfl

theorem activate_of_unanswered {output : Option String} {count : Nat} {error : QueryError}
    (hcount : (service.createConfigured world).1 = .ok count)
    (h : (service.query healthQuery (service.createConfigured world).2).1 = .error error) :
    service.activate output world
      = (.error "Elasticsearch server could not be found",
        (Run.log .error "Health check query failed"
          [("error", .string error.message), ("host", .string service.config.primaryHost)]
          (service.query healthQuery (service.createConfigured world).2).2).2) := by
  rw [activate, Run.bind_apply, hcount]
  dsimp only
  rw [Run.bind_apply, h]
  rfl

theorem activate_of_answered {output : Option String} {count : Nat} {found : ResultSet}
    {between : World σ} (hcount : (service.createConfigured world).1 = .ok count)
    (h : service.query healthQuery (service.createConfigured world).2 = (.ok found, between)) :
    service.activate output world
      = (.node .success "Switched to Elasticsearch"
          (.info (toString count ++ " indices ready") :: (service.register output between).1),
        (Run.log .info "Search backend activated" [("host", .string service.config.primaryHost)]
          (service.register output between).2).2) := by
  rw [activate, Run.bind_apply, hcount]
  dsimp only
  rw [Run.bind_apply, h]
  rfl

/-- After the calls of an activation either an error is reported and nothing more is done, or the
backend works and the configuration is written. -/
theorem activate_cases (service : Service σ) (output : Option String) (world : World σ) :
    ∃ (calls : List Call) (between : World σ),
      Reaches service.engine (service.activationPlan world.files) calls world between ∧
      ((¬ service.IsReady world ∧
          ∃ message, service.activate output world = (.error message, between)) ∨
        (service.IsReady world ∧
          ∃ (count : Nat) (events : List Event), service.activate output world
            = (.node .success "Switched to Elasticsearch"
                (.info (toString count ++ " indices ready") ::
                  (service.register output between).1),
              (Run.logAll events (service.register output between).2).2))) := by
  cases hdefinitions : service.definitions world.files with
  | error error =>
    -- Without definitions there is nothing to call.
    obtain ⟨hresult, hreaches⟩ := createConfigured_of_error hdefinitions
    have hplan : service.activationPlan world.files = [] := by
      rw [activationPlan, hdefinitions]
    have hnot : ¬ service.IsReady world := by
      rintro ⟨⟨definitions, hok⟩, -⟩
      rw [hdefinitions] at hok
      cases hok
    rw [hplan]
    exact ⟨[], _, hreaches.logAll _, .inl ⟨hnot, _, activate_of_error hresult⟩⟩
  | ok definitions =>
    obtain ⟨created, hcreated, hresult⟩ := creates_createConfigured hdefinitions
    have hplan : service.activationPlan world.files
        = definitions.map .createIndex ++ [.search (service.compiler.compile healthQuery)] := by
      rw [activationPlan, hdefinitions]
    cases hfailure : service.engine.failure? created world.engine with
    | some error =>
      -- The creation that fails is the last call, and the plan would go on after it.
      rw [hfailure] at hresult
      have hfailed : service.engine.failure? created world.engine ≠ none := by
        rw [hfailure]
        exact Option.some_ne_none error
      have hreaches := hcreated.stop hfailed [.search (service.compiler.compile healthQuery)]
      rw [← hplan] at hreaches
      have hnot := mt (isReady_iff hdefinitions hreaches.followsPlan).mp hfailed
      exact ⟨created, _, hreaches.logAll _, .inl ⟨hnot, _, activate_of_error hresult⟩⟩
    | none =>
      -- All indices are there, so it depends on the health query.
      rw [hfailure] at hresult
      obtain ⟨hasked, hanswered⟩ :=
        service.query_apply healthQuery (service.createConfigured world).2
      have hreaches := hcreated.append hfailure hasked
      rw [← hplan] at hreaches
      have hready := isReady_iff hdefinitions hreaches.followsPlan
      rw [hcreated.failure?_append hfailure, ← hanswered] at hready
      cases hfound : (service.query healthQuery (service.createConfigured world).2).1 with
      | error error =>
        rw [hfound] at hready
        exact ⟨_, _, hreaches.logAll _, .inl ⟨mt hready.mp nofun, _,
          activate_of_unanswered hresult hfound⟩⟩
      | ok found =>
        rw [hfound] at hready
        exact ⟨_, _, hreaches, .inr ⟨hready.mpr ⟨found, rfl⟩, _, _,
          activate_of_answered hresult (Prod.ext hfound rfl)⟩⟩

/-! ## Writing the configuration -/

theorem register_of_write? {path : String} {files : Files}
    (h : world.files.write? path service.config.text = some files) :
    service.register (some path) world
      = ([.info ("Configuration written to " ++ path)], { world with files := files }) := by
  rw [register, Run.bind_apply, Config.save_of_write? h]
  rfl

theorem register_of_write?_eq_none {path : String}
    (h : world.files.write? path service.config.text = none) :
    service.register (some path) world
      = ([.error (ConfigError.inaccessible path).message], world) := by
  rw [register, Run.bind_apply, Config.save_of_write?_eq_none h]
  rfl

theorem calls_register (service : Service σ) (output : Option String) (world : World σ) :
    (service.register output world).2.calls = world.calls := by
  cases output with
  | none => rfl
  | some path =>
    cases hwrite : world.files.write? path service.config.text with
    | none => rw [register_of_write?_eq_none hwrite]
    | some files =>
      rw [register_of_write? hwrite]
      rfl

theorem files_register (service : Service σ) (path : String) (world : World σ) :
    (service.register (some path) world).2.files
      = (world.files.write? path service.config.text).getD world.files := by
  cases hwrite : world.files.write? path service.config.text with
  | none =>
    rw [register_of_write?_eq_none hwrite]
    rfl
  | some files =>
    rw [register_of_write? hwrite]
    rfl

theorem anyContainsError_register (service : Service σ) (output : Option String)
    (world : World σ) :
    Report.anyContainsError (service.register output world).1 = true ↔
      ∃ path, output = some path ∧ world.files.write? path service.config.text = none := by
  cases output with
  | none =>
    refine iff_of_false Bool.false_ne_true ?_
    rintro ⟨path, hpath, -⟩
    cases hpath
  | some path =>
    cases hwrite : world.files.write? path service.config.text with
    | none =>
      rw [register_of_write?_eq_none hwrite]
      exact iff_of_true rfl ⟨path, rfl, hwrite⟩
    | some files =>
      rw [register_of_write? hwrite]
      refine iff_of_false Bool.false_ne_true ?_
      rintro ⟨path', hpath, hnone⟩
      cases hpath
      rw [hwrite] at hnone
      cases hnone

/-- **Activation registers only what works.** An activation makes the calls of its plan up to the
first that fails. Unless there are definitions and no call fails, it changes no file; otherwise it
writes the configuration, if it is given a place for it. An error is reported exactly if the backend
does not work or the configuration cannot be written. A valid configuration that has been written
loads back. -/
theorem activate_writes_if_isReady (service : Service σ) (output : Option String)
    (world : World σ) :
    ∃ (report : Report) (after : World σ) (calls : List Call),
      service.activate output world = (report, after) ∧
      after.calls = world.calls ++ calls ∧
      service.engine.FollowsPlan world.engine (service.activationPlan world.files) calls ∧
      (output = none ∨ ¬ service.IsReady world → after.files = world.files) ∧
      (∀ path, output = some path → service.IsReady world →
        after.files = (world.files.write? path service.config.text).getD world.files) ∧
      (report.containsError = true ↔
        ¬ service.IsReady world ∨
          ∃ path, output = some path ∧ world.files.write? path service.config.text = none) ∧
      ∀ path files, output = some path → service.IsReady world →
        world.files.write? path service.config.text = some files →
          service.config.validate = .ok () →
            (Config.load path after).1 = .ok service.config := by
  obtain ⟨calls, between, ⟨hcalls, -, hfiles, hfollows⟩, ⟨hnot, message, hrun⟩ |
    ⟨hready, count, events, hrun⟩⟩ := service.activate_cases output world
  · refine ⟨_, _, calls, hrun, hcalls, hfollows, fun _ ↦ hfiles, ?_, ?_, ?_⟩
    · exact fun _ _ hready ↦ absurd hready hnot
    · exact iff_of_true rfl (.inl hnot)
    · exact fun _ _ _ hready ↦ absurd hready hnot
  · have hwritten (path : String) : (service.register (some path) between).2.files
        = (world.files.write? path service.config.text).getD world.files := by
      rw [files_register, hfiles]
    refine ⟨_, _, calls, hrun, ?_, hfollows, ?_, ?_, ?_, ?_⟩
    · rw [Run.calls_logAll, calls_register, hcalls]
    · rintro (rfl | hnot)
      · exact hfiles
      · exact absurd hready hnot
    · rintro path rfl -
      exact hwritten path
    · rw [or_iff_right (not_not_intro hready), ← hfiles, ← anyContainsError_register]
      rfl
    · rintro path files rfl - hwrite hvalid
      have hread : (Run.logAll events (service.register (some path) between).2).2.files.read? path
          = some service.config.text := by
        have hafter := hwritten path
        rw [hwrite, Option.getD_some] at hafter
        exact hafter ▸ Files.read?_of_write? hwrite
      rw [Config.load_of_read? hread, Config.ofFileText_text, hvalid]
      rfl

/-- A service with the built-in settings, on an engine that can be told to fail. -/
def rehearsed : Service Rehearsal :=
  ⟨Rehearsal.engine, {}, none⟩

/-- The creation of the index for tests fails. -/
def withoutTests : Rehearsal :=
  { Rehearsal.start with failures := .ofList [("create_index:tests", .transport "closed")] }

/-- A directory without files, away from the working directory. -/
def bareDirectory : Files :=
  Files.empty.withDirectories "/etc/search/active.json"

/-- A working backend is registered, and one that lacks an index is not. -/
theorem activate_writes_if_isReady_rehearsed :
    (∃ report after,
      rehearsed.activate (some "/etc/search/active.json") (.start .start bareDirectory)
        = (report, after) ∧
      report.containsError = false ∧
      (Config.load "/etc/search/active.json" after).1 = .ok rehearsed.config) ∧
    ∃ report after,
      rehearsed.activate (some "/etc/search/active.json") (.start withoutTests bareDirectory)
        = (report, after) ∧
      report.containsError = true ∧ after.files = bareDirectory := by
  have hwritten : (bareDirectory.write? "/etc/search/active.json" rehearsed.config.text).isSome
      = true := by decide +kernel
  obtain ⟨files, hfiles⟩ := Option.isSome_iff_exists.mp hwritten
  have hvalid : rehearsed.config.validate = .ok () :=
    (Config.validate_eq_ok_iff _).mpr (by decide)
  have hready : rehearsed.IsReady (.start .start bareDirectory) := ⟨⟨_, rfl⟩, by decide +kernel⟩
  have hnot : ¬ rehearsed.IsReady (.start withoutTests bareDirectory) := by
    rintro ⟨-, hnone⟩
    exact absurd hnone (by decide +kernel)
  constructor
  · obtain ⟨report, after, calls, hrun, -, -, -, -, herror, hload⟩ :=
      rehearsed.activate_writes_if_isReady (some "/etc/search/active.json")
        (.start .start bareDirectory)
    refine ⟨report, after, hrun, ?_, hload _ files rfl hready hfiles hvalid⟩
    rw [Bool.eq_false_iff, ne_eq, herror]
    rintro (h | ⟨path, hpath, hnone⟩)
    · exact h hready
    · cases hpath
      exact absurd (hfiles.symm.trans hnone) nofun
  · obtain ⟨report, after, calls, hrun, -, -, hsame, -, herror, -⟩ :=
      rehearsed.activate_writes_if_isReady (some "/etc/search/active.json")
        (.start withoutTests bareDirectory)
    exact ⟨report, after, hrun, herror.mpr (.inl hnot), hsame (.inr hnot)⟩

end ResourceSearch.Service
