import ResourceSearch.Proofs.Engine.Plans
import ResourceSearch.Service

/-!
# Creating indices

The definitions of indices are found first, all of them or none; an engine has no part in that. Then
the indices are created in the order of their definitions, which is a plan of calls: creation fails
exactly if one of the calls does, and it fails as the first of them that does.
-/

namespace ResourceSearch

open World (Reaches)

variable {σ : Type}

/-! ## Finding the definitions -/

/-- The definitions that a file holds. -/
def DefinitionFile.contents (files : Files) (path : String) :
    Except ConfigError (List IndexDefinition) :=
  match files.read? path with
  | none => .error (.inaccessible path)
  | some text => ofText path text

theorem DefinitionFile.load_apply (engine : Engine σ) (path : String) (world : World σ) :
    (load path world).1 = contents world.files path ∧
      Reaches engine [] [] world (load path world).2 := by
  have hread : Run.readFile? path world = (world.files.read? path, world) := rfl
  rw [load, Run.bind_apply, hread, contents]
  cases world.files.read? path with
  | none => exact ⟨rfl, .refl engine world⟩
  | some text =>
    dsimp only
    cases ofText path text with
    | error error => exact ⟨rfl, .refl engine world⟩
    | ok definitions => exact ⟨rfl, (Reaches.refl engine world).logAll _⟩

namespace Service

/-- The definitions of the configured file, or the built-in ones. -/
def definitions (service : Service σ) (files : Files) : Except ConfigError (List IndexDefinition) :=
  match service.config.indexFile with
  | some path => DefinitionFile.contents files path
  | none => .ok service.config.definitions

/-! ## Creating what is defined -/

theorem createAll_apply (service : Service σ) (definitions : List IndexDefinition)
    (world : World σ) :
    ∃ calls,
      Reaches service.engine (definitions.map .createIndex) calls world
        (service.createAll definitions world).2 ∧
      (service.createAll definitions world).1
        = (service.engine.failure? calls world.engine).elim (.ok ()) .error := by
  induction definitions generalizing world with
  | nil => exact ⟨[], .refl service.engine world, rfl⟩
  | cons definition definitions ih =>
    have hreaches := World.reaches_call service.engine (.createIndex definition) world
    have hfailure := service.engine.failure?_call (.createIndex definition) world
    rw [createAll, Run.bind_apply]
    cases hanswer : (Run.call service.engine (.createIndex definition) world).1 with
    | error error =>
      rw [hanswer] at hfailure
      have hfailed : service.engine.failure? [.createIndex definition] world.engine ≠ none := by
        rw [hfailure]
        exact Option.some_ne_none error
      refine ⟨[.createIndex definition], hreaches.stop hfailed _, ?_⟩
      rw [hfailure]
      rfl
    | ok response =>
      rw [hanswer] at hfailure
      have hlogged := hreaches.logAll
        [⟨.info, "Index created", [("index", .string definition.index)]⟩]
      obtain ⟨calls, hrest, hresult⟩ := ih (Run.logAll _ _).2
      refine ⟨.createIndex definition :: calls, hlogged.append hfailure hrest, ?_⟩
      have hjoined := hlogged.failure?_append hfailure calls
      rw [List.singleton_append] at hjoined
      rw [hjoined]
      exact hresult

/-- A run creates some indices in their order, up to the first that fails, and ends with their
number or with the failure. -/
def Creates (service : Service σ) (definitions : List IndexDefinition) (world : World σ)
    (outcome : Except CreationError Nat × World σ) : Prop :=
  ∃ calls,
    Reaches service.engine (definitions.map .createIndex) calls world outcome.2 ∧
    outcome.1 = (service.engine.failure? calls world.engine).elim (.ok definitions.length)
      fun error ↦ .error (.engine error)

theorem creates_createCounted (service : Service σ) (definitions : List IndexDefinition)
    (world : World σ) :
    service.Creates definitions world (service.createCounted definitions world) := by
  obtain ⟨calls, hreaches, hresult⟩ := service.createAll_apply definitions world
  rw [createCounted, Run.bind_apply, hresult]
  refine ⟨calls, ?_⟩
  cases service.engine.failure? calls world.engine with
  | none => exact ⟨hreaches, rfl⟩
  | some error => exact ⟨hreaches, rfl⟩

theorem createFromFile_of_error {service : Service σ} {path : String} {world : World σ}
    {error : ConfigError} (h : DefinitionFile.contents world.files path = .error error) :
    (service.createFromFile path world).1 = .error (.config error) ∧
      Reaches service.engine [] [] world (service.createFromFile path world).2 := by
  obtain ⟨hresult, hreaches⟩ := DefinitionFile.load_apply service.engine path world
  rw [createFromFile, Run.bind_apply, hresult, h]
  exact ⟨rfl, hreaches⟩

theorem creates_createFromFile {service : Service σ} {path : String} {world : World σ}
    {definitions : List IndexDefinition}
    (h : DefinitionFile.contents world.files path = .ok definitions) :
    service.Creates definitions world (service.createFromFile path world) := by
  obtain ⟨hresult, hreaches⟩ := DefinitionFile.load_apply service.engine path world
  rw [createFromFile, Run.bind_apply, hresult, h]
  obtain ⟨calls, hcreated, hcount⟩ :=
    service.creates_createCounted definitions (DefinitionFile.load path world).2
  -- Reading a file does not change what the engine is going to answer.
  have hsame : (DefinitionFile.load path world).2.engine = world.engine := hreaches.engine_eq
  rw [hsame] at hcount
  exact ⟨calls, hreaches.append rfl hcreated, hcount⟩

theorem createConfigured_of_error {service : Service σ} {world : World σ} {error : ConfigError}
    (h : service.definitions world.files = .error error) :
    (service.createConfigured world).1 = .error (.config error) ∧
      Reaches service.engine [] [] world (service.createConfigured world).2 := by
  rw [definitions] at h
  rw [createConfigured]
  cases hfile : service.config.indexFile with
  | none =>
    rw [hfile] at h
    cases h
  | some path =>
    rw [hfile] at h
    exact createFromFile_of_error h

theorem creates_createConfigured {service : Service σ} {world : World σ}
    {definitions : List IndexDefinition}
    (h : service.definitions world.files = .ok definitions) :
    service.Creates definitions world (service.createConfigured world) := by
  rw [Service.definitions] at h
  rw [createConfigured]
  cases hfile : service.config.indexFile with
  | none =>
    rw [hfile] at h
    cases h
    exact service.creates_createCounted service.config.definitions world
  | some path =>
    rw [hfile] at h
    exact creates_createFromFile h

end Service

end ResourceSearch
