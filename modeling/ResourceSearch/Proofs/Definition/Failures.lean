import ResourceSearch.Proofs.Definition.Agreement

/-!
# Creation up to the first failure

No index is created before the file that defines it has been loaded, so a file that is refused leads
to no calls. Otherwise there is one call for each definition, in their order, up to the first that
fails (`StopsAtFailure`). Whether a call fails is asked of the engine in the state that the calls
before it have led to, so the two ways to end exclude each other.
-/

namespace ResourceSearch

namespace Service

open DefinitionFile (Provides Refused fileOf listJson sparseDefinitions)

variable {σ : Type}

/-! ## Up to the first failure -/

/-- The calls that create some indices, and how they end: all indices are created, or one is the
first that is not, and nothing is called after it. -/
inductive StopsAtFailure (engine : Engine σ) (state : σ) :
    List IndexDefinition → List Call → Except CreationError Nat → Prop
  | created {definitions : List IndexDefinition}
      (h : engine.failure? (definitions.map .createIndex) state = none) :
    StopsAtFailure engine state definitions (definitions.map .createIndex)
      (.ok definitions.length)
  | failed {before after : List IndexDefinition} {definition : IndexDefinition}
      {error : EngineError}
      (hbefore : engine.failure? (before.map .createIndex) state = none)
      (hfailed : (engine.answer (.createIndex definition)
        (engine.after (before.map .createIndex) state)).1 = .error error) :
    StopsAtFailure engine state (before ++ definition :: after)
      ((before ++ [definition]).map .createIndex) (.error (.engine error))

theorem Creates.exists_stopsAtFailure {service : Service σ} {definitions : List IndexDefinition}
    {world : World σ} {outcome : Except CreationError Nat × World σ}
    (h : service.Creates definitions world outcome) :
    ∃ calls, outcome.2.calls = world.calls ++ calls ∧
      StopsAtFailure service.engine world.engine definitions calls outcome.1 ∧
      ∀ count, outcome.1 = .ok count ↔ count = definitions.length ∧
        calls = definitions.map .createIndex ∧
        service.engine.failure? calls world.engine = none := by
  obtain ⟨calls, hreaches, hresult⟩ := h
  refine ⟨calls, hreaches.calls_eq, ?_⟩
  rw [hresult]
  obtain ⟨rfl, hnone⟩ | ⟨made, c, rest, error, hplan, rfl, hmade, hfailed, hfailure⟩ :=
    hreaches.followsPlan.eq_or_exists_failed
  · rw [hnone]
    refine ⟨.created hnone, fun count ↦ ?_⟩
    rw [Option.elim_none, Except.ok.injEq]
    exact ⟨fun h ↦ ⟨h.symm, rfl, rfl⟩, fun h ↦ h.1.symm⟩
  · -- The plan has one call for each definition, so it falls apart where the definitions do.
    obtain ⟨before, others, rfl, rfl, hothers⟩ := List.map_eq_append_iff.mp hplan
    obtain ⟨definition, after, rfl, rfl, -⟩ := List.map_eq_cons_iff.mp hothers
    have hcalls : before.map Call.createIndex ++ [.createIndex definition]
        = (before ++ [definition]).map .createIndex := by rw [List.map_append]; rfl
    rw [hfailure, hcalls]
    exact ⟨.failed hmade hfailed, fun count ↦ iff_of_false nofun fun h ↦ nomatch h.2.2⟩

/-- **Creation.** From a file that is refused nothing is created. Otherwise the indices are created
in the order of the definitions, up to the first that fails; their number is returned exactly if
none does. -/
theorem createFromFile_stops (service : Service σ) (path : String) (world : World σ) :
    ∃ calls,
      (service.createFromFile path world).2.calls = world.calls ++ calls ∧
      ((∃ definitions, Provides world.files path definitions) ∨
        ∃ error, Refused world.files path error) ∧
      (∀ error, Refused world.files path error →
        calls = [] ∧ (service.createFromFile path world).1 = .error (.config error)) ∧
      (∀ definitions, Provides world.files path definitions →
        StopsAtFailure service.engine world.engine definitions calls
          (service.createFromFile path world).1) ∧
      ∀ count, (service.createFromFile path world).1 = .ok count ↔
        ∃ definitions, Provides world.files path definitions ∧ count = definitions.length ∧
          calls = definitions.map .createIndex ∧
          service.engine.failure? calls world.engine = none := by
  obtain ⟨definitions, hprovides⟩ | ⟨error, hrefused⟩ :=
    DefinitionFile.provides_or_refused world.files path
  · obtain ⟨calls, hcalls, hstops, hcount⟩ := (creates_createFromFile
      (DefinitionFile.contents_of_provides hprovides)).exists_stopsAtFailure
    refine ⟨calls, hcalls, .inl ⟨definitions, hprovides⟩, fun error hrefused ↦ ?_,
      fun definitions' hprovides' ↦ ?_, fun count ↦ ?_⟩
    · exact (DefinitionFile.not_provides_of_refused hrefused hprovides).elim
    · obtain rfl := hprovides.eq hprovides'
      exact hstops
    · rw [hcount]
      refine ⟨fun h ↦ ⟨definitions, hprovides, h⟩, ?_⟩
      rintro ⟨definitions', hprovides', h⟩
      obtain rfl := hprovides.eq hprovides'
      exact h
  · obtain ⟨hresult, hreaches⟩ := @createFromFile_of_error _ service path world error
      (DefinitionFile.contents_of_refused hrefused)
    refine ⟨[], hreaches.calls_eq, .inr ⟨error, hrefused⟩, fun error' hrefused' ↦ ?_,
      fun definitions hprovides ↦ ?_, fun count ↦ ?_⟩
    · obtain rfl := hrefused.eq hrefused'
      exact ⟨rfl, hresult⟩
    · exact (DefinitionFile.not_provides_of_refused hrefused hprovides).elim
    · rw [hresult]
      refine iff_of_false nofun ?_
      rintro ⟨definitions, hprovides, -⟩
      exact DefinitionFile.not_provides_of_refused hrefused hprovides

/-- An engine that creates as many indices as its state says, and then no more. -/
def countdown : Engine Nat where
  answer
    | _, 0 => (.error (.transport "closed"), 0)
    | _, n + 1 => (.ok .null, n)

def countdownService : Service Nat := ⟨countdown, {}, none⟩

/-- One index more can be created, and a file defines three. -/
def countdownWorld : World Nat :=
  .start 1 (fileOf "/indices/list.json" (listJson sparseDefinitions) .compact)

theorem provides_countdownWorld :
    Provides countdownWorld.files "/indices/list.json" sparseDefinitions := by
  have hprintable := DefinitionFile.isPrintable_sparseDefinitions
  have hpath : Files.empty.directories.NamesFile "/indices/list.json" := by decide +kernel
  have hholds := DefinitionFile.holds_fileOf hpath (DefinitionFile.hasWords_listJson hprintable)
    .compact
  exact (DefinitionFile.provides_iff_of_holds hholds).mpr
    ⟨(DefinitionFile.isListOf_listJson hprintable).ofTree?, DefinitionFile.named_sparseDefinitions⟩

/-- The second index cannot be created, so the third one is left alone. -/
theorem createFromFile_stops_countdown :
    (countdownService.createFromFile "/indices/list.json" countdownWorld).2.calls
        = (sparseDefinitions.take 2).map .createIndex ∧
      (countdownService.createFromFile "/indices/list.json" countdownWorld).1
        = .error (.engine (.transport "closed")) := by
  obtain ⟨calls, hcalls, -, -, hstops, -⟩ :=
    createFromFile_stops countdownService "/indices/list.json" countdownWorld
  have hstopped : StopsAtFailure countdown 1 sparseDefinitions calls _ :=
    hstops sparseDefinitions provides_countdownWorld
  have hnone : countdownWorld.calls = [] := rfl
  rw [hcalls, hnone, List.nil_append]
  generalize (countdownService.createFromFile "/indices/list.json" countdownWorld).1 = result
    at hstopped ⊢
  generalize hdefinitions : sparseDefinitions = definitions at hstopped ⊢
  cases hstopped with
  | created h =>
    subst hdefinitions
    cases h
  | @failed before after definition error hbefore hfailed =>
    match before with
    | [] => cases hfailed
    | [first] =>
      cases hfailed
      exact ⟨rfl, rfl⟩
    | _ :: _ :: _ => cases hbefore

end Service

end ResourceSearch
