import ResourceSearch.Proofs.Engine.Plans
import ResourceSearch.Proofs.Routing
import ResourceSearch.Proofs.Script.Changes

/-!
# What becomes of a schema change

A schema change is carried out as a whole or not at all. Either it asks nothing of the engine and is
passed over, or it makes a single call and ends as that call ends. It is passed over if it does not
say enough, or if the type that it is made for and the parents of this type lead to no index that
exists.

Which type that is, a list of renames says by its last complete entry; the entries that come after
it, and any others that are not complete, do not count (`isFor_iff`). A failure is handed to the
caller with what had been sent.
-/

namespace ResourceSearch

open World (Reaches)

namespace SchemaChange

/-! ## What a change is made for -/

/-- Whether a change does not say enough to be carried out. -/
def IsIncomplete : SchemaChange → Prop
  | rename renames => ∀ rename ∈ renames, rename.isComplete = false
  | assign _ => False
  | remove removal => removal.name = "" ∨ removal.resourceType = ""

/-- Whether a change is made for a type with some parents. Of several renames the last complete one
decides. -/
inductive IsFor : SchemaChange → String → List String → Prop
  | rename {before after : List PropertyRename} {last : PropertyRename} :
    last.isComplete = true → (∀ later ∈ after, later.isComplete = false) →
      IsFor (.rename (before ++ last :: after)) last.resourceType last.parentClasses
  | assign (assignment : PropertyAssignment) :
    IsFor (.assign assignment) assignment.resourceType assignment.parentClasses
  | remove {removal : PropertyRemoval} : removal.name ≠ "" → removal.resourceType ≠ "" →
    IsFor (.remove removal) removal.resourceType removal.parentClasses

/-- The last complete rename is the one that only incomplete ones come after. -/
theorem getLast?_filter_isComplete_eq_some_iff {renames : List PropertyRename}
    {last : PropertyRename} :
    (renames.filter PropertyRename.isComplete).getLast? = some last ↔
      last.isComplete = true ∧ ∃ before after, renames = before ++ last :: after ∧
        ∀ later ∈ after, later.isComplete = false := by
  rw [List.getLast?_filter, List.find?_eq_some_iff_append]
  refine and_congr_right fun _ ↦ ?_
  constructor
  · rintro ⟨after, before, hreverse, hafter⟩
    refine ⟨before.reverse, after.reverse, ?_, fun later hlater ↦ ?_⟩
    · rw [List.reverse_eq_append_iff.mp hreverse, List.reverse_cons, List.append_assoc,
        List.singleton_append]
    · simpa using hafter later (List.mem_reverse.mp hlater)
  · rintro ⟨before, after, rfl, hafter⟩
    refine ⟨after.reverse, before.reverse, ?_, fun later hlater ↦ ?_⟩
    · rw [List.reverse_append, List.reverse_cons, List.append_assoc, List.singleton_append]
    · simpa using hafter later (List.mem_reverse.mp hlater)

variable {change : SchemaChange} {update : ScriptedUpdate} {type : String} {parents : List String}

theorem update?_eq_none_iff : change.update? = none ↔ change.IsIncomplete := by
  cases change with
  | rename renames =>
    rw [update?, Option.map_eq_none_iff, List.getLast?_eq_none_iff, List.filter_eq_nil_iff]
    simp only [Bool.not_eq_true, IsIncomplete]
  | assign assignment => exact iff_of_false (Option.some_ne_none _) id
  | remove removal =>
    rw [update?, ite_eq_left_iff, IsIncomplete, Bool.or_eq_true, decide_eq_true_eq,
      decide_eq_true_eq]
    constructor
    · exact fun h ↦ Decidable.byContradiction fun hsays ↦ Option.some_ne_none _ (h hsays)
    · exact fun h hsays ↦ absurd h hsays

theorem isFor_iff :
    change.IsFor type parents ↔
      ∃ update, change.update? = some update ∧ update.resourceType = type ∧
        update.parentClasses = parents := by
  constructor
  · intro h
    cases h with
    | @rename before after last hlast hafter =>
      have hfound := getLast?_filter_isComplete_eq_some_iff.mpr ⟨hlast, before, after, rfl, hafter⟩
      exact ⟨_, congrArg (Option.map _) hfound, rfl, rfl⟩
    | assign assignment => exact ⟨_, rfl, rfl, rfl⟩
    | remove hname htype =>
      exact ⟨_, if_neg (by simp [hname, htype]), rfl, rfl⟩
  · rintro ⟨update, hupdate, rfl, rfl⟩
    cases change with
    | rename renames =>
      obtain ⟨last, hfound, rfl⟩ := Option.map_eq_some_iff.mp hupdate
      obtain ⟨hlast, before, after, rfl, hafter⟩ :=
        getLast?_filter_isComplete_eq_some_iff.mp hfound
      exact .rename hlast hafter
    | assign assignment =>
      cases hupdate
      exact .assign assignment
    | remove removal =>
      rw [update?] at hupdate
      split at hupdate
      · cases hupdate
      · rename_i hsays
        cases hupdate
        rw [Bool.or_eq_true, decide_eq_true_eq, decide_eq_true_eq, not_or] at hsays
        exact .remove hsays.1 hsays.2

theorem isFor_of_update? (h : change.update? = some update) :
    change.IsFor update.resourceType update.parentClasses :=
  isFor_iff.mpr ⟨update, h, rfl, rfl⟩

theorem IsFor.eq (h : change.IsFor type parents) (hupdate : change.update? = some update) :
    type = update.resourceType ∧ parents = update.parentClasses := by
  obtain ⟨update', hupdate', rfl, rfl⟩ := isFor_iff.mp h
  rw [hupdate, Option.some.injEq] at hupdate'
  exact ⟨congrArg _ hupdate'.symm, congrArg _ hupdate'.symm⟩

/-! ## How a run ends -/

variable {σ : Type} {routing : RoutingTable} {engine : Engine σ} {world : World σ}

theorem request?_eq_none_iff :
    change.request? routing = none ↔
      change.IsIncomplete ∨ ∃ type parents, change.IsFor type parents ∧
        ∀ index, routing.LeadsTo (type :: parents) index → index = unclassified := by
  rw [← update?_eq_none_iff, request?]
  simp only [← RoutingTable.indexForTypeOrAncestors_eq_unclassified_iff]
  cases hupdate : change.update? with
  | none => exact iff_of_true rfl (.inl rfl)
  | some update =>
    dsimp only
    rw [ite_eq_left_iff, or_iff_right (Option.some_ne_none update)]
    constructor
    · intro h
      refine ⟨_, _, isFor_of_update? hupdate, ?_⟩
      exact Decidable.byContradiction fun hne ↦ Option.some_ne_none _ (h hne)
    · rintro ⟨type, parents, hfor, hindex⟩ hne
      obtain ⟨rfl, rfl⟩ := hfor.eq hupdate
      exact absurd hindex hne

/-- A change that asks for nothing is passed over. -/
theorem run_of_request?_eq_none (h : change.request? routing = none) :
    (change.run routing engine world).1 = .ok () := by
  rw [request?] at h
  rw [run]
  cases hupdate : change.update? with
  | none => rfl
  | some update =>
    rw [hupdate] at h
    dsimp only at h ⊢
    by_cases hindex : update.index routing = unclassified
    · rw [if_pos (by simpa [isUnclassified] using hindex)]
      rfl
    · rw [if_neg hindex] at h
      cases h

theorem run_of_request? {request : UpdateRequest} (engine : Engine σ) (world : World σ)
    (h : change.request? routing = some request) :
    ∃ update, change.update? = some update ∧ update.request routing = request ∧
      update.index routing ≠ unclassified ∧
      (change.run routing engine world).1
        = match (engine.answer (.updateByQuery request) world.engine).1 with
          | .ok _ => .ok ()
          | .error cause => .error ⟨change, update, cause⟩ := by
  rw [request?] at h
  rw [run]
  cases hupdate : change.update? with
  | none =>
    rw [hupdate] at h
    cases h
  | some update =>
    rw [hupdate] at h
    dsimp only at h ⊢
    by_cases hindex : update.index routing = unclassified
    · rw [if_pos hindex] at h
      cases h
    · rw [if_neg hindex, Option.some.injEq] at h
      subst h
      refine ⟨update, rfl, rfl, hindex, ?_⟩
      rw [if_neg (by simpa [isUnclassified] using hindex), Run.bind_apply, Run.bind_apply]
      have hanswer : (Run.call engine (.updateByQuery (update.request routing))
          (Run.log .debug "Updating documents by query"
            (update.context routing ++ [("script", .string update.script.text)]) world).2).1
          = (engine.answer (.updateByQuery (update.request routing)) world.engine).1 := rfl
      rw [hanswer]
      cases (engine.answer (.updateByQuery (update.request routing)) world.engine).1 with
      | ok _ => rfl
      | error _ => rfl

end SchemaChange

/-! ## What a failure tells -/

/-- The type, or the resource, whose documents a request is about. -/
def UpdateRequest.resourceType? (request : UpdateRequest) : Option String :=
  (request.body.path? ["query", "multi_match", "query"]).bind Json.string?

theorem ScriptedUpdate.resourceType?_request (update : ScriptedUpdate) (routing : RoutingTable) :
    (update.request routing).resourceType? = some update.resourceType := rfl

/-- Whether an error is about a change and tells what had been sent for it, and why this failed. -/
structure SchemaChangeError.Reports (error : SchemaChangeError) (change : SchemaChange)
    (request : UpdateRequest) (cause : EngineError) : Prop where
  change_eq : error.change = change
  script_eq : request.scriptText? = some error.script
  resourceType_eq : request.resourceType? = some error.update.resourceType
  cause_eq : error.cause = cause
  message_eq : error.message = "failed to " ++ change.deed ++ " by script \x60" ++ error.script ++
    "\x60 for type " ++ error.update.resourceType ++ ": " ++ cause.message

namespace SchemaChange

variable {σ : Type}

/-- **A schema change is carried out as a whole or not at all, and no failure is swallowed.** A
change makes no call, and succeeds, exactly if it is incomplete or is made for a type that leads to
no index that exists. Otherwise it makes a single call, for the index that this type leads to; it
succeeds exactly if the call does, and its failure reports the change, what was sent and the failure
of the call. -/
theorem outcome_of_run (change : SchemaChange) (routing : RoutingTable) (engine : Engine σ)
    (world : World σ) :
    ∃ (requests : List UpdateRequest) (result : Except SchemaChangeError Unit) (after : World σ),
      change.run routing engine world = (result, after) ∧
      after.calls = world.calls ++ requests.map .updateByQuery ∧
      requests.length ≤ 1 ∧
      (requests = [] ↔ change.IsIncomplete ∨ ∃ type parents, change.IsFor type parents ∧
        ∀ index, routing.LeadsTo (type :: parents) index → index = unclassified) ∧
      (requests = [] → result = .ok ()) ∧
      ∀ request ∈ requests,
        request.index ≠ unclassified ∧
        request.scriptText? = some change.action.script.text ∧
        (∃ type parents, change.IsFor type parents ∧
          routing.LeadsTo (type :: parents) request.index ∧ request.resourceType? = some type) ∧
        (result = .ok () ↔
          ∃ response, (engine.answer (.updateByQuery request) world.engine).1 = .ok response) ∧
        ∀ error, result = .error error → ∃ cause,
          (engine.answer (.updateByQuery request) world.engine).1 = .error cause ∧
            error.Reports change request cause := by
  have hcalls := calls_run change routing engine world
  cases hrequest : change.request? routing with
  | none =>
    rw [hrequest] at hcalls
    refine ⟨[], _, _, rfl, hcalls, Nat.zero_le _, ?_, fun _ ↦ run_of_request?_eq_none hrequest,
      nofun⟩
    exact iff_of_true rfl (request?_eq_none_iff.mp hrequest)
  | some request =>
    rw [hrequest] at hcalls
    obtain ⟨update, hupdate, rfl, hindex, hresult⟩ := run_of_request? engine world hrequest
    refine ⟨[update.request routing], (change.run routing engine world).1, _, rfl, hcalls,
      Nat.le_refl 1, ?_, nofun, ?_⟩
    · refine iff_of_false nofun ?_
      rw [← request?_eq_none_iff, hrequest]
      exact Option.some_ne_none _
    · rw [List.forall_mem_singleton, hresult]
      refine ⟨hindex, (scriptText?_of_request? hrequest).1, ?_, ?_⟩
      · exact ⟨_, _, isFor_of_update? hupdate,
          (RoutingTable.leadsTo_iff_indexForTypeOrAncestors_eq hindex).mpr rfl,
          update.resourceType?_request routing⟩
      · cases (engine.answer (.updateByQuery (update.request routing)) world.engine).1 with
        | ok response => exact ⟨iff_of_true rfl ⟨response, rfl⟩, nofun⟩
        | error cause =>
          refine ⟨iff_of_false nofun nofun, ?_⟩
          rintro error herror
          cases herror
          exact ⟨cause, rfl, rfl, update.scriptText?_request routing,
            update.resourceType?_request routing, rfl, rfl⟩

/-- Renames of which the last one is not complete, and the one before it is made for a type that
only has an entry by one of its parents. -/
def lateRename : SchemaChange :=
  .rename
    [⟨"a", "b", ResourceClass.item, []⟩,
      ⟨"c", "d", "urn:exam", ["urn:paper", ResourceClass.test, ResourceClass.item]⟩,
      ⟨"e", "", ResourceClass.group, []⟩]

/-- What the complete ones among them ask for. -/
def lateUpdate : ScriptedUpdate :=
  ⟨"urn:exam", ["urn:paper", ResourceClass.test, ResourceClass.item],
    [.copy "a" "b", .copy "c" "d", .remove "a", .remove "c"]⟩

/-- When the engine refuses these renames, the failure tells of the last complete one. -/
theorem outcome_of_lateRename :
    ∃ request error,
      (lateRename.run .builtIn ⟨fun _ state ↦ (.error (.rejected 409 "conflict"), state)⟩
        (World.start () .empty)).2.calls = [.updateByQuery request] ∧
      (lateRename.run .builtIn ⟨fun _ state ↦ (.error (.rejected 409 "conflict"), state)⟩
        (World.start () .empty)).1 = .error error ∧
      request.index = Index.tests ∧ error.update.resourceType = "urn:exam" ∧
      error.script = lateUpdate.script.text ∧ error.cause = .rejected 409 "conflict" := by
  obtain ⟨requests, result, after, hrun, hcalls, hone, hnone, -, hsent⟩ :=
    outcome_of_run lateRename .builtIn
      ⟨fun _ state ↦ (.error (.rejected 409 "conflict"), state)⟩ (World.start () .empty)
  have hupdate : lateRename.update? = some lateUpdate := by decide +kernel
  have htests : lateUpdate.index .builtIn = Index.tests := by decide +kernel
  have hne : requests ≠ [] := by
    rw [ne_eq, hnone, ← update?_eq_none_iff, hupdate]
    rintro (h | ⟨type, parents, hfor, hleads⟩)
    · cases h
    · obtain ⟨rfl, rfl⟩ := hfor.eq hupdate
      rw [← RoutingTable.indexForTypeOrAncestors_eq_unclassified_iff] at hleads
      exact absurd (htests.symm.trans hleads) (by decide)
  match requests, hne, hone with
  | [request], _, _ =>
    obtain ⟨hindex, hscript, ⟨type, parents, hfor, hleads, htype⟩, hok, herror⟩ :=
      hsent request List.mem_cons_self
    obtain ⟨rfl, rfl⟩ := hfor.eq hupdate
    rw [RoutingTable.leadsTo_iff_indexForTypeOrAncestors_eq hindex] at hleads
    cases result with
    | ok done =>
      obtain ⟨response, hresponse⟩ := hok.mp rfl
      cases hresponse
    | error error =>
      obtain ⟨cause, hcause, hreports⟩ := herror error rfl
      have htold : error.update.resourceType = lateUpdate.resourceType :=
        Option.some.inj (hreports.resourceType_eq.symm.trans htype)
      have hsame : error.script = lateUpdate.script.text := by
        rw [script_of_update? hupdate]
        exact Option.some.inj (hreports.script_eq.symm.trans hscript)
      cases hcause
      exact ⟨request, error, by rw [hrun]; exact hcalls, by rw [hrun], hleads.symm.trans htests,
        htold, hsame, hreports.cause_eq⟩

end SchemaChange

end ResourceSearch
