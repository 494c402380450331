import ResourceSearch.Proofs.Engine.Calls
import ResourceSearch.Proofs.Script.Grammar
import ResourceSearch.SchemaChange

/-!
# The scripts of schema changes

What the engine reads in the script of a change is what the change says about properties: which are
renamed, overwritten or removed, and nothing more. No name and no value makes a script say something
else, so changes that differ in what they do to properties never send the same script.
-/

namespace ResourceSearch

/-- What a change does to properties, whichever documents it concerns. -/
inductive PropertyAction where
  /-- The old and the new names, in order. -/
  | rename (names : List (String × String))
  | assign (name : String) (values : List String)
  | remove (name : String)
deriving DecidableEq, Repr

/-- The statements for an action. Properties that are renamed are all copied before any is removed,
so that no copy finds its source gone. -/
def PropertyAction.script : PropertyAction → Script
  | rename names =>
    (names.map fun name ↦ .copy name.1 name.2) ++ names.map fun name ↦ .remove name.1
  | assign name values => [.assign name values]
  | remove name => [.remove name]

namespace SchemaChange

/-- What a change does to properties. Renames that are not complete do nothing. -/
def action : SchemaChange → PropertyAction
  | rename renames =>
    .rename ((renames.filter PropertyRename.isComplete).map fun rename ↦
      (rename.oldName, rename.newName))
  | assign assignment => .assign assignment.name assignment.values
  | remove removal => .remove removal.name

theorem script_of_update? {change : SchemaChange} {update : ScriptedUpdate}
    (h : change.update? = some update) : update.script = change.action.script := by
  cases change with
  | rename renames =>
    obtain ⟨last, -, rfl⟩ := Option.map_eq_some_iff.mp h
    simp only [renameScript, action, PropertyAction.script, List.map_map]
    rfl
  | assign assignment =>
    cases h
    rfl
  | remove removal =>
    rw [update?] at h
    split at h
    · cases h
    · cases h
      rfl

/-! ## What is sent -/

/-- The request that a change makes of the engine: none if it asks for nothing, or in an index that
does not exist. -/
def request? (change : SchemaChange) (routing : RoutingTable) : Option UpdateRequest :=
  match change.update? with
  | none => none
  | some update =>
    if update.index routing = unclassified then none else some (update.request routing)

variable {σ : Type}

theorem calls_run (change : SchemaChange) (routing : RoutingTable) (engine : Engine σ)
    (world : World σ) :
    (change.run routing engine world).2.calls
      = world.calls ++ ((change.request? routing).map Call.updateByQuery).toList := by
  rw [run, request?]
  cases change.update? with
  | none => exact (List.append_nil _).symm
  | some update =>
    dsimp only
    by_cases hindex : update.index routing = unclassified
    · rw [if_pos hindex, if_pos (by simpa [isUnclassified] using hindex)]
      exact (List.append_nil _).symm
    · rw [if_neg hindex, if_neg (by simpa [isUnclassified] using hindex), Run.bind_apply,
        Run.calls_bind_of_silent fun answer after ↦ ?_, Run.calls_call]
      · rfl
      · -- whatever the engine answers, no other call is made
        cases answer with
        | ok _ => rfl
        | error _ => rfl

theorem request?_of_calls_run {change : SchemaChange} {routing : RoutingTable} {engine : Engine σ}
    {world : World σ} {request : UpdateRequest}
    (h : (change.run routing engine world).2.calls = world.calls ++ [.updateByQuery request]) :
    change.request? routing = some request := by
  rw [calls_run] at h
  have hsent := List.append_cancel_left h
  cases hmade : change.request? routing with
  | none =>
    rw [hmade] at hsent
    cases hsent
  | some made =>
    rw [hmade] at hsent
    cases hsent
    rfl

end SchemaChange

/-- The text of the script that a request carries. -/
def UpdateRequest.scriptText? (request : UpdateRequest) : Option String :=
  (request.body.path? ["script", "source"]).bind Json.string?

theorem ScriptedUpdate.scriptText?_request (update : ScriptedUpdate) (routing : RoutingTable) :
    (update.request routing).scriptText? = some update.script.text := by
  rfl

namespace SchemaChange

theorem scriptText?_of_request? {change : SchemaChange} {routing : RoutingTable}
    {request : UpdateRequest} (h : change.request? routing = some request) :
    request.scriptText? = some change.action.script.text ∧ change.action ≠ .rename [] := by
  rw [request?] at h
  split at h
  · cases h
  · rename_i update hupdate
    split at h
    · cases h
    · cases h
      rw [update.scriptText?_request, script_of_update? hupdate]
      refine ⟨rfl, ?_⟩
      cases change with
      | rename renames =>
        obtain ⟨last, hlast, -⟩ := Option.map_eq_some_iff.mp hupdate
        have hmem := List.mem_of_getLast? hlast
        rw [action, ne_eq, PropertyAction.rename.injEq, List.map_eq_nil_iff]
        exact List.ne_nil_of_mem hmem
      | assign assignment => exact nofun
      | remove removal => exact nofun

end SchemaChange

/-! ## What a script tells about its change -/

/-- The names that a statement copies from and to. -/
def Statement.copied? : Statement → Option (String × String)
  | .copy source target => some (source, target)
  | .remove _ | .assign _ _ => none

theorem filterMap_copied?_script (names : List (String × String)) :
    (PropertyAction.rename names).script.filterMap Statement.copied? = names := by
  rw [PropertyAction.script, List.filterMap_append, List.filterMap_map, List.filterMap_map]
  have hcopies : Statement.copied? ∘ (fun name : String × String ↦ .copy name.1 name.2) = some :=
    rfl
  have hremovals :
      Statement.copied? ∘ (fun name : String × String ↦ .remove name.1) = fun _ ↦ none := rfl
  rw [hcopies, hremovals, List.filterMap_some, List.filterMap_none, List.append_nil]

/-- An action can be told from its script, except that an empty rename has none. -/
theorem PropertyAction.eq_of_script_eq {a b : PropertyAction} (ha : a ≠ .rename [])
    (hb : b ≠ .rename []) (h : a.script = b.script) : a = b := by
  have hcopied := congrArg (List.filterMap Statement.copied?) h
  cases a with
  | rename names =>
    rw [filterMap_copied?_script] at hcopied
    -- only a rename copies, and one that copies nothing is empty
    cases b with
    | rename names' =>
      rw [filterMap_copied?_script] at hcopied
      rw [hcopied]
    | assign name values => exact absurd (congrArg rename hcopied) ha
    | remove name => exact absurd (congrArg rename hcopied) ha
  | assign name values =>
    cases b with
    | rename names =>
      rw [filterMap_copied?_script] at hcopied
      exact absurd (congrArg rename hcopied.symm) hb
    | assign name' values' =>
      cases h
      rfl
    | remove name' => cases h
  | remove name =>
    cases b with
    | rename names =>
      rw [filterMap_copied?_script] at hcopied
      exact absurd (congrArg rename hcopied.symm) hb
    | assign name' values' => cases h
    | remove name' =>
      cases h
      rfl

namespace SchemaChange

variable {σ : Type}

/-- **Script text cannot be broken out of.** A change that is sent is sent as one script, which can
be read in one way: as the statements for what the change does to properties. Any other change that
sends the same text does the same to properties. -/
theorem script_of_run_spells_action (change : SchemaChange) (routing : RoutingTable)
    {update : ScriptedUpdate} (hupdate : change.update? = some update)
    (hindex : update.index routing ≠ unclassified) (engine : Engine σ) (world : World σ) :
    ∃ (request : UpdateRequest) (text : String),
      (change.run routing engine world).2.calls = world.calls ++ [.updateByQuery request] ∧
      request.scriptText? = some text ∧
      (∀ script, Script.Spells text.toList script ↔ script = change.action.script) ∧
      ∀ (change' : SchemaChange) (routing' : RoutingTable) (τ : Type) (engine' : Engine τ)
        (world' : World τ) (request' : UpdateRequest),
        (change'.run routing' engine' world').2.calls
            = world'.calls ++ [.updateByQuery request'] →
          request'.scriptText? = some text → change'.action = change.action := by
  have hrequest : change.request? routing = some (update.request routing) := by
    rw [request?, hupdate]
    exact if_neg hindex
  obtain ⟨htext, hnonempty⟩ := scriptText?_of_request? hrequest
  refine ⟨update.request routing, change.action.script.text, ?_, htext,
    fun script ↦ Script.spells_text_iff, ?_⟩
  · rw [calls_run, hrequest]
    rfl
  · intro change' routing' τ engine' world' request' hcalls' htext'
    obtain ⟨hscript', hnonempty'⟩ := scriptText?_of_request? (request?_of_calls_run hcalls')
    rw [htext', Option.some.injEq] at hscript'
    refine PropertyAction.eq_of_script_eq hnonempty' hnonempty ?_
    refine Script.spells_text_iff.mp ?_
    rw [hscript']
    exact Script.spells_text _

/-- A rename to a name that spells the end of a literal and a statement of its own. -/
def hostileRename : SchemaChange :=
  .rename
    [⟨"a'b", "x'); ctx._source.clear(); ('", ResourceClass.item, []⟩,
      ⟨"", "c", ResourceClass.item, []⟩]

theorem script_of_hostileRename :
    (∃ update, hostileRename.update? = some update ∧
      update.index RoutingTable.builtIn ≠ unclassified) ∧
    ∃ (request : UpdateRequest) (text : String),
      (hostileRename.run RoutingTable.builtIn ⟨fun _ state ↦ (.ok .null, state)⟩
        (World.start () Files.empty)).2.calls = [.updateByQuery request] ∧
      request.scriptText? = some text ∧
      ∀ script, Script.Spells text.toList script ↔
        script = [.copy "a'b" "x'); ctx._source.clear(); ('", .remove "a'b"] := by
  have hrouted : ∃ update, hostileRename.update? = some update ∧
      update.index RoutingTable.builtIn ≠ unclassified := ⟨_, rfl, by decide +kernel⟩
  refine ⟨hrouted, ?_⟩
  obtain ⟨update, hupdate, hindex⟩ := hrouted
  obtain ⟨request, text, hcalls, htext, hspells, -⟩ :=
    script_of_run_spells_action hostileRename RoutingTable.builtIn hupdate hindex
      ⟨fun _ state ↦ (.ok .null, state)⟩ (World.start () Files.empty)
  exact ⟨request, text, hcalls, htext, hspells⟩

end SchemaChange

end ResourceSearch
