import ResourceSearch.Proofs.Script.Changes

/-!
# Renaming several properties at once

A list of renames asks for all of them at once: each new name is to hold what its old name held
before. The script that is sent for it makes all copies first and then all removals, one after the
other, so a copy may read what an earlier copy has written, and a removal may delete it.

## Where a value comes from

After the copies, the value under a name is one that the document had before, and following the
copies backwards from the last one tells under which name: this is `origin`. It needs no assumption
on the names, so the outcome of every script is known, and whether it is the outcome that the list
asks for only depends on the names: it is unless an old name is also a new one.
-/

namespace ResourceSearch

/-- The old and the new names of the renames that are complete, in order. -/
def completeNames (renames : List PropertyRename) : List (String × String) :=
  (renames.filter PropertyRename.isComplete).map fun rename ↦ (rename.oldName, rename.newName)

theorem SchemaChange.action_rename (renames : List PropertyRename) :
    (SchemaChange.rename renames).action = .rename (completeNames renames) := rfl

/-- The fields of a document before and after properties were renamed at once. -/
structure RenamedAtOnce (names : List (String × String)) (before after : Dict String Json) :
    Prop where
  /-- Each new name holds what its old name held. -/
  renamed : ∀ name ∈ names, after.get? name.2 = before.get? name.1
  /-- An old name is gone unless it is given again. -/
  removed : ∀ name ∈ names, name.1 ∉ names.map Prod.snd → after.get? name.1 = none
  /-- Properties that no rename mentions are as they were. -/
  unchanged : ∀ key, key ∉ names.map Prod.fst → key ∉ names.map Prod.snd →
    after.get? key = before.get? key
  /-- No value is lost, unless its name was given to another one and it got no name itself. -/
  kept : ∀ key value, before.get? key = some value →
    (key ∈ names.map Prod.snd → key ∈ names.map Prod.fst) → ∃ key', after.get? key' = some value

/-! ## Copies -/

/-- The name under which a document had the value that stands under a name after some copies. -/
def origin : List (String × String) → String → String
  | [], key => key
  | (old, new) :: names, key => if origin names key = new then old else origin names key

/-- What copies leave under a name, in a document that has all they read. -/
theorem get?_run_copies (names : List (String × String)) (fields : Dict String Json)
    (h : ∀ name ∈ names, (fields.get? name.1).isSome) (key : String) :
    (Script.run (names.map fun name ↦ .copy name.1 name.2) fields).get? key
      = fields.get? (origin names key) := by
  induction names generalizing fields with
  | nil => rfl
  | cons name names ih =>
    obtain ⟨old, new⟩ := name
    obtain ⟨hold, hnames⟩ := List.forall_mem_cons.mp h
    obtain ⟨value, hvalue⟩ := Option.isSome_iff_exists.mp hold
    have hstep : Script.run (((old, new) :: names).map fun name ↦ .copy name.1 name.2) fields
        = Script.run (names.map fun name ↦ .copy name.1 name.2) (fields.insert new value) := by
      rw [List.map_cons, Script.run, List.foldl_cons, Statement.run, hvalue]
      rfl
    -- A copy takes no property away, so the document still has all that the other copies read.
    have hcarried : ∀ name ∈ names, ((fields.insert new value).get? name.1).isSome := by
      intro name hname
      by_cases hnew : name.1 = new
      · rw [hnew, Dict.get?_insert_self]
        rfl
      · rw [Dict.get?_insert_of_ne fields hnew]
        exact hnames name hname
    rw [hstep, ih _ hcarried, origin]
    by_cases horigin : origin names key = new
    · rw [if_pos horigin, horigin, Dict.get?_insert_self, hvalue]
    · rw [if_neg horigin, Dict.get?_insert_of_ne fields horigin]

theorem origin_of_not_mem {names : List (String × String)} {key : String}
    (h : key ∉ names.map Prod.snd) : origin names key = key := by
  induction names with
  | nil => rfl
  | cons name names ih =>
    rw [List.map_cons, List.mem_cons, not_or] at h
    rw [origin, ih h.2, if_neg h.1]

/-- A copy whose source no copy writes passes on the value that its source had from the start. -/
theorem origin_of_mem {names : List (String × String)} (hnew : (names.map Prod.snd).Nodup)
    (hold : ∀ old ∈ names.map Prod.fst, old ∉ names.map Prod.snd) {name : String × String}
    (hname : name ∈ names) : origin names name.2 = name.1 := by
  induction names with
  | nil => cases hname
  | cons first names ih =>
    rw [List.map_cons, List.nodup_cons] at hnew
    rw [origin]
    rcases List.mem_cons.mp hname with rfl | hname
    · rw [origin_of_not_mem hnew.1, if_pos rfl]
    · have hrest : ∀ old ∈ names.map Prod.fst, old ∉ names.map Prod.snd := fun old hmem hmem' ↦
        hold old (List.mem_cons_of_mem _ hmem) (List.mem_cons_of_mem _ hmem')
      -- The first copy does not write what this one reads.
      have hne : name.1 ≠ first.2 := fun heq ↦
        hold name.1 (List.mem_cons_of_mem _ (List.mem_map_of_mem hname))
          (heq ▸ List.mem_cons_self)
      rw [ih hnew.2 hrest hname, if_neg hne]

/-! ## Whole scripts -/

theorem get?_run_removals (names : List (String × String)) (fields : Dict String Json)
    (key : String) :
    (Script.run (names.map fun name ↦ .remove name.1) fields).get? key
      = if key ∈ names.map Prod.fst then none else fields.get? key := by
  induction names generalizing fields with
  | nil => rfl
  | cons name names ih =>
    have hstep : Script.run ((name :: names).map fun name ↦ .remove name.1) fields
        = Script.run (names.map fun name ↦ .remove name.1) (fields.erase name.1) := rfl
    rw [hstep, ih, List.map_cons]
    by_cases hkey : key = name.1
    · rw [hkey, Dict.get?_erase_self, if_pos List.mem_cons_self, ite_self]
    · rw [Dict.get?_erase_of_ne fields hkey]
      simp only [List.mem_cons, hkey, false_or]

/-- What the script of a rename leaves under a name. -/
theorem get?_run_rename (names : List (String × String)) (fields : Dict String Json)
    (h : ∀ name ∈ names, (fields.get? name.1).isSome) (key : String) :
    ((PropertyAction.rename names).script.run fields).get? key
      = if key ∈ names.map Prod.fst then none else fields.get? (origin names key) := by
  rw [PropertyAction.script, Script.run_append, get?_run_removals, get?_run_copies names fields h]

/-- A script renames at once if no old name is a new one too. -/
theorem renamedAtOnce_run {names : List (String × String)} (hnew : (names.map Prod.snd).Nodup)
    (hold : ∀ old ∈ names.map Prod.fst, old ∉ names.map Prod.snd) {fields : Dict String Json}
    (h : ∀ name ∈ names, (fields.get? name.1).isSome) :
    RenamedAtOnce names fields ((PropertyAction.rename names).script.run fields) := by
  have hrenamed : ∀ name ∈ names,
      ((PropertyAction.rename names).script.run fields).get? name.2 = fields.get? name.1 := by
    intro name hname
    have hnot : name.2 ∉ names.map Prod.fst := fun hmem ↦
      hold name.2 hmem (List.mem_map_of_mem hname)
    rw [get?_run_rename names fields h, if_neg hnot, origin_of_mem hnew hold hname]
  have hunchanged : ∀ key, key ∉ names.map Prod.fst → key ∉ names.map Prod.snd →
      ((PropertyAction.rename names).script.run fields).get? key = fields.get? key := by
    intro key hkey hkey'
    rw [get?_run_rename names fields h, if_neg hkey, origin_of_not_mem hkey']
  refine ⟨hrenamed, fun name hname _ ↦ ?_, hunchanged, fun key value hvalue hnamed ↦ ?_⟩
  · rw [get?_run_rename names fields h, if_pos (List.mem_map_of_mem hname)]
  · -- A value is kept under the new name of its property, or else where it was.
    by_cases hkey : key ∈ names.map Prod.fst
    · obtain ⟨name, hname, rfl⟩ := List.mem_map.mp hkey
      exact ⟨name.2, (hrenamed name hname).trans hvalue⟩
    · exact ⟨key, (hunchanged key hkey fun hmem ↦ hkey (hnamed hmem)).trans hvalue⟩

/-- A new name that is an old one too is deleted with the value that it was given. -/
theorem not_renamedAtOnce_run {names : List (String × String)} {old : String}
    (hold : old ∈ names.map Prod.fst) (hnew : old ∈ names.map Prod.snd)
    {fields : Dict String Json} (h : ∀ name ∈ names, (fields.get? name.1).isSome) :
    ¬ RenamedAtOnce names fields ((PropertyAction.rename names).script.run fields) := by
  intro hat
  obtain ⟨name, hname, rfl⟩ := List.mem_map.mp hnew
  have hgone : ((PropertyAction.rename names).script.run fields).get? name.2 = none := by
    rw [get?_run_rename names fields h, if_pos hold]
  have hvalue := h name hname
  rw [← hat.renamed name hname, hgone] at hvalue
  cases hvalue

/-! ## What is sent -/

namespace SchemaChange

variable {σ : Type}

theorem exists_script_of_run (change : SchemaChange) (routing : RoutingTable)
    {update : ScriptedUpdate} (hupdate : change.update? = some update)
    (hindex : update.index routing ≠ unclassified) (engine : Engine σ) (world : World σ) :
    ∃ (request : UpdateRequest) (text : String),
      (change.run routing engine world).2.calls = world.calls ++ [.updateByQuery request] ∧
      request.scriptText? = some text ∧
      ∀ script, Script.Spells text.toList script ↔ script = change.action.script := by
  have hrequest : change.request? routing = some (update.request routing) := by
    rw [request?, hupdate]
    exact if_neg hindex
  refine ⟨update.request routing, change.action.script.text, ?_,
    (scriptText?_of_request? hrequest).1, fun script ↦ Script.spells_text_iff⟩
  rw [calls_run, hrequest]
  rfl

/-- **What a rename of several properties does.** The script that is sent deletes all old names, and
leaves under any other name the value that the copies brought there. So the properties of a document
that has them are renamed at once, if no old name is a new one too, and they are not otherwise. -/
theorem renamedAtOnce_iff_of_run (renames : List PropertyRename) (routing : RoutingTable)
    {update : ScriptedUpdate} (hupdate : (SchemaChange.rename renames).update? = some update)
    (hindex : update.index routing ≠ unclassified)
    (hnew : ((completeNames renames).map Prod.snd).Nodup) (engine : Engine σ) (world : World σ) :
    ∃ (request : UpdateRequest) (text : String) (sent : Script),
      ((SchemaChange.rename renames).run routing engine world).2.calls
        = world.calls ++ [.updateByQuery request] ∧
      request.scriptText? = some text ∧
      (∀ script, Script.Spells text.toList script ↔ script = sent) ∧
      ∀ fields : Dict String Json,
        (∀ name ∈ completeNames renames, (fields.get? name.1).isSome) →
        (∀ key, (sent.run fields).get? key
          = if key ∈ (completeNames renames).map Prod.fst then none
            else fields.get? (origin (completeNames renames) key)) ∧
        (RenamedAtOnce (completeNames renames) fields (sent.run fields) ↔
          ∀ old ∈ (completeNames renames).map Prod.fst,
            old ∉ (completeNames renames).map Prod.snd) := by
  obtain ⟨request, text, hcalls, htext, hspells⟩ :=
    exists_script_of_run (.rename renames) routing hupdate hindex engine world
  rw [action_rename] at hspells
  refine ⟨request, text, _, hcalls, htext, hspells, fun fields h ↦
    ⟨get?_run_rename _ fields h, ?_, fun hold ↦ renamedAtOnce_run hnew hold h⟩⟩
  intro hat old hold hmem
  exact not_renamedAtOnce_run hold hmem h hat

/-- Two renames of which neither touches the names of the other. -/
def separateRenames : List PropertyRename :=
  [⟨"a", "b", ResourceClass.item, []⟩, ⟨"c", "d", ResourceClass.item, []⟩]

theorem renamedAtOnce_separateRenames :
    ((completeNames separateRenames).map Prod.snd).Nodup ∧
    ∃ (request : UpdateRequest) (text : String) (sent : Script),
      ((rename separateRenames).run RoutingTable.builtIn ⟨fun _ state ↦ (.ok .null, state)⟩
        (World.start () Files.empty)).2.calls = [.updateByQuery request] ∧
      request.scriptText? = some text ∧ Script.Spells text.toList sent ∧
      RenamedAtOnce (completeNames separateRenames)
        (.ofList [("a", .nat 1), ("c", .nat 3), ("e", .nat 5)])
        (sent.run (.ofList [("a", .nat 1), ("c", .nat 3), ("e", .nat 5)])) := by
  have hrouted : ∃ update, (rename separateRenames).update? = some update ∧
      update.index RoutingTable.builtIn ≠ unclassified := ⟨_, rfl, by decide +kernel⟩
  have hnew : ((completeNames separateRenames).map Prod.snd).Nodup := by decide
  refine ⟨hnew, ?_⟩
  obtain ⟨update, hupdate, hindex⟩ := hrouted
  obtain ⟨request, text, sent, hcalls, htext, hspells, hrun⟩ :=
    renamedAtOnce_iff_of_run separateRenames RoutingTable.builtIn hupdate hindex hnew
      ⟨fun _ state ↦ (.ok .null, state)⟩ (World.start () Files.empty)
  exact ⟨request, text, sent, hcalls, htext, (hspells sent).mpr rfl,
    (hrun _ (by decide +kernel)).2.mpr (by decide)⟩

/-- Two renames in a row: the second gives a name that the first has just taken away. -/
def chainedRenames : List PropertyRename :=
  [⟨"b", "c", ResourceClass.item, []⟩, ⟨"a", "b", ResourceClass.item, []⟩]

/-- Renames in a row are not made at once: the value that has moved to the name in the middle is
deleted there. -/
theorem not_renamedAtOnce_chainedRenames :
    ((completeNames chainedRenames).map Prod.snd).Nodup ∧
    (∀ name ∈ completeNames chainedRenames,
      ((Dict.ofList [("a", Json.nat 1), ("b", .nat 2)]).get? name.1).isSome) ∧
    ∃ (request : UpdateRequest) (text : String) (sent : Script),
      ((rename chainedRenames).run RoutingTable.builtIn ⟨fun _ state ↦ (.ok .null, state)⟩
        (World.start () Files.empty)).2.calls = [.updateByQuery request] ∧
      request.scriptText? = some text ∧ Script.Spells text.toList sent ∧
      (sent.run (.ofList [("a", .nat 1), ("b", .nat 2)])).get? "b" = none ∧
      ¬ RenamedAtOnce (completeNames chainedRenames) (.ofList [("a", .nat 1), ("b", .nat 2)])
        (sent.run (.ofList [("a", .nat 1), ("b", .nat 2)])) := by
  have hcarried : ∀ name ∈ completeNames chainedRenames,
      ((Dict.ofList [("a", Json.nat 1), ("b", .nat 2)]).get? name.1).isSome := by decide +kernel
  have hrouted : ∃ update, (rename chainedRenames).update? = some update ∧
      update.index RoutingTable.builtIn ≠ unclassified := ⟨_, rfl, by decide +kernel⟩
  obtain ⟨update, hupdate, hindex⟩ := hrouted
  obtain ⟨request, text, hcalls, htext, hspells⟩ :=
    exists_script_of_run (rename chainedRenames) RoutingTable.builtIn hupdate hindex
      ⟨fun _ state ↦ (.ok .null, state)⟩ (World.start () Files.empty)
  rw [action_rename] at hspells
  have hold : "b" ∈ (completeNames chainedRenames).map Prod.fst := by decide
  have hnew : "b" ∈ (completeNames chainedRenames).map Prod.snd := by decide
  refine ⟨by decide, hcarried, request, text, _, hcalls, htext, (hspells _).mpr rfl, ?_,
    not_renamedAtOnce_run hold hnew hcarried⟩
  rw [get?_run_rename _ _ hcarried, if_pos hold]

end SchemaChange

end ResourceSearch
