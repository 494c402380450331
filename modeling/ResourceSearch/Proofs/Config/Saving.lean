import ResourceSearch.Config.File
import ResourceSearch.Proofs.Files
import ResourceSearch.Proofs.Json.Decoding

/-!
# Saved configurations load back

A configuration that was saved and is valid loads as it was, whatever its strings hold; one that
is not valid is refused with its problems. A file that leaves out some of the settings gives them
their defaults, so the main statement is about the written object without any choice of its fields
(`Json.without`) and says which configuration it loads as (`Config.reset`). As an object has no
order of its own, its fields and those of the objects in it may stand in any order.

Two facts carry the proof. The text of the object is read back to its tree (`Tree.ofText?_render`),
since its only numbers are those of 32 and 64 bits. And each part of a configuration is read from
what it is written as, which is one law for each decoder; a field that is left out is missing from
the record, and there the default steps in.
-/

namespace ResourceSearch

open Json

/-! ## What is written -/

theorem Json.hasWords_uint32 (n : UInt32) : (nat n.toNat).HasWords :=
  hasWords_nat (Nat.lt_trans n.toNat_lt_size (by decide))

theorem Json.hasWords_uint64 (n : UInt64) : (nat n.toNat).HasWords :=
  hasWords_nat n.toNat_lt_size

theorem Route.hasWords (route : Route) : route.toJson.HasWords := by
  refine .object ?_
  simp only [List.forall_mem_cons]
  exact ⟨.string _, .string _, nofun⟩

theorem RoutingTable.hasWords (table : RoutingTable) : table.toJson.HasWords := by
  refine .object ?_
  simp only [List.forall_mem_cons]
  exact ⟨hasWords_array Route.hasWords _, hasWords_dict .string _, hasWords_array .string _, nofun⟩

theorem Auth.hasWords (auth : Auth) : auth.toJson.HasWords := by
  cases auth with
  | basic username password =>
    refine .object (List.forall_mem_singleton.mpr (.object ?_))
    simp only [List.forall_mem_cons]
    exact ⟨.string _, .string _, nofun⟩
  | bearer token =>
    refine .object (List.forall_mem_singleton.mpr (.object ?_))
    exact List.forall_mem_singleton.mpr (.string _)

theorem Autocomplete.hasWords (autocomplete : Autocomplete) : autocomplete.toJson.HasWords := by
  refine .object ?_
  simp only [List.forall_mem_cons]
  exact ⟨hasWords_uint32 _, hasWords_uint32 _, nofun⟩

theorem Config.hasWords (config : Config) : config.toJson.HasWords := by
  refine .object ?_
  simp only [List.forall_mem_cons]
  exact ⟨hasWords_array .string _, hasWords_option Auth.hasWords _, hasWords_uint64 _, .bool _,
    hasWords_option .string _, hasWords_uint64 _, hasWords_uint32 _, hasWords_uint32 _,
    config.autocomplete.hasWords, config.routing.hasWords, nofun⟩

/-! ## Each part is read from what it is written as -/

theorem Json.readsAs_uint32 (n : UInt32) : (nat n.toNat).ReadsAs Tree.uint32? n := by
  intro json' h
  rw [Tree.uint32?, readsAs_nat n.toNat_lt_size json' h]
  exact congrArg some (UInt32.ofNat_toNat)

theorem Json.readsAs_uint64 (n : UInt64) : (nat n.toNat).ReadsAs Tree.uint64? n := by
  intro json' h
  rw [Tree.uint64?, readsAs_nat n.toNat_lt_size json' h]
  exact congrArg some (UInt64.ofNat_toNat)

theorem Route.readsAs (route : Route) : route.toJson.ReadsAs Route.ofTree? route := by
  intro json' h
  obtain ⟨record, hrecord, hshows⟩ :=
    exists_record_of_reorders ["resource_type", "index"] (by decide) (.refl _) h
  simp only [Route.ofTree?, hrecord,
    hshows.required "resource_type" rfl (readsAs_string route.resourceType),
    hshows.required "index" rfl (readsAs_string route.index), Option.bind_eq_bind,
    Option.bind_some]
  rfl

theorem NameSet.ofNames_keys (names : NameSet) : NameSet.ofNames names.keys = names := by
  refine Dict.ofList_eq_of_perm (.of_eq ?_)
  rw [Dict.keys, List.map_map]
  exact List.map_id _

theorem RoutingTable.readsAs (table : RoutingTable) :
    table.toJson.ReadsAs RoutingTable.ofTree? table := by
  intro json' h
  obtain ⟨record, hrecord, hshows⟩ := exists_record_of_reorders
    ["classes", "structures", "access_controlled"] (by decide) (.refl _) h
  simp only [RoutingTable.ofTree?, hrecord,
    hshows.required "classes" rfl (readsAs_array Route.readsAs table.classes),
    hshows.withDefault "structures" rfl (readsAs_dict readsAs_string table.structures),
    hshows.withDefault "access_controlled" rfl (readsAs_strings table.accessControlled.keys),
    Option.bind_eq_bind, Option.bind_some, NameSet.ofNames_keys]
  rfl

theorem Autocomplete.readsAs (autocomplete : Autocomplete) :
    autocomplete.toJson.ReadsAs Autocomplete.ofTree? autocomplete := by
  intro json' h
  obtain ⟨record, hrecord, hshows⟩ :=
    exists_record_of_reorders ["min_gram", "max_gram"] (by decide) (.refl _) h
  simp only [Autocomplete.ofTree?, hrecord,
    hshows.withDefault "min_gram" rfl (readsAs_uint32 autocomplete.minGram),
    hshows.withDefault "max_gram" rfl (readsAs_uint32 autocomplete.maxGram),
    Option.bind_eq_bind, Option.bind_some]
  rfl

/-- The field that names the form of authentication stands alone, so it is found at once. -/
theorem Auth.readsAs (auth : Auth) : auth.toJson.ReadsAs Auth.ofTree? auth := by
  intro json' h
  cases auth with
  | basic username password =>
    cases h with
    | object hfields =>
      obtain ⟨value', rfl, hvalue⟩ := hfields.exists_eq_singleton
      obtain ⟨record, hrecord, hshows⟩ :=
        exists_record_of_reorders ["username", "password"] (by decide) (.refl _) hvalue
      simp only [toTree, fieldTrees, Auth.ofTree?, hrecord,
        hshows.required "username" rfl (readsAs_string username),
        hshows.required "password" rfl (readsAs_string password),
        Option.bind_eq_bind, Option.bind_some]
      rfl
  | bearer token =>
    cases h with
    | object hfields =>
      obtain ⟨value', rfl, hvalue⟩ := hfields.exists_eq_singleton
      obtain ⟨record, hrecord, hshows⟩ :=
        exists_record_of_reorders ["token"] (by decide) (.refl _) hvalue
      simp only [toTree, fieldTrees, Auth.ofTree?, hrecord,
        hshows.required "token" rfl (readsAs_string token), Option.bind_eq_bind, Option.bind_some]
      rfl

/-! ## Leaving out fields -/

/-- An object without the fields of these names. -/
def Json.without (names : List String) : Json → Json
  | .object fields => .object (fields.filter (·.1 ∉ names))
  | json => json

theorem Json.without_nil (json : Json) : json.without [] = json := by
  cases json with
  | object fields => exact congrArg object (List.filter_eq_self.mpr fun _ _ ↦ rfl)
  | _ => rfl

theorem Json.HasWords.without {json : Json} (h : json.HasWords) (names : List String) :
    (json.without names).HasWords := by
  cases h with
  | object hfields => exact .object fun field hfield ↦ hfields field (List.mem_filter.mp hfield).1
  | null => exact .null
  | bool value => exact .bool value
  | number hnumber => exact .number hnumber
  | string value => exact .string value
  | array hitems => exact .array hitems

theorem Json.Record.Shows.withDefault_without {α : Type} {record : Record} {names : List String}
    {fields : List (String × Json)} (hrecord : record.Shows (fields.filter (·.1 ∉ names)))
    (name : String) {value : Json} {decode : Tree → Option α} {a : α}
    (hvalue : Entries.get? name fields = some value) (h : value.ReadsAs decode a) (default : α) :
    record.withDefault name decode default = some (if name ∈ names then default else a) := by
  have hfound := Entries.get?_filter_not_mem names fields name
  by_cases hname : name ∈ names
  · rw [if_pos hname] at hfound ⊢
    exact hrecord.withDefault_of_missing name hfound default
  · rw [if_neg hname] at hfound ⊢
    exact hrecord.withDefault name (hfound.trans hvalue) h default

namespace Config

/-- A configuration with the settings of these names as they are by default. -/
def reset (names : List String) (config : Config) : Config :=
  let default : Config := {}
  { hosts := if "hosts" ∈ names then default.hosts else config.hosts
    auth := if "auth" ∈ names then default.auth else config.auth
    requestTimeout :=
      if "request_timeout_ms" ∈ names then default.requestTimeout else config.requestTimeout
    disableCertificateValidation :=
      if "disable_certificate_validation" ∈ names then default.disableCertificateValidation
      else config.disableCertificateValidation
    indexFile := if "index_file" ∈ names then default.indexFile else config.indexFile
    batchSize := if "batch_size" ∈ names then default.batchSize else config.batchSize
    numberOfShards :=
      if "number_of_shards" ∈ names then default.numberOfShards else config.numberOfShards
    numberOfReplicas :=
      if "number_of_replicas" ∈ names then default.numberOfReplicas else config.numberOfReplicas
    autocomplete := if "autocomplete" ∈ names then default.autocomplete else config.autocomplete
    routing := if "routing" ∈ names then default.routing else config.routing }

theorem reset_nil (config : Config) : config.reset [] = config := rfl

theorem readsAs_reset (config : Config) (names : List String) :
    (config.toJson.without names).ReadsAs Config.ofTree? (config.reset names) := by
  intro json' h
  obtain ⟨record, hrecord, hshows⟩ := exists_record_of_reorders fieldNames (by decide)
    ((List.filter_sublist (p := (·.1 ∉ names))).map Prod.fst) h
  rw [ofTree?, hrecord, Option.bind_some]
  simp only [ofRecord?, Record.optional,
    hshows.withDefault_without "hosts" rfl (readsAs_strings config.hosts),
    hshows.withDefault_without "auth" rfl (readsAs_option rfl Auth.readsAs config.auth),
    hshows.withDefault_without "request_timeout_ms" rfl (readsAs_uint64 config.requestTimeout),
    hshows.withDefault_without "disable_certificate_validation" rfl
      (readsAs_bool config.disableCertificateValidation),
    hshows.withDefault_without "index_file" rfl
      (readsAs_option rfl readsAs_string config.indexFile),
    hshows.withDefault_without "batch_size" rfl (readsAs_uint64 config.batchSize),
    hshows.withDefault_without "number_of_shards" rfl (readsAs_uint32 config.numberOfShards),
    hshows.withDefault_without "number_of_replicas" rfl (readsAs_uint32 config.numberOfReplicas),
    hshows.withDefault_without "autocomplete" rfl config.autocomplete.readsAs,
    hshows.withDefault_without "routing" rfl config.routing.readsAs,
    Option.bind_eq_bind, Option.bind_some]
  rfl

/-! ## Validity -/

theorem problems_eq_nil_iff (config : Config) : config.problems = [] ↔
    config.hosts ≠ [] ∧ config.batchSize ≠ 0 ∧ config.requestTimeout ≠ 0 ∧
      config.autocomplete.minGram ≠ 0 ∧
      ¬ config.autocomplete.maxGram < config.autocomplete.minGram := by
  simp only [problems, List.append_eq_nil_iff, ite_eq_right_iff, List.cons_ne_nil, imp_false,
    List.isEmpty_iff, Bool.or_eq_true, decide_eq_true_eq, not_or, and_assoc, ne_eq]

theorem validate_eq_ok_iff (config : Config) : config.validate = .ok () ↔ config.problems = [] := by
  rw [validate, ← List.isEmpty_iff]
  split
  · rename_i h
    exact ⟨fun _ ↦ h, fun _ ↦ rfl⟩
  · rename_i h
    exact ⟨nofun, fun hempty ↦ absurd hempty h⟩

/-- The defaults make sense with whatever valid settings stay: no problem is about two fields. -/
theorem validate_reset {config : Config} (h : config.validate = .ok ()) (names : List String) :
    (config.reset names).validate = .ok () := by
  rw [validate_eq_ok_iff, problems_eq_nil_iff] at h ⊢
  obtain ⟨hhosts, hbatch, htimeout, hgrams⟩ := h
  exact ⟨iteInduction (motive := (· ≠ [])) (fun _ ↦ by decide) fun _ ↦ hhosts,
    iteInduction (motive := (· ≠ 0)) (fun _ ↦ by decide) fun _ ↦ hbatch,
    iteInduction (motive := (· ≠ 0)) (fun _ ↦ by decide) fun _ ↦ htimeout,
    iteInduction
      (motive := fun grams : Autocomplete ↦ grams.minGram ≠ 0 ∧ ¬ grams.maxGram < grams.minGram)
      (fun _ ↦ by decide) fun _ ↦ hgrams⟩

/-! ## Loading what was saved -/

theorem ofFileText_of_reorders (config : Config) (names : List String) {json : Json}
    (h : json.Reorders (config.toJson.without names)) (layout : Layout) (path : String) :
    ofFileText path (json.render layout)
      = (config.reset names).validate.map fun _ ↦ config.reset names := by
  have hwords : json.HasWords := (config.hasWords.without names).of_reorders h
  rw [ofFileText, Tree.ofText?_render hwords layout, Option.bind_some,
    config.readsAs_reset names json h]

theorem ofFileText_text (config : Config) (path : String) :
    ofFileText path config.text = config.validate.map fun _ ↦ config := by
  have htext := config.ofFileText_of_reorders [] (Reorders.refl _) .indented path
  rw [Json.without_nil, reset_nil] at htext
  exact htext

variable {σ : Type} {path : String}

theorem load_of_read? {world : World σ} {text : String}
    (h : world.files.read? path = some text) : (load path world).1 = ofFileText path text := by
  have hread : Run.readFile? path world = (some text, world) := congrArg (·, world) h
  rw [load, Run.bind_apply, hread]
  rfl

theorem save_of_write? {config : Config} {world : World σ} {files : Files}
    (h : world.files.write? path config.text = some files) :
    config.save path world = (.ok (), { world with files := files }) := by
  have hwrite : Run.writeFile path config.text world = (true, { world with files := files }) := by
    rw [Run.writeFile, h]
  rw [save, Run.bind_apply, hwrite]
  rfl

theorem save_of_write?_eq_none {config : Config} {world : World σ}
    (h : world.files.write? path config.text = none) :
    config.save path world = (.error (.inaccessible path), world) := by
  have hwrite : Run.writeFile path config.text world = (false, world) := by
    rw [Run.writeFile, h]
  rw [save, Run.bind_apply, hwrite]
  rfl

theorem read?_of_save {config : Config} {world : World σ}
    (h : (config.save path world).1 = .ok ()) :
    (config.save path world).2.files.read? path = some config.text := by
  cases hfiles : world.files.write? path config.text with
  | none =>
    rw [save_of_write?_eq_none hfiles] at h
    cases h
  | some files =>
    rw [save_of_write? hfiles]
    exact Files.read?_of_write? hfiles

/-- **A saved configuration loads back** if it is valid, and is refused with its problems if it is
not. A file with the same object, from which some settings are left out, loads as the configuration
with exactly these settings as they are by default. -/
theorem load_of_save {config : Config} {world : World σ}
    (hsaved : (config.save path world).1 = .ok ()) :
    (load path (config.save path world).2).1 = config.validate.map (fun _ ↦ config) ∧
      (config.validate = .ok () → ∀ (names : List String) (json : Json) (layout : Layout)
        (other : World σ) (place : String), json.Reorders (config.toJson.without names) →
        other.files.read? place = some (json.render layout) →
        (load place other).1 = .ok (config.reset names)) := by
  constructor
  · have htext := config.ofFileText_of_reorders [] (Reorders.refl _) .indented path
    rw [Json.without_nil, reset_nil] at htext
    rw [load_of_read? (read?_of_save hsaved)]
    exact htext
  · intro hvalid names json layout other place hreorders hread
    rw [load_of_read? hread, config.ofFileText_of_reorders names hreorders,
      validate_reset hvalid names]
    rfl

/-- Settings that have to be escaped, with the longest timeout and a routing table of their own. -/
def escapedSettings : Config where
  hosts := ["http://søk:9200", "http://\"localhost\"\\"]
  auth := some (.basic "line\nbreak" "\x00\t𝄞")
  requestTimeout := 18446744073709551615
  indexFile := some "indices/ä.json"
  routing := (RoutingTable.ofClasses [⟨ResourceClass.item, "items"⟩]).withAccessControl "items"

/-- They are saved and load back, and without their credentials they ask for none. -/
theorem load_of_save_escapedSettings :
    (escapedSettings.save "search.json" (World.start () Files.empty)).1 = .ok () ∧
      (load "search.json" (escapedSettings.save "search.json" (World.start () Files.empty)).2).1
        = .ok escapedSettings ∧
      (load "other.json" (World.start () (Files.ofList [("other.json",
        some ((escapedSettings.toJson.without ["auth"]).render .compact))]))).1
        = .ok { escapedSettings with auth := none } := by
  have hwritten : ((World.start () Files.empty).files.write? "search.json"
      escapedSettings.text).isSome = true := by decide +kernel
  have hvalid : escapedSettings.validate = .ok () :=
    (validate_eq_ok_iff _).mpr (by decide)
  obtain ⟨files, hfiles⟩ := Option.isSome_iff_exists.mp hwritten
  have hsaved : (escapedSettings.save "search.json" (World.start () Files.empty)).1 = .ok () :=
    congrArg Prod.fst (save_of_write? hfiles)
  obtain ⟨hload, hreset⟩ := load_of_save hsaved
  refine ⟨hsaved, ?_, ?_⟩
  · rw [hload, hvalid]
    rfl
  · exact hreset hvalid ["auth"] _ .compact _ "other.json" (Reorders.refl _)
      (Files.read?_ofList_singleton (by decide +kernel) _)

end Config

end ResourceSearch
