import ResourceSearch.Engine.Store
import ResourceSearch.Lookup
import ResourceSearch.Proofs.Engine.Plans
import ResourceSearch.Routing

/-!
# What a removal deletes

A removal looks an identifier up and then deletes what the response says was found. A response may
have any shape, so what it says is put down as a relation (`Response.Locates`): something was found,
and the first hit names an index; the identifier is the one that the hit names, or else the one that
was looked up. A response says this of one address at most.

The removal calls nothing but that, and a call that fails is the last one. So its result can be told
from its calls: their failure if there is one, and otherwise whether there was anything to delete.
-/

namespace ResourceSearch

open World (Reaches)

/-! ## What a response says -/

theorem Json.nat?_eq_some_iff {json : Json} {n : Nat} : json.nat? = some n ↔ json = .nat n := by
  constructor
  · intro h
    cases json with
    | number value =>
      cases value with
      | whole value =>
        rw [nat?] at h
        split at h
        · rename_i hnonneg
          cases h
          rw [nat, Int.toNat_of_nonneg hnonneg]
        · cases h
      | binary value => cases h
    | _ => cases h
  · rintro rfl
    rw [nat, nat?, if_pos (Int.natCast_nonneg n), Int.toNat_natCast]

theorem Json.string?_eq_some_iff {json : Json} {text : String} :
    json.string? = some text ↔ json = .string text := by
  cases json with
  | string value => rw [string?, Option.some.injEq, Json.string.injEq]
  | _ => exact iff_of_false nofun nofun

theorem Json.field?_bind_string?_eq_some_iff {json : Json} {name text : String} :
    (json.field? name).bind string? = some text ↔ json.field? name = some (.string text) := by
  rw [Option.bind_eq_some_iff]
  simp only [string?_eq_some_iff]
  exact ⟨fun ⟨_, hfield, heq⟩ ↦ heq ▸ hfield, fun hfield ↦ ⟨_, hfield, rfl⟩⟩

theorem Json.path?_append (first second : List String) (json : Json) :
    json.path? (first ++ second) = (json.path? first).bind (path? second) := by
  induction first generalizing json with
  | nil => rfl
  | cons name first ih =>
    rw [List.cons_append, path?, path?, Option.bind_assoc]
    exact congrArg _ (funext ih)

namespace Response

/-- Whether a response reports how much a search has found: by a bare number, or by an object that
holds the number. -/
def ReportsTotal (response : Json) (total : Nat) : Prop :=
  response.path? ["hits", "total"] = some (.nat total) ∨
    response.path? ["hits", "total", "value"] = some (.nat total)

/-- Whether a response says that a document is stored at an address, when its identifier was looked
up. -/
def Locates (response : Json) (id : String) (address : Address) : Prop :=
  (∃ total, 0 < total ∧ ReportsTotal response total) ∧
    ∃ hit others, response.path? ["hits", "hits"] = some (.array (hit :: others)) ∧
      hit.field? "_index" = some (.string address.index) ∧ address.index ≠ "" ∧
      (hit.field? "_id" = some (.string address.id) ∨
        (∀ other, hit.field? "_id" ≠ some (.string other)) ∧ address.id = id)

/-- Where a response says that a document is stored. -/
def address? (response : Json) (id : String) : Option Address :=
  (firstHit? response).bind fun hit ↦
    (Hit.index? hit).map fun index ↦ ⟨index, (Hit.id? hit).getD id⟩

variable {response hit : Json}

/-- The total is the number that a response reports, in either shape, or zero. -/
theorem exists_total_eq (response : Json) :
    ∃ found : Option Nat, total response = found.getD 0 ∧
      ∀ n, found = some n ↔ ReportsTotal response n := by
  have hvalue : response.path? ["hits", "total", "value"]
      = (response.path? ["hits", "total"]).bind (Json.path? ["value"]) :=
    Json.path?_append ["hits", "total"] ["value"] response
  simp only [total, ReportsTotal, hvalue]
  cases response.path? ["hits", "total"] with
  | none => exact ⟨none, rfl, by simp⟩
  | some reported =>
    have hfield (n : Nat) : Json.path? ["value"] reported = some (.nat n) ↔
        (reported.field? "value").bind Json.nat? = some n := by
      simp only [Json.path?, Option.bind_eq_some_iff, Json.nat?_eq_some_iff]
      simp
    cases reported with
    | number value =>
      refine ⟨(Json.number value).nat?, rfl, fun n ↦ ?_⟩
      rw [Option.some.injEq, Option.bind_some, Json.nat?_eq_some_iff]
      exact (or_iff_left nofun).symm
    | _ =>
      refine ⟨_, rfl, fun n ↦ ?_⟩
      rw [Option.some.injEq, Option.bind_some, hfield]
      exact (or_iff_right nofun).symm

theorem total_ne_zero_iff : total response ≠ 0 ↔ ∃ n, 0 < n ∧ ReportsTotal response n := by
  obtain ⟨found, htotal, hfound⟩ := exists_total_eq response
  simp only [htotal, ← hfound]
  cases found with
  | none => simp
  | some n => simp [Nat.pos_iff_ne_zero]

theorem hits_eq_cons_iff {others : List Json} :
    hits response = hit :: others ↔
      response.path? ["hits", "hits"] = some (.array (hit :: others)) := by
  rw [hits]
  cases response.path? ["hits", "hits"] with
  | none => exact iff_of_false nofun nofun
  | some found =>
    cases found with
    | array items => simp [Json.array?]
    | _ => exact iff_of_false nofun nofun

theorem firstHit?_eq_some_iff :
    firstHit? response = some hit ↔
      (∃ n, 0 < n ∧ ReportsTotal response n) ∧
        ∃ others, response.path? ["hits", "hits"] = some (.array (hit :: others)) := by
  simp only [firstHit?, ← total_ne_zero_iff, ← hits_eq_cons_iff]
  by_cases htotal : total response = 0
  · simp [htotal]
  · rw [if_neg htotal, and_iff_right htotal, List.head?_eq_some_iff]

end Response

namespace Hit

variable {hit : Json} {id index : String}

theorem index?_eq_some_iff :
    index? hit = some index ↔ hit.field? "_index" = some (.string index) ∧ index ≠ "" := by
  rw [index?, Option.filter_eq_some_iff, Json.field?_bind_string?_eq_some_iff]
  simp

/-- The identifier of a hit takes the place of the one that was looked up, if there is one. -/
theorem getD_id?_eq_iff {other : String} :
    (id? hit).getD id = other ↔
      hit.field? "_id" = some (.string other) ∨
        (∀ text, hit.field? "_id" ≠ some (.string text)) ∧ other = id := by
  simp only [ne_eq, ← Json.field?_bind_string?_eq_some_iff, id?]
  cases (hit.field? "_id").bind Json.string? with
  | none => simp [eq_comm]
  | some text => simp

end Hit

namespace Response

theorem address?_eq_some_iff {response : Json} {id : String} {address : Address} :
    address? response id = some address ↔ Locates response id address := by
  simp only [address?, Option.bind_eq_some_iff, Option.map_eq_some_iff, firstHit?_eq_some_iff,
    Hit.index?_eq_some_iff, Locates, ← Hit.getD_id?_eq_iff]
  constructor
  · rintro ⟨hit, ⟨htotal, others, hhits⟩, index, ⟨hindex, hne⟩, rfl⟩
    exact ⟨htotal, hit, others, hhits, hindex, hne, rfl⟩
  · rintro ⟨htotal, hit, others, hhits, hindex, hne, hid⟩
    exact ⟨hit, ⟨htotal, others, hhits⟩, _, ⟨hindex, hne⟩, by rw [hid]⟩

end Response

/-! ## How a removal ends -/

namespace Engine

variable {σ : Type} {engine : Engine σ} {id : String} {world : World σ} {response : Json}

theorem lookup_eq (engine : Engine σ) (id : String) (world : World σ) :
    engine.lookup [id] world
      = ((engine.answer (.search (.forIds [id])) world.engine).1.map Response.firstHit?,
        (Run.call engine (.search (.forIds [id])) world).2) := rfl

theorem remove_of_failed_lookup {error : EngineError}
    (h : (engine.answer (.search (.forIds [id])) world.engine).1 = .error error) :
    (engine.remove id world).1 = .error error ∧
      (engine.remove id world).2.calls = world.calls ++ [.search (.forIds [id])] := by
  rw [remove, Run.bind_apply, lookup_eq, h]
  exact ⟨rfl, Run.calls_call engine _ world⟩

theorem remove_of_address?_eq_none
    (h : (engine.answer (.search (.forIds [id])) world.engine).1 = .ok response)
    (hnone : Response.address? response id = none) :
    (engine.remove id world).1 = .ok false ∧
      (engine.remove id world).2.calls = world.calls ++ [.search (.forIds [id])] := by
  have hcalls := Run.calls_call engine (.search (.forIds [id])) world
  rw [remove, Run.bind_apply, lookup_eq, h]
  rw [Response.address?, Option.bind_eq_none_iff] at hnone
  dsimp only [Except.map]
  cases hhit : Response.firstHit? response with
  | none => exact ⟨rfl, hcalls⟩
  | some hit =>
    have hindex := Option.map_eq_none_iff.mp (hnone hit hhit)
    dsimp only
    rw [removeHit, hindex]
    exact ⟨rfl, hcalls⟩

theorem remove_of_address?_eq_some {address : Address} {state : σ}
    (h : engine.answer (.search (.forIds [id])) world.engine = (.ok response, state))
    (haddress : Response.address? response id = some address) :
    (engine.remove id world).1
        = (engine.answer (.delete address.index address.id) state).1.map (fun _ ↦ true) ∧
      (engine.remove id world).2.calls
        = world.calls ++ [.search (.forIds [id]), .delete address.index address.id] := by
  obtain ⟨hit, hhit, hfound⟩ := Option.bind_eq_some_iff.mp haddress
  obtain ⟨index, hindex, rfl⟩ := Option.map_eq_some_iff.mp hfound
  have hsearched : (Run.call engine (.search (.forIds [id])) world).2.engine = state := by
    rw [Run.call, h]
  have hcalls := Run.calls_call engine (.search (.forIds [id])) world
  rw [remove, Run.bind_apply, lookup_eq, h]
  dsimp only [Except.map]
  rw [hhit]
  dsimp only
  rw [removeHit, hindex]
  dsimp only
  rw [Run.bind_apply]
  have hdeleted := Run.calls_call engine (.delete index ((Hit.id? hit).getD id))
    (Run.call engine (.search (.forIds [id])) world).2
  have hanswer : (Run.call engine (.delete index ((Hit.id? hit).getD id))
      (Run.call engine (.search (.forIds [id])) world).2).1
      = (engine.answer (.delete index ((Hit.id? hit).getD id)) state).1 := by
    rw [← hsearched]
    rfl
  rw [hcalls, List.append_assoc] at hdeleted
  rw [hanswer]
  cases (engine.answer (.delete index ((Hit.id? hit).getD id)) state).1 with
  | ok _ => exact ⟨rfl, hdeleted⟩
  | error _ => exact ⟨rfl, hdeleted⟩

/-- A removal looks up and deletes what the response locates. Its result can be told from its
calls. -/
theorem remove_apply (engine : Engine σ) (id : String) (world : World σ) :
    ∃ (deleted : List Address) (calls : List Call),
      (engine.remove id world).2.calls = world.calls ++ calls ∧
      calls = .search (.forIds [id]) ::
        deleted.map (fun address ↦ .delete address.index address.id) ∧
      deleted.length ≤ 1 ∧
      (∀ address, address ∈ deleted ↔
        ∃ response, (engine.answer (.search (.forIds [id])) world.engine).1 = .ok response ∧
          Response.Locates response id address) ∧
      (engine.remove id world).1
        = (engine.failure? calls world.engine).elim (.ok !deleted.isEmpty) .error := by
  simp only [← Response.address?_eq_some_iff]
  rcases hanswer : engine.answer (.search (.forIds [id])) world.engine with ⟨answer, state⟩
  cases answer with
  | error error =>
    obtain ⟨hresult, hcalls⟩ := remove_of_failed_lookup (congrArg Prod.fst hanswer)
    refine ⟨[], _, hcalls, rfl, Nat.zero_le 1, fun address ↦ iff_of_false nofun nofun, ?_⟩
    rw [hresult, failure?, hanswer]
    rfl
  | ok response =>
    cases haddress : Response.address? response id with
    | none =>
      obtain ⟨hresult, hcalls⟩ := remove_of_address?_eq_none (congrArg Prod.fst hanswer) haddress
      refine ⟨[], _, hcalls, rfl, Nat.zero_le 1, fun address ↦ iff_of_false nofun ?_, ?_⟩
      · rintro ⟨response', hresponse, hfound⟩
        cases hresponse
        rw [haddress] at hfound
        cases hfound
      · rw [hresult, failure?, hanswer]
        rfl
    | some address =>
      obtain ⟨hresult, hcalls⟩ := remove_of_address?_eq_some hanswer haddress
      refine ⟨[address], _, hcalls, rfl, Nat.le_refl 1, fun address' ↦ ?_, ?_⟩
      · rw [List.mem_singleton]
        constructor
        · rintro rfl
          exact ⟨response, rfl, haddress⟩
        · rintro ⟨response', hresponse, hfound⟩
          cases hresponse
          exact Option.some.inj (hfound.symm.trans haddress)
      · rw [hresult, failure?, hanswer]
        dsimp only
        rw [failure?]
        rcases engine.answer (.delete address.index address.id) state with ⟨answer, last⟩
        cases answer <;> rfl

/-- **A removal acts on exactly what the look-up found.** It asks once for the identifier, in all
indices. It deletes at most one document, and exactly one if the response locates it, at that
address. It ends as the first of its calls that fails, and otherwise tells whether there was
anything to delete. -/
theorem remove_follows_lookup (engine : Engine σ) (id : String) (world : World σ) :
    ∃ (request : SearchRequest) (deleted : List Address) (calls : List Call)
      (result : Except EngineError Bool) (after : World σ),
      engine.remove id world = (result, after) ∧ after.calls = world.calls ++ calls ∧
      calls = .search request :: deleted.map (fun address ↦ .delete address.index address.id) ∧
      request.index = none ∧ request.offset = none ∧ request.size = none ∧
      request.body = .object [("query", .object [("ids", .object [("values", .strings [id])])])] ∧
      deleted.length ≤ 1 ∧
      (∀ address, address ∈ deleted ↔
        ∃ response, (engine.answer (.search request) world.engine).1 = .ok response ∧
          Response.Locates response id address) ∧
      (result = .ok true ↔ deleted ≠ [] ∧ engine.failure? calls world.engine = none) ∧
      (result = .ok false ↔ deleted = [] ∧ engine.failure? calls world.engine = none) ∧
      ∀ error, result = .error error ↔ engine.failure? calls world.engine = some error := by
  obtain ⟨deleted, calls, hcalls, hmade, hone, hdeleted, hresult⟩ := engine.remove_apply id world
  refine ⟨.forIds [id], deleted, calls, (engine.remove id world).1, _, rfl, hcalls, hmade, rfl, rfl,
    rfl, rfl, hone, hdeleted, ?_⟩
  rw [hresult]
  cases engine.failure? calls world.engine with
  | none => cases deleted <;> simp
  | some error => simp

/-- A response with a bare total, whose first hit has a number for an identifier and whose second
hit is no object. -/
def numberedResponse : Json :=
  .object [("hits", .object
    [("hits", .array [.object [("_id", .nat 7), ("_index", .string Index.items)], .null]),
      ("total", .nat 3)])]

/-- An engine that answers searches with this response and deletes nothing. -/
def numberedEngine : Engine Unit where
  answer
    | .search _, state => (.ok numberedResponse, state)
    | _, state => (.error (.transport "closed"), state)

/-- The identifier that was looked up stands in for one that is no string, and the failure of the
deletion is the result. -/
theorem remove_numberedEngine :
    ∃ request, (numberedEngine.remove "a" (World.start () .empty)).2.calls
        = [.search request, .delete Index.items "a"] ∧
      (numberedEngine.remove "a" (World.start () .empty)).1 = .error (.transport "closed") := by
  obtain ⟨request, deleted, calls, result, after, hrun, hcalls, hmade, -, -, -, -, hone, hdeleted,
    -, -, herror⟩ := remove_follows_lookup numberedEngine "a" (World.start () .empty)
  have hlocated : Response.Locates numberedResponse "a" ⟨Index.items, "a"⟩ :=
    Response.address?_eq_some_iff.mp rfl
  have hmem : ⟨Index.items, "a"⟩ ∈ deleted := (hdeleted _).mpr ⟨_, rfl, hlocated⟩
  obtain rfl : deleted = [⟨Index.items, "a"⟩] := by
    match deleted, hone, hmem with
    | [address], _, hmem => rw [List.mem_singleton.mp hmem]
  subst hmade
  rw [hrun]
  exact ⟨request, hcalls, (herror _).mpr rfl⟩

end Engine

end ResourceSearch
