import ResourceSearch.Engine.Store
import ResourceSearch.Lookup
import ResourceSearch.Proofs.Dict

/-!
# The indices that hold an identifier

A store may hold documents with one identifier in several indices. A look-up by identifier finds
them all, in the order of the indices, and a removal acts on the first of them only. The list of the
indices that hold an identifier, `holders`, therefore says everything about both: a removal drops
its head, unless that is a name that no hit can carry.
-/

namespace ResourceSearch

namespace Store

/-- What is stored with an identifier, in the order of the indices. -/
def found (store : Store) (id : String) : List (Address × Json) :=
  store.documents.entries.filter fun entry ↦ entry.1.id = id

/-- The indices that hold a document with an identifier, in order. -/
def holders (store : Store) (id : String) : List String :=
  (store.found id).map fun entry ↦ entry.1.index

theorem mem_holders {store : Store} {index id : String} :
    index ∈ store.holders id ↔ (store.get? ⟨index, id⟩).isSome := by
  rw [holders, found, get?, Dict.get?, Entries.isSome_get?_iff, List.mem_map, List.mem_map]
  constructor
  · rintro ⟨entry, hentry, rfl⟩
    obtain ⟨hmem, hid⟩ := List.mem_filter.mp hentry
    rw [decide_eq_true_eq] at hid
    exact ⟨entry, hmem, by rw [← hid]⟩
  · rintro ⟨entry, hmem, hkey⟩
    exact ⟨entry, List.mem_filter.mpr ⟨hmem, by rw [hkey, decide_eq_true_eq]⟩, by rw [hkey]⟩

theorem holders_eq_nil_iff {store : Store} {id : String} :
    store.holders id = [] ↔ ∀ index, store.get? ⟨index, id⟩ = none := by
  rw [List.eq_nil_iff_forall_not_mem]
  refine forall_congr' fun index ↦ ?_
  rw [mem_holders, Option.not_isSome_iff_eq_none]

theorem pairwise_holders (store : Store) (id : String) :
    (store.holders id).Pairwise (· ≠ ·) := by
  rw [holders, List.pairwise_map]
  have hsorted : (store.found id).Pairwise fun a b ↦ a.1 < b.1 := store.documents.sorted.filter _
  refine hsorted.imp_of_mem fun {a b} ha hb hlt heq ↦ ?_
  have hid : a.1.id = b.1.id := by
    rw [of_decide_eq_true (List.mem_filter.mp ha).2, of_decide_eq_true (List.mem_filter.mp hb).2]
  rcases hlt with hlt | ⟨-, hlt⟩
  · exact String.lt_irrefl _ (heq ▸ hlt)
  · exact String.lt_irrefl _ (hid ▸ hlt)

theorem holders_remove (store : Store) (index id : String) :
    (store.remove ⟨index, id⟩).holders id = (store.holders id).filter (· ≠ index) := by
  rw [holders, holders, found, found, List.filter_map, remove, Dict.erase, Dict.filter,
    List.filter_filter, List.filter_filter]
  congr 1
  refine List.filter_congr fun entry _ ↦ ?_
  obtain ⟨⟨index', id'⟩, source⟩ := entry
  by_cases hid : id' = id
  · simp [hid]
  · simp [hid]

theorem holders_remove_head {store : Store} {index id : String} {others : List String}
    (h : store.holders id = index :: others) :
    (store.remove ⟨index, id⟩).holders id = others := by
  have hpairwise := store.pairwise_holders id
  rw [h, List.pairwise_cons] at hpairwise
  -- The name of the first index does not come again, so no other holder is dropped with it.
  rw [holders_remove, h, List.filter_cons_of_neg (by simp), List.filter_eq_self]
  exact fun other hother ↦ decide_eq_true (hpairwise.1 other hother).symm

/-! ## Looking up -/

theorem finds_forIds (id : String) (address : Address) :
    finds (.forIds [id]) address = decide (address.id = id) := by
  have hids : requestedIds? (.forIds [id]) = some [id] := rfl
  rw [finds, hids]
  simp [SearchRequest.forIds]

theorem search_forIds (store : Store) (id : String) :
    store.search (.forIds [id])
      = .object [("hits", .object
          [("hits", .array ((store.found id).map fun entry ↦ hit entry.1 entry.2)),
            ("total", .object [("value", .nat (store.found id).length)])])] := by
  have hfound : store.documents.entries.filter (fun entry ↦ finds (.forIds [id]) entry.1)
      = store.found id := List.filter_congr fun entry _ ↦ finds_forIds id entry.1
  rw [← hfound]
  rfl

theorem firstHit?_search (store : Store) (id : String) :
    Response.firstHit? (store.search (.forIds [id]))
      = (store.found id).head?.map fun entry ↦ hit entry.1 entry.2 := by
  have htotal : Response.total (store.search (.forIds [id])) = (store.found id).length := by
    rw [search_forIds]
    simp [Response.total, Json.path?, Json.field?, Entries.get?, Json.nat, Json.nat?]
  have hhits : Response.hits (store.search (.forIds [id]))
      = (store.found id).map fun entry ↦ hit entry.1 entry.2 := by
    rw [search_forIds]
    rfl
  rw [Response.firstHit?, htotal, hhits, List.head?_map]
  cases store.found id with
  | nil => rfl
  | cons entry rest => rw [if_neg (by simp)]

theorem lookup_apply (id : String) (world : World Store) :
    (engine.lookup [id] world).1
        = .ok ((world.engine.found id).head?.map fun entry ↦ hit entry.1 entry.2) ∧
      (engine.lookup [id] world).2.engine = world.engine := by
  refine ⟨?_, rfl⟩
  rw [← firstHit?_search]
  rfl

/-! ## Removing -/

theorem index?_hit (address : Address) (source : Json) :
    Hit.index? (hit address source) = if address.index = "" then none else some address.index := by
  have hfield : ((hit address source).field? "_index").bind Json.string? = some address.index := rfl
  rw [Hit.index?, hfield, Option.filter_some]
  by_cases hindex : address.index = ""
  · rw [if_pos hindex, if_neg (by simp [hindex])]
  · rw [if_neg hindex, if_pos (by simp [hindex])]

theorem removeHit_hit {address : Address} {source : Json} {world : World Store} (id : String)
    (h : (world.engine.get? address).isSome) :
    ((engine.removeHit id (hit address source) world).1,
        (engine.removeHit id (hit address source) world).2.engine)
      = if address.index = "" then (.ok false, world.engine)
        else (.ok true, world.engine.remove address) := by
  rw [Engine.removeHit, index?_hit]
  by_cases hindex : address.index = ""
  · rw [if_pos hindex, if_pos hindex]
    rfl
  · rw [if_neg hindex, if_neg hindex]
    have hid : Hit.id? (hit address source) = some address.id := rfl
    obtain ⟨stored, hstored⟩ := Option.isSome_iff_exists.mp h
    have hdeleted : answer (.delete address.index address.id) world.engine
        = (.ok .null, world.engine.remove address) := by
      rw [answer]
      simp only [hstored]
    dsimp only
    rw [hid, Option.getD_some, Run.bind_apply, Run.call]
    simp only [engine, hdeleted]
    rfl

theorem remove_of_holders_nil {id : String} {world : World Store}
    (h : world.engine.holders id = []) :
    (engine.remove id world).1 = .ok false ∧ (engine.remove id world).2.engine = world.engine := by
  obtain ⟨hanswer, hengine⟩ := lookup_apply id world
  rw [List.map_eq_nil_iff.mp h] at hanswer
  rw [Engine.remove, Run.bind_apply, hanswer]
  exact ⟨rfl, hengine⟩

/-- The first index that holds an identifier drops it. A hit does not name the index whose name is
empty. -/
theorem remove_of_holders_cons {id index : String} {others : List String} {world : World Store}
    (h : world.engine.holders id = index :: others) :
    ((engine.remove id world).1, (engine.remove id world).2.engine)
      = if index = "" then (.ok false, world.engine)
        else (.ok true, world.engine.remove ⟨index, id⟩) := by
  have hstored : (world.engine.get? ⟨index, id⟩).isSome := mem_holders.mp (h ▸ List.mem_cons_self)
  obtain ⟨⟨⟨index, id'⟩, source⟩, rest, hfound, rfl, -⟩ := List.map_eq_cons_iff.mp h
  have hmem : (⟨index, id'⟩, source) ∈ world.engine.found id := hfound ▸ List.mem_cons_self
  obtain rfl : id' = id := of_decide_eq_true (List.mem_filter.mp hmem).2
  obtain ⟨hanswer, hengine⟩ := lookup_apply id' world
  rw [hfound, List.head?_cons, Option.map_some] at hanswer
  rw [Engine.remove, Run.bind_apply, hanswer]
  rw [← hengine] at hstored ⊢
  exact removeHit_hit id' hstored

/-- A removal that reports success has taken the document from the first index that holds it. -/
theorem exists_holders_of_remove {id : String} {world : World Store}
    (h : (engine.remove id world).1 = .ok true) :
    ∃ index others, world.engine.holders id = index :: others ∧
      (engine.remove id world).2.engine = world.engine.remove ⟨index, id⟩ := by
  cases hholders : world.engine.holders id with
  | nil =>
    rw [(remove_of_holders_nil hholders).1] at h
    cases h
  | cons index others =>
    have hremove := remove_of_holders_cons hholders
    by_cases hindex : index = ""
    · rw [if_pos hindex, Prod.mk.injEq, h] at hremove
      cases hremove.1
    · rw [if_neg hindex, Prod.mk.injEq] at hremove
      exact ⟨index, others, rfl, hremove.2⟩

theorem isSome_get?_of_remove {id : String} {address : Address} {world : World Store}
    (h : ((engine.remove id world).2.engine.get? address).isSome) :
    (world.engine.get? address).isSome := by
  cases hholders : world.engine.holders id with
  | nil =>
    rw [(remove_of_holders_nil hholders).2] at h
    exact h
  | cons index others =>
    have hremove := remove_of_holders_cons hholders
    by_cases hindex : index = ""
    · rw [if_pos hindex, Prod.mk.injEq] at hremove
      rw [hremove.2] at h
      exact h
    · rw [if_neg hindex, Prod.mk.injEq] at hremove
      rw [hremove.2] at h
      by_cases haddress : address = ⟨index, id⟩
      · rw [haddress, get?_remove_self] at h
        cases h
      · rw [get?_remove_of_ne _ haddress] at h
        exact h

end Store

end ResourceSearch
