import ResourceSearch.Indexing
import ResourceSearch.Proofs.Dict

/-!
# Batches

Indexing sends every document that has an index, once, in the order in which the documents come,
whatever the engine answers. The calls of a run are cut out of the sequence of accepted documents:
each is as long as a batch, except that the last one may be shorter.

## The invariant

Between two documents, `Batched` holds: the calls made so far are full batches, and these batches
together with the pending documents are what has been accepted. It says nothing about answers, so
each step has to be looked at in two cases only, according to whether the batch is full. The end of
a run turns what is pending into the last batch.
-/

namespace ResourceSearch

/-- A stored document has each field from the group that takes precedence among those that have
it. -/
theorem IndexDocument.get?_source (document : IndexDocument) (key : String) :
    document.source.get? key
      = ((document.accessProperties.get? key).or (document.dynamicProperties.get? key)).or
          (document.body.get? key) := by
  rw [source, Dict.get?_insertAll_entries, Dict.get?_insertAll_entries, Option.or_assoc]

namespace Indexer

variable {σ : Type}

/-! ## Accepted documents -/

/-- The lines that a document adds to a bulk body: none if it has no types or no index serves
them, and otherwise the action, which names the index and the document, and the stored fields. -/
def documentLines (routing : RoutingTable) (document : IndexDocument) : List Json :=
  match document.types with
  | .error _ => []
  | .ok types =>
    if routing.indexForTypes types = unclassified then []
    else
      [.object [("index", .object
          [("_id", .string document.id), ("_index", .string (routing.indexForTypes types))])],
        .ofDict document.source]

theorem disposition_of_types {indexer : Indexer} {document : IndexDocument} {types : List String}
    (h : document.types = .ok types) :
    indexer.disposition document
      = if indexer.routing.indexForTypes types = unclassified then .unrouted
        else .accepted ⟨indexer.routing.indexForTypes types, document.id, document.source⟩ := by
  rw [disposition, index, h]
  simp only [Except.map, isUnclassified, decide_eq_true_eq]

theorem disposition_of_error {indexer : Indexer} {document : IndexDocument}
    {error : ClassificationError} (h : document.types = .error error) :
    indexer.disposition document = .refused error := by
  rw [disposition, index, h]
  rfl

theorem item?_of_types {indexer : Indexer} {document : IndexDocument} {types : List String}
    (h : document.types = .ok types) :
    indexer.item? document
      = if indexer.routing.indexForTypes types = unclassified then none
        else some ⟨indexer.routing.indexForTypes types, document.id, document.source⟩ := by
  rw [item?, disposition_of_types h]
  by_cases hindex : indexer.routing.indexForTypes types = unclassified
  · rw [if_pos hindex, if_pos hindex]
  · rw [if_neg hindex, if_neg hindex]

theorem bulkBody_item? (indexer : Indexer) (document : IndexDocument) :
    bulkBody (indexer.item? document).toList = documentLines indexer.routing document := by
  rw [item?, documentLines]
  cases htypes : document.types with
  | error error =>
    rw [disposition_of_error htypes]
    rfl
  | ok types =>
    rw [disposition_of_types htypes]
    by_cases hindex : indexer.routing.indexForTypes types = unclassified
    · simp only [if_pos hindex]
      rfl
    · simp only [if_neg hindex]
      rfl

theorem index_ne_unclassified {indexer : Indexer} {document : IndexDocument} {item : BulkItem}
    (h : indexer.item? document = some item) : item.index ≠ unclassified := by
  rw [item?] at h
  cases htypes : document.types with
  | error error =>
    rw [disposition_of_error htypes] at h
    cases h
  | ok types =>
    rw [disposition_of_types htypes] at h
    by_cases hindex : indexer.routing.indexForTypes types = unclassified
    · rw [if_pos hindex] at h
      cases h
    · rw [if_neg hindex] at h
      cases h
      exact hindex

theorem item?_eq_none_iff {indexer : Indexer} {document : IndexDocument} :
    indexer.item? document = none ↔ documentLines indexer.routing document = [] := by
  rw [← bulkBody_item?]
  cases indexer.item? document with
  | none => exact ⟨fun _ ↦ rfl, fun _ ↦ rfl⟩
  | some item => exact ⟨nofun, nofun⟩

theorem bulkBody_filterMap (indexer : Indexer) (documents : List IndexDocument) :
    bulkBody (documents.filterMap indexer.item?)
      = documents.flatMap (documentLines indexer.routing) := by
  induction documents with
  | nil => rfl
  | cons document documents ih =>
    rw [List.flatMap_cons, ← ih, ← bulkBody_item?, List.filterMap_cons]
    cases indexer.item? document with
    | none => rfl
    | some item =>
      simp only [bulkBody, Option.toList_some, List.flatMap_cons, List.flatMap_nil,
        List.append_nil]

/-! ## One step -/

theorem flush_apply (engine : Engine σ) (context : List (String × Json)) (progress : Progress)
    (world : World σ) :
    (flush engine context progress world).1 = progress.sent ∧
      (flush engine context progress world).2.calls = world.calls ++ [.bulk progress.pending] := by
  refine ⟨rfl, ?_⟩
  simp only [flush, Run.bind_apply, Run.pure_apply, Run.log, Run.calls_logAll, Run.calls_call]

theorem step_of_item?_none {indexer : Indexer} {document : IndexDocument}
    (h : indexer.item? document = none) (engine : Engine σ) (progress : Progress)
    (world : World σ) :
    (indexer.step engine progress document world).1.pending = progress.pending ∧
      (indexer.step engine progress document world).2.calls = world.calls := by
  rw [item?] at h
  rw [step, Run.bind_apply]
  cases hdisposition : indexer.disposition document with
  | refused error => exact ⟨rfl, rfl⟩
  | unrouted => exact ⟨rfl, rfl⟩
  | accepted item =>
    rw [hdisposition] at h
    cases h

theorem disposition_of_item? {indexer : Indexer} {document : IndexDocument} {item : BulkItem}
    (h : indexer.item? document = some item) : indexer.disposition document = .accepted item := by
  rw [item?] at h
  cases hdisposition : indexer.disposition document with
  | accepted item' =>
    rw [hdisposition] at h
    cases h
    rfl
  | refused error =>
    rw [hdisposition] at h
    cases h
  | unrouted =>
    rw [hdisposition] at h
    cases h

theorem step_of_item? {indexer : Indexer} {document : IndexDocument} {item : BulkItem}
    (h : indexer.item? document = some item) (engine : Engine σ) (progress : Progress)
    (world : World σ) :
    ((indexer.step engine progress document world).1.pending,
        (indexer.step engine progress document world).2.calls)
      = if progress.pending.length + 1 = indexer.batchSize then
          ([], world.calls ++ [.bulk (progress.pending ++ [item])])
        else (progress.pending ++ [item], world.calls) := by
  rw [step, Run.bind_apply, disposition_of_item? h]
  dsimp only
  rw [List.length_append, List.length_singleton]
  by_cases hfull : progress.pending.length + 1 = indexer.batchSize
  · rw [if_pos hfull, if_pos hfull]
    obtain ⟨hprogress, hcalls⟩ := flush_apply engine [("document_id", .string document.id)] _ _
    rw [hprogress, hcalls]
    rfl
  · rw [if_neg hfull, if_neg hfull]
    rfl

/-! ## The invariant -/

/-- Where a run stands that has accepted `items`: what it has called, after the calls made before
it, are full batches, and they leave fewer documents pending than make a batch. -/
structure Batched (indexer : Indexer) (before : List Call) (items : List BulkItem)
    (pending : List BulkItem) (calls : List Call) : Prop where
  exists_batches : ∃ batches : List (List BulkItem),
    calls = before ++ batches.map .bulk ∧ batches.flatten ++ pending = items ∧
      ∀ batch ∈ batches, batch.length = indexer.batchSize
  pending_lt : pending.length < indexer.batchSize

theorem Batched.start (indexer : Indexer) (calls : List Call) :
    indexer.Batched calls [] [] calls :=
  ⟨⟨[], (List.append_nil _).symm, rfl, by simp⟩, indexer.batchSize_pos⟩

section

variable {indexer : Indexer} {before : List Call} {items : List BulkItem} {progress : Progress}
  {world : World σ}

theorem Batched.step (h : indexer.Batched before items progress.pending world.calls)
    (engine : Engine σ) (document : IndexDocument) :
    indexer.Batched before (items ++ (indexer.item? document).toList)
      (indexer.step engine progress document world).1.pending
      (indexer.step engine progress document world).2.calls := by
  cases hitem : indexer.item? document with
  | none =>
    obtain ⟨hpending, hcalls⟩ := step_of_item?_none hitem engine progress world
    rw [hpending, hcalls, Option.toList_none, List.append_nil]
    exact h
  | some item =>
    obtain ⟨⟨batches, hcalls, hitems, hlengths⟩, hlt⟩ := h
    have hstep := step_of_item? hitem engine progress world
    rw [Option.toList_some]
    by_cases hfull : progress.pending.length + 1 = indexer.batchSize
    · rw [if_pos hfull, Prod.mk.injEq] at hstep
      rw [hstep.1, hstep.2]
      -- the pending documents and the new one are one more full batch
      refine ⟨⟨batches ++ [progress.pending ++ [item]], ?_, ?_, ?_⟩, indexer.batchSize_pos⟩
      · rw [hcalls, List.map_append, List.append_assoc]
        rfl
      · rw [← hitems, List.flatten_append, List.flatten_singleton, List.append_nil,
          List.append_assoc]
      · intro batch hbatch
        rcases List.mem_append.mp hbatch with hbatch | hbatch
        · exact hlengths batch hbatch
        · rw [List.mem_singleton.mp hbatch, List.length_append]
          exact hfull
    · -- there is room for more, so the new one only waits
      rw [if_neg hfull, Prod.mk.injEq] at hstep
      rw [hstep.1, hstep.2]
      refine ⟨⟨batches, hcalls, ?_, hlengths⟩, ?_⟩
      · rw [← hitems, List.append_assoc]
      · rw [List.length_append, List.length_singleton]
        omega

theorem Batched.foldlM (h : indexer.Batched before items progress.pending world.calls)
    (engine : Engine σ) (documents : List IndexDocument) :
    indexer.Batched before (items ++ documents.filterMap indexer.item?)
      (documents.foldlM (indexer.step engine) progress world).1.pending
      (documents.foldlM (indexer.step engine) progress world).2.calls := by
  induction documents generalizing items progress world with
  | nil =>
    rw [List.filterMap_nil, List.append_nil]
    exact h
  | cons document documents ih =>
    have hitems : (document :: documents).filterMap indexer.item?
        = (indexer.item? document).toList ++ documents.filterMap indexer.item? := by
      rw [List.filterMap_cons]
      cases indexer.item? document <;> rfl
    rw [hitems, ← List.append_assoc, List.foldlM_cons, Run.bind_apply]
    exact ih (h.step engine document)

end

/-! ## Whole runs -/

/-- What is pending after the last document is sent, unless nothing is. -/
theorem calls_run (indexer : Indexer) (engine : Engine σ) (documents : List IndexDocument)
    (world : World σ) :
    (indexer.run engine documents world).2.calls
      = (documents.foldlM (indexer.step engine) .start world).2.calls ++
          if (documents.foldlM (indexer.step engine) .start world).1.pending = [] then []
          else [.bulk (documents.foldlM (indexer.step engine) .start world).1.pending] := by
  rw [run, Run.bind_apply]
  generalize documents.foldlM (indexer.step engine) .start world = reached
  by_cases hpending : reached.1.pending = []
  · rw [if_pos hpending, hpending, List.append_nil]
    rfl
  · rw [if_neg hpending, if_neg (by simpa using hpending)]
    exact (flush_apply engine [] reached.1 reached.2).2

/-- The calls of a run are the accepted documents in order, cut into batches. -/
theorem exists_batches_of_run (indexer : Indexer) (engine : Engine σ)
    (documents : List IndexDocument) (world : World σ) :
    ∃ batches : List (List BulkItem),
      (indexer.run engine documents world).2.calls = world.calls ++ batches.map .bulk ∧
      batches.flatten = documents.filterMap indexer.item? ∧
      (∀ batch ∈ batches.dropLast, batch.length = indexer.batchSize) ∧
      ∀ batch ∈ batches, 1 ≤ batch.length ∧ batch.length ≤ indexer.batchSize := by
  have hstart : indexer.Batched world.calls [] Progress.start.pending world.calls :=
    Batched.start indexer world.calls
  obtain ⟨⟨batches, hcalls, hitems, hlengths⟩, hlt⟩ := hstart.foldlM engine documents
  rw [List.nil_append] at hitems
  rw [calls_run, hcalls]
  generalize (documents.foldlM (indexer.step engine) .start world).1.pending = pending
    at hitems hlt ⊢
  have hpos := indexer.batchSize_pos
  -- what is pending makes the last batch, if anything is
  by_cases hpending : pending = []
  · refine ⟨batches, ?_, ?_, fun batch hbatch ↦ hlengths batch (List.dropLast_subset _ hbatch),
      fun batch hbatch ↦ ?_⟩
    · rw [if_pos hpending, List.append_nil]
    · rw [← hitems, hpending, List.append_nil]
    · rw [hlengths batch hbatch]
      exact ⟨hpos, Nat.le_refl _⟩
  · refine ⟨batches ++ [pending], ?_, ?_, ?_, ?_⟩
    · rw [if_neg hpending, List.map_append, List.append_assoc]
      rfl
    · rw [← hitems, List.flatten_append, List.flatten_singleton]
    · rw [List.dropLast_concat]
      exact hlengths
    · intro batch hbatch
      rcases List.mem_append.mp hbatch with hbatch | hbatch
      · rw [hlengths batch hbatch]
        exact ⟨hpos, Nat.le_refl _⟩
      · rw [List.mem_singleton.mp hbatch]
        exact ⟨List.length_pos_iff.mpr hpending, Nat.le_of_lt hlt⟩

/-- **Batching loses, duplicates and reorders nothing.** Put together, the bodies of the bulk calls
are the lines of the documents in order. Every call holds at least one document and at most a
batch, and a full batch if it is not the last; without accepted documents there is no call, and
none names the unclassified index. -/
theorem bulk_calls_of_run (routing : RoutingTable) (n : Nat) (engine : Engine σ)
    (documents : List IndexDocument) (world : World σ) :
    ∃ batches : List (List BulkItem),
      ((Indexer.new routing n).run engine documents world).2.calls
        = world.calls ++ batches.map .bulk ∧
      batches.flatMap bulkBody = documents.flatMap (documentLines routing) ∧
      (∀ batch ∈ batches.dropLast, batch.length = max n 1) ∧
      (∀ batch ∈ batches, 1 ≤ batch.length ∧ batch.length ≤ max n 1) ∧
      ((∀ document ∈ documents, documentLines routing document = []) → batches = []) ∧
      (∀ batch ∈ batches, ∀ item ∈ batch, item.index ≠ unclassified) ∧
      ∀ document ∈ documents, ∀ key, document.source.get? key
        = ((document.accessProperties.get? key).or (document.dynamicProperties.get? key)).or
            (document.body.get? key) := by
  obtain ⟨batches, hcalls, hitems, hfull, hbounds⟩ :=
    exists_batches_of_run (Indexer.new routing n) engine documents world
  refine ⟨batches, hcalls, ?_, hfull, hbounds, ?_, ?_, fun document _ key ↦
    document.get?_source key⟩
  · calc batches.flatMap bulkBody
        = bulkBody batches.flatten := by
          rw [bulkBody, ← List.flatMap_id, List.flatMap_assoc]
          rfl
      _ = bulkBody (documents.filterMap (Indexer.new routing n).item?) := by rw [hitems]
      _ = documents.flatMap (documentLines routing) := bulkBody_filterMap _ documents
  · intro hnone
    have hempty : batches.flatten = [] := by
      rw [hitems, List.filterMap_eq_nil_iff]
      exact fun document hdocument ↦ item?_eq_none_iff.mpr (hnone document hdocument)
    refine List.eq_nil_iff_forall_not_mem.mpr fun batch hbatch ↦ ?_
    have hlength := (hbounds batch hbatch).1
    rw [List.flatten_eq_nil_iff.mp hempty batch hbatch] at hlength
    exact absurd hlength (by decide)
  · intro batch hbatch item hitem
    have haccepted : item ∈ documents.filterMap (Indexer.new routing n).item? := by
      rw [← hitems]
      exact List.mem_flatten.mpr ⟨batch, hbatch, hitem⟩
    obtain ⟨document, -, hdocument⟩ := List.mem_filterMap.mp haccepted
    exact index_ne_unclassified hdocument

end Indexer

end ResourceSearch
