import Mathlib.Algebra.Order.Floor.Div
import ResourceSearch.Proofs.Document.Types
import ResourceSearch.Proofs.Engine.Calls
import ResourceSearch.Proofs.Indexing.Batches

/-!
# Accounting for documents

Every document of a run is counted once, by what was done with it, and what the engine answers has
no part in it. Between two documents the accepted ones are those counted as sent and those that are
pending; the end of a run sends what is pending. The calls are counted as they are made, so the
lengths of the batches tell how many there are.
-/

namespace ResourceSearch.Indexer

variable {σ τ : Type} {indexer : Indexer} {documents : List IndexDocument}
  {document : IndexDocument}

/-- Whether a document is refused because it has no type. -/
def refuses (indexer : Indexer) (document : IndexDocument) : Bool :=
  match indexer.disposition document with
  | .refused _ => true
  | .unrouted | .accepted _ => false

/-- Whether a document is passed over because no index serves its types. -/
def passesOver (indexer : Indexer) (document : IndexDocument) : Bool :=
  match indexer.disposition document with
  | .unrouted => true
  | .refused _ | .accepted _ => false

/-- The counts of a run agree with what was done with each of its documents; `waiting` of the
accepted ones have not been sent. -/
structure Accounts (indexer : Indexer) (documents : List IndexDocument) (waiting : Nat)
    (stats : IndexingStats) : Prop where
  visited : stats.visited = documents.length
  skipped : stats.skipped = documents.countP indexer.passesOver
  exceptions : stats.exceptions = documents.countP indexer.refuses
  queued : stats.queued + waiting = (documents.filterMap indexer.item?).length

theorem Accounts.start (indexer : Indexer) :
    indexer.Accounts [] Progress.start.pending.length Progress.start.stats :=
  ⟨rfl, rfl, rfl, rfl⟩

theorem Accounts.sent {progress : Progress}
    (h : indexer.Accounts documents progress.pending.length progress.stats) :
    indexer.Accounts documents progress.sent.pending.length progress.sent.stats :=
  ⟨h.visited, h.skipped, h.exceptions, h.queued⟩

theorem Accounts.step {progress : Progress}
    (h : indexer.Accounts documents progress.pending.length progress.stats) (engine : Engine σ)
    (document : IndexDocument) (world : World σ) :
    indexer.Accounts (documents ++ [document])
      (indexer.step engine progress document world).1.pending.length
      (indexer.step engine progress document world).1.stats := by
  obtain ⟨hvisited, hskipped, hexceptions, hqueued⟩ := h
  rw [Indexer.step, Run.bind_apply]
  cases hdisposition : indexer.disposition document with
  | refused error =>
    constructor <;>
      simp [hvisited, hskipped, hexceptions, hqueued, passesOver, refuses, item?, hdisposition,
        Run.pure_apply]
  | unrouted =>
    constructor <;>
      simp [hvisited, hskipped, hexceptions, hqueued, passesOver, refuses, item?, hdisposition,
        Run.pure_apply]
  | accepted item =>
    -- The document joins those that wait; if they fill a batch now, all of them are sent.
    have hjoined : indexer.Accounts (documents ++ [document]) (progress.pending ++ [item]).length
        { progress.stats with visited := progress.stats.visited + 1 } := by
      constructor <;>
        simp [hvisited, hskipped, hexceptions, ← hqueued, passesOver, refuses, item?, hdisposition,
          Nat.add_assoc]
    dsimp only
    split
    · rw [(flush_apply _ _ _ _).1]
      exact hjoined.sent
    · exact hjoined

theorem Accounts.foldlM {before : List IndexDocument} {progress : Progress}
    (h : indexer.Accounts before progress.pending.length progress.stats) (engine : Engine σ)
    (documents : List IndexDocument) (world : World σ) :
    indexer.Accounts (before ++ documents)
      (documents.foldlM (indexer.step engine) progress world).1.pending.length
      (documents.foldlM (indexer.step engine) progress world).1.stats := by
  induction documents generalizing before progress world with
  | nil =>
    rw [List.append_nil]
    exact h
  | cons document documents ih =>
    rw [List.foldlM_cons, Run.bind_apply, List.append_cons]
    exact ih (h.step engine document world) _

theorem stats_run (indexer : Indexer) (engine : Engine σ) (documents : List IndexDocument)
    (world : World σ) :
    (indexer.run engine documents world).1
      = if (documents.foldlM (indexer.step engine) .start world).1.pending = [] then
          (documents.foldlM (indexer.step engine) .start world).1.stats
        else (documents.foldlM (indexer.step engine) .start world).1.sent.stats := by
  rw [run, Run.bind_apply]
  generalize documents.foldlM (indexer.step engine) .start world = reached
  by_cases hpending : reached.1.pending = []
  · rw [if_pos hpending, if_pos (by simpa using hpending)]
    rfl
  · rw [if_neg hpending, if_neg (by simpa using hpending)]
    rfl

theorem accounts_run (indexer : Indexer) (engine : Engine σ) (documents : List IndexDocument)
    (world : World σ) : indexer.Accounts documents 0 (indexer.run engine documents world).1 := by
  have hreached := (Accounts.start indexer).foldlM engine documents world
  rw [List.nil_append] at hreached
  rw [stats_run]
  generalize documents.foldlM (indexer.step engine) .start world = reached at hreached ⊢
  by_cases hpending : reached.1.pending = []
  · rw [if_pos hpending]
    rw [hpending] at hreached
    exact hreached
  · rw [if_neg hpending]
    exact hreached.sent

/-- A document that is accepted adds one to the documents that are sent, and nothing to those that
are passed over or refused, whatever it is indexed with. -/
theorem stats_run_of_item? {item : BulkItem} (h : indexer.item? document = some item)
    (engine : Engine σ) (before after : List IndexDocument) (world : World σ) :
    (indexer.run engine (before ++ document :: after) world).1.queued
        = (indexer.run engine (before ++ after) world).1.queued + 1 ∧
      (indexer.run engine (before ++ document :: after) world).1.skipped
        = (indexer.run engine (before ++ after) world).1.skipped ∧
      (indexer.run engine (before ++ document :: after) world).1.exceptions
        = (indexer.run engine (before ++ after) world).1.exceptions := by
  have hwith := indexer.accounts_run engine (before ++ document :: after) world
  have hwithout := indexer.accounts_run engine (before ++ after) world
  have hskipped : indexer.passesOver document = false := by
    rw [passesOver, disposition_of_item? h]
  have hexceptions : indexer.refuses document = false := by
    rw [refuses, disposition_of_item? h]
  refine ⟨?_, ?_, ?_⟩
  · have hqueued := hwith.queued
    have hqueued' := hwithout.queued
    simp only [List.filterMap_append, List.filterMap_cons, h, List.length_append,
      List.length_cons] at hqueued hqueued'
    omega
  · rw [hwith.skipped, hwithout.skipped]
    simp [hskipped]
  · rw [hwith.exceptions, hwithout.exceptions]
    simp [hexceptions]

/-! ## What is counted -/

/-- Whether a table leads the types of a document to no index. -/
def leadsNowhere (routing : RoutingTable) (document : IndexDocument) : Bool :=
  match document.types with
  | .ok types => routing.indexForTypes types = unclassified
  | .error _ => false

theorem refuses_eq_isUntyped (indexer : Indexer) (document : IndexDocument) :
    indexer.refuses document = document.isUntyped := by
  rw [Bool.eq_iff_iff, IndexDocument.isUntyped_iff, refuses]
  cases htypes : document.types with
  | error error =>
    rw [disposition_of_error htypes]
    exact iff_of_true rfl ⟨error, rfl⟩
  | ok types =>
    rw [disposition_of_types htypes]
    refine iff_of_false ?_ nofun
    by_cases hindex : indexer.routing.indexForTypes types = unclassified
    · rw [if_pos hindex]
      exact Bool.false_ne_true
    · rw [if_neg hindex]
      exact Bool.false_ne_true

theorem passesOver_eq_leadsNowhere (indexer : Indexer) (document : IndexDocument) :
    indexer.passesOver document = leadsNowhere indexer.routing document := by
  rw [passesOver, leadsNowhere]
  cases htypes : document.types with
  | error error => rw [disposition_of_error htypes]
  | ok types =>
    rw [disposition_of_types htypes]
    by_cases hindex : indexer.routing.indexForTypes types = unclassified
    · simp [hindex]
    · simp [hindex]

theorem countP_passesOver (indexer : Indexer) (documents : List IndexDocument) :
    documents.countP indexer.passesOver
      = (documents.filter (!·.isUntyped)).countP (leadsNowhere indexer.routing) := by
  rw [List.countP_filter]
  refine List.countP_congr fun document _ ↦ ?_
  rw [passesOver_eq_leadsNowhere, Bool.and_eq_true, Bool.not_eq_true', ← Bool.not_eq_true,
    IndexDocument.isUntyped_iff]
  refine (and_iff_left_of_imp fun hnowhere ↦ ?_).symm
  rintro ⟨error, herror⟩
  rw [leadsNowhere, herror] at hnowhere
  cases hnowhere

theorem length_eq_add (indexer : Indexer) (documents : List IndexDocument) :
    documents.length = (documents.filterMap indexer.item?).length
      + documents.countP indexer.passesOver + documents.countP indexer.refuses := by
  induction documents with
  | nil => rfl
  | cons document documents ih =>
    cases hdisposition : indexer.disposition document <;>
      simp [item?, passesOver, refuses, hdisposition, ih] <;> omega

theorem length_filterMap_eq_iff {α β : Type} {f : α → Option β} {as : List α} :
    (as.filterMap f).length = as.length ↔ as.map f = (as.filterMap f).map some := by
  rw [List.filterMap_length_eq_length]
  constructor
  · intro h
    induction as with
    | nil => rfl
    | cons a as ih =>
      obtain ⟨ha, has⟩ := List.forall_mem_cons.mp h
      obtain ⟨b, hb⟩ := Option.isSome_iff_exists.mp ha
      rw [List.map_cons, List.filterMap_cons_some hb, List.map_cons, hb, ih has]
  · intro h a ha
    have hmem : f a ∈ (as.filterMap f).map some := h ▸ List.mem_map_of_mem ha
    obtain ⟨b, -, hb⟩ := List.mem_map.mp hmem
    rw [← hb]
    rfl

/-! ## The number of calls -/

theorem flushes_step (indexer : Indexer) (engine : Engine σ) (progress : Progress)
    (document : IndexDocument) (world : World σ) :
    (indexer.step engine progress document world).2.calls.length + progress.stats.flushes
      = world.calls.length + (indexer.step engine progress document world).1.stats.flushes := by
  rw [step, Run.bind_apply]
  cases indexer.disposition document with
  | refused error => rfl
  | unrouted => rfl
  | accepted item =>
    dsimp only
    split
    · rw [(flush_apply _ _ _ _).1, (flush_apply _ _ _ _).2, List.length_append,
        List.length_singleton, Progress.sent, Run.calls_logAll]
      dsimp only
      omega
    · rfl

theorem flushes_foldlM (indexer : Indexer) (engine : Engine σ) (documents : List IndexDocument)
    (progress : Progress) (world : World σ) :
    (documents.foldlM (indexer.step engine) progress world).2.calls.length
        + progress.stats.flushes
      = world.calls.length
        + (documents.foldlM (indexer.step engine) progress world).1.stats.flushes := by
  induction documents generalizing progress world with
  | nil => rfl
  | cons document documents ih =>
    rw [List.foldlM_cons, Run.bind_apply]
    have hstep := indexer.flushes_step engine progress document world
    have hrest := ih (indexer.step engine progress document world).1
      (indexer.step engine progress document world).2
    omega

theorem flushes_run (indexer : Indexer) (engine : Engine σ) (documents : List IndexDocument)
    (world : World σ) :
    (indexer.run engine documents world).2.calls.length
      = world.calls.length + (indexer.run engine documents world).1.flushes := by
  have hreached := indexer.flushes_foldlM engine documents .start world
  rw [calls_run, stats_run]
  generalize documents.foldlM (indexer.step engine) .start world = reached at hreached ⊢
  rw [List.length_append]
  by_cases hpending : reached.1.pending = []
  · rw [if_pos hpending, if_pos hpending]
    exact hreached
  · rw [if_neg hpending, if_neg hpending, List.length_singleton, Progress.sent]
    dsimp only
    exact congrArg (· + 1) hreached

/-- Batches that are full, except perhaps the last, are as many as it takes for what they hold. -/
theorem length_eq_ceilDiv {α : Type} {size : Nat} {batches : List (List α)}
    (hfull : ∀ batch ∈ batches.dropLast, batch.length = size)
    (hbounds : ∀ batch ∈ batches, 1 ≤ batch.length ∧ batch.length ≤ size) :
    batches.length = batches.flatten.length ⌈/⌉ size := by
  rw [Nat.ceilDiv_eq_add_pred_div]
  rcases List.eq_nil_or_concat batches with rfl | ⟨front, last, rfl⟩
  · rcases Nat.eq_zero_or_pos size with rfl | hsize
    · exact (Nat.div_zero _).symm
    · exact (Nat.div_eq_of_lt (by simpa using hsize)).symm
  · rw [List.concat_eq_append, List.dropLast_concat] at hfull
    obtain ⟨hpos, hle⟩ := hbounds last (by simp)
    have hfront : front.flatten.length = front.length * size := by
      rw [List.length_flatten, List.map_congr_left hfull, List.map_const', List.sum_replicate_nat]
    rw [List.concat_eq_append, List.flatten_append, List.flatten_singleton, List.length_append,
      List.length_append, hfront, List.length_singleton]
    -- The full batches count as they are, and the last one is not empty.
    symm
    rw [Nat.div_eq_iff (by omega), Nat.add_mul]
    omega

/-! ## What the engine answers -/

theorem agrees_flush (engine : Engine σ) (engine' : Engine τ) (context : List (String × Json))
    (progress : Progress) :
    Run.Agrees (flush engine context progress) (flush engine' context progress) := by
  intro world world'
  obtain ⟨hprogress, hcalls⟩ := flush_apply engine context progress world
  obtain ⟨hprogress', hcalls'⟩ := flush_apply engine' context progress world'
  exact ⟨hprogress.trans hprogress'.symm, _, hcalls, hcalls'⟩

theorem agrees_step (indexer : Indexer) (engine : Engine σ) (engine' : Engine τ)
    (progress : Progress) (document : IndexDocument) :
    Run.Agrees (indexer.step engine progress document)
      (indexer.step engine' progress document) := by
  rw [step, step]
  refine (Run.agrees_logAll _).bind fun _ ↦ ?_
  cases indexer.disposition document with
  | refused error => exact Run.agrees_pure _
  | unrouted => exact Run.agrees_pure _
  | accepted item =>
    dsimp only
    split
    · exact agrees_flush engine engine' _ _
    · exact Run.agrees_pure _

theorem agrees_run (indexer : Indexer) (engine : Engine σ) (engine' : Engine τ)
    (documents : List IndexDocument) :
    Run.Agrees (indexer.run engine documents) (indexer.run engine' documents) := by
  rw [run, run]
  refine (Run.Agrees.foldlM (indexer.agrees_step engine engine') _ documents).bind
    fun progress ↦ ?_
  dsimp only
  split
  · exact (Run.agrees_pure _).bind fun _ ↦ (Run.agrees_logAll _).bind fun _ ↦ Run.agrees_pure _
  · exact (agrees_flush engine engine' _ _).bind fun _ ↦
      (Run.agrees_logAll _).bind fun _ ↦ Run.agrees_pure _

/-- **Indexing accounts for every document.** Some documents lead to the same counts and the same
calls whatever the engine answers. Each document is counted as sent, as passed over or as refused:
the refused ones tell no type, and those passed over are the others that no index serves. The
documents sent are those in the calls, and the calls are as many as it takes for them. A run is
clean exactly if the calls hold the documents one by one. -/
theorem counts_of_run (indexer : Indexer) (documents : List IndexDocument) :
    ∃ (stats : IndexingStats) (batches : List (List BulkItem)),
      (∀ (σ : Type) (engine : Engine σ) (world : World σ),
        (indexer.run engine documents world).1 = stats ∧
          (indexer.run engine documents world).2.calls = world.calls ++ batches.map .bulk) ∧
      stats.visited = documents.length ∧
      stats.visited = stats.queued + stats.skipped + stats.exceptions ∧
      stats.exceptions = documents.countP (·.isUntyped) ∧
      stats.skipped
        = (documents.filter (!·.isUntyped)).countP (leadsNowhere indexer.routing) ∧
      stats.queued = batches.flatten.length ∧
      stats.flushes = batches.length ∧
      stats.flushes = stats.queued ⌈/⌉ indexer.batchSize ∧
      (stats.isClean = true ↔ documents.map indexer.item? = batches.flatten.map some) := by
  -- What one engine leads to, however it answers, every other leads to as well.
  let silent : Engine Unit := ⟨fun _ state ↦ (.ok .null, state)⟩
  let start : World Unit := .start () .empty
  obtain ⟨batches, hcalls, hitems, hfull, hbounds⟩ :=
    indexer.exists_batches_of_run silent documents start
  have haccounts := indexer.accounts_run silent documents start
  have hflushes := indexer.flushes_run silent documents start
  rw [hcalls, List.length_append, List.length_map, Nat.add_left_cancel_iff] at hflushes
  generalize hstats : (indexer.run silent documents start).1 = stats at haccounts hflushes
  have hqueued : stats.queued = batches.flatten.length := by
    rw [hitems]
    exact haccounts.queued
  have hsum := indexer.length_eq_add documents
  rw [← haccounts.skipped, ← haccounts.exceptions, ← hitems, ← hqueued] at hsum
  refine ⟨stats, batches, fun σ engine world ↦ ?_, haccounts.visited,
    haccounts.visited.trans hsum, ?_, ?_, hqueued, hflushes.symm, ?_, ?_⟩
  · obtain ⟨hresult, calls, hother, hsilent⟩ :=
      indexer.agrees_run engine silent documents world start
    rw [hcalls] at hsilent
    rw [hresult, hother, List.append_cancel_left hsilent]
    exact ⟨hstats, rfl⟩
  · rw [haccounts.exceptions]
    exact congrArg (documents.countP ·) (funext (indexer.refuses_eq_isUntyped))
  · rw [haccounts.skipped, countP_passesOver]
  · rw [← hflushes, hqueued]
    exact length_eq_ceilDiv hfull hbounds
  · rw [hitems, ← length_filterMap_eq_iff, ← hitems, ← hqueued, IndexingStats.isClean,
      Bool.and_eq_true, Bool.and_eq_true, decide_eq_true_eq, decide_eq_true_eq, decide_eq_true_eq,
      haccounts.visited]
    omega

end ResourceSearch.Indexer
