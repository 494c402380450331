import ResourceSearch.Engine

/-!
# Acting by calls

An operation of the service reaches the engine by calling it and in no other way, and each call is
recorded. So the record of a run tells what became of the engine: its state is what the recorded
calls, made one after the other, lead to. An operation acts by calls if its parts do, and if the
parts make calls of some kind only, so does the operation.

Where an operation makes nothing of the answers, it takes the same course on every engine: two such
runs agree in their results and in their calls, and again this holds of an operation if it holds of
its parts.
-/

namespace ResourceSearch

variable {σ τ α β : Type}

/-- The state that an engine is in after some calls. -/
def Engine.after (engine : Engine σ) (calls : List Call) (state : σ) : σ :=
  calls.foldl (fun state c ↦ (engine.answer c state).2) state

theorem Engine.after_append (engine : Engine σ) (first second : List Call) (state : σ) :
    engine.after (first ++ second) state = engine.after second (engine.after first state) := by
  rw [after, List.foldl_append]
  rfl

namespace Run

variable {engine : Engine σ}

theorem calls_bind_of_silent {run : Run σ α} {next : α → Run σ β}
    (h : ∀ a world, (next a world).2.calls = world.calls) (world : World σ) :
    ((run >>= next) world).2.calls = (run world).2.calls :=
  h _ _

/-! ## Calls of a kind -/

/-- An operation acts by calls, and makes none but calls of some kind. -/
def ActsWithin (engine : Engine σ) (kind : Call → Prop) (run : Run σ α) : Prop :=
  ∀ world, ∃ calls, (run world).2.calls = world.calls ++ calls ∧
    (run world).2.engine = engine.after calls world.engine ∧ ∀ c ∈ calls, kind c

section

variable {kind : Call → Prop}

theorem actsWithin_pure (a : α) : ActsWithin engine kind (pure a : Run σ α) :=
  fun _ ↦ ⟨[], (List.append_nil _).symm, rfl, by simp⟩

theorem actsWithin_logAll (events : List Event) : ActsWithin engine kind (logAll events) :=
  fun _ ↦ ⟨[], (List.append_nil _).symm, rfl, by simp⟩

theorem actsWithin_call {c : Call} (h : kind c) : ActsWithin engine kind (call engine c) :=
  fun world ↦ ⟨[c], calls_call engine c world, rfl, by simpa using h⟩

theorem ActsWithin.bind {run : Run σ α} {next : α → Run σ β} (h : ActsWithin engine kind run)
    (hnext : ∀ a, ActsWithin engine kind (next a)) : ActsWithin engine kind (run >>= next) := by
  intro world
  obtain ⟨first, hfirst, hafter, hkind⟩ := h world
  obtain ⟨second, hsecond, hafter', hkind'⟩ := hnext (run world).1 (run world).2
  refine ⟨first ++ second, ?_, ?_, fun c hc ↦ ?_⟩
  · rw [bind_apply, hsecond, hfirst, List.append_assoc]
  · rw [bind_apply, hafter', hafter, Engine.after_append]
  · exact (List.mem_append.mp hc).elim (hkind c) (hkind' c)

theorem ActsWithin.returning {run : Run σ α} (h : ActsWithin engine kind run) (value : α → β) :
    ActsWithin engine kind (do return value (← run)) :=
  h.bind fun a ↦ actsWithin_pure (value a)

end

/-! ## Calls of any kind -/

/-- What an operation does to the engine it does by the calls that it records. -/
def ActsByCalls (engine : Engine σ) (run : Run σ α) : Prop :=
  ∀ world, ∃ calls, (run world).2.calls = world.calls ++ calls ∧
    (run world).2.engine = engine.after calls world.engine

theorem actsByCalls_iff {run : Run σ α} :
    ActsByCalls engine run ↔ ActsWithin engine (fun _ ↦ True) run := by
  refine forall_congr' fun world ↦ exists_congr fun calls ↦ and_congr_right fun _ ↦ ?_
  exact (and_iff_left fun _ _ ↦ trivial).symm

theorem actsByCalls_pure (a : α) : ActsByCalls engine (pure a : Run σ α) :=
  actsByCalls_iff.mpr (actsWithin_pure a)

theorem actsByCalls_logAll (events : List Event) : ActsByCalls engine (logAll events) :=
  actsByCalls_iff.mpr (actsWithin_logAll events)

theorem actsByCalls_call (c : Call) : ActsByCalls engine (call engine c) :=
  actsByCalls_iff.mpr (actsWithin_call trivial)

theorem ActsByCalls.bind {run : Run σ α} {next : α → Run σ β} (h : ActsByCalls engine run)
    (hnext : ∀ a, ActsByCalls engine (next a)) : ActsByCalls engine (run >>= next) :=
  actsByCalls_iff.mpr ((actsByCalls_iff.mp h).bind fun a ↦ actsByCalls_iff.mp (hnext a))

theorem ActsByCalls.foldlM {step : β → α → Run σ β}
    (h : ∀ b a, ActsByCalls engine (step b a)) (b : β) (as : List α) :
    ActsByCalls engine (as.foldlM step b) := by
  induction as generalizing b with
  | nil => exact actsByCalls_pure b
  | cons a as ih =>
    rw [List.foldlM_cons]
    exact (h b a).bind fun b' ↦ ih b'

/-- If the calls that are recorded are known, so is their kind. -/
theorem ActsByCalls.within {kind : Call → Prop} {run : Run σ α} (h : ActsByCalls engine run)
    (hcalls : ∀ world, ∃ calls, (run world).2.calls = world.calls ++ calls ∧ ∀ c ∈ calls, kind c) :
    ActsWithin engine kind run := by
  intro world
  obtain ⟨calls, hrecorded, hafter⟩ := h world
  obtain ⟨calls', hrecorded', hkind⟩ := hcalls world
  obtain rfl : calls = calls' := List.append_cancel_left (hrecorded.symm.trans hrecorded')
  exact ⟨calls, hrecorded, hafter, hkind⟩

/-! ## The same course on two engines -/

/-- Two operations, each on an engine of its own, have the same result and make the same calls. -/
def Agrees (run : Run σ α) (run' : Run τ α) : Prop :=
  ∀ world world', (run world).1 = (run' world').1 ∧ ∃ calls,
    (run world).2.calls = world.calls ++ calls ∧ (run' world').2.calls = world'.calls ++ calls

theorem agrees_pure (a : α) : Agrees (pure a : Run σ α) (pure a : Run τ α) :=
  fun _ _ ↦ ⟨rfl, [], (List.append_nil _).symm, (List.append_nil _).symm⟩

theorem agrees_logAll (events : List Event) :
    Agrees (logAll events : Run σ Unit) (logAll events : Run τ Unit) :=
  fun _ _ ↦ ⟨rfl, [], (List.append_nil _).symm, (List.append_nil _).symm⟩

theorem Agrees.bind {run : Run σ α} {run' : Run τ α} {next : α → Run σ β} {next' : α → Run τ β}
    (h : Agrees run run') (hnext : ∀ a, Agrees (next a) (next' a)) :
    Agrees (run >>= next) (run' >>= next') := by
  intro world world'
  obtain ⟨hresult, first, hfirst, hfirst'⟩ := h world world'
  obtain ⟨hresult', second, hsecond, hsecond'⟩ :=
    hnext (run world).1 (run world).2 (run' world').2
  rw [bind_apply, bind_apply, ← hresult]
  refine ⟨hresult', first ++ second, ?_, ?_⟩
  · rw [hsecond, hfirst, List.append_assoc]
  · rw [hsecond', hfirst', List.append_assoc]

theorem Agrees.foldlM {step : β → α → Run σ β} {step' : β → α → Run τ β}
    (h : ∀ b a, Agrees (step b a) (step' b a)) (b : β) (as : List α) :
    Agrees (as.foldlM step b) (as.foldlM step' b) := by
  induction as generalizing b with
  | nil => exact agrees_pure b
  | cons a as ih =>
    rw [List.foldlM_cons, List.foldlM_cons]
    exact (h b a).bind fun b' ↦ ih b'

end Run

end ResourceSearch
