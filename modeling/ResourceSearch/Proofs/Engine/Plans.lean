import ResourceSearch.Proofs.Engine.Calls

/-!
# Plans of calls

Some operations know beforehand which calls they are going to make, and make them one after the
other until one fails. So what they do is told by a plan: their calls are the plan up to the first
that fails, and all of it if none does (`FollowsPlan`). As an engine answers out of its state, which
call is the first to fail can be found by making the calls again from where the run began.

Operations that follow plans can be put in a row. Where the first one fails, its calls follow the
joint plan as they are (`FollowsPlan.stop`); where it succeeds, those of the second one come after
them (`FollowsPlan.append`).
-/

namespace ResourceSearch

variable {σ : Type} {engine : Engine σ} {plan rest calls more : List Call} {state : σ}

namespace Engine

/-- The first failure among calls that are made one after the other. -/
def failure? (engine : Engine σ) : List Call → σ → Option EngineError
  | [], _ => none
  | c :: calls, state =>
    match engine.answer c state with
    | (.error error, _) => some error
    | (.ok _, next) => engine.failure? calls next

theorem failure?_append (engine : Engine σ) (calls more : List Call) (state : σ) :
    engine.failure? (calls ++ more) state
      = (engine.failure? calls state).or (engine.failure? more (engine.after calls state)) := by
  induction calls generalizing state with
  | nil => rfl
  | cons c calls ih =>
    have hafter : engine.after (c :: calls) state
        = engine.after calls (engine.answer c state).2 := rfl
    rw [List.cons_append, failure?, failure?, hafter]
    rcases engine.answer c state with ⟨answer, next⟩
    cases answer with
    | error error => rfl
    | ok response => exact ih next

theorem failure?_append_of_none (hnone : engine.failure? calls state = none)
    (more : List Call) :
    engine.failure? (calls ++ more) state = engine.failure? more (engine.after calls state) := by
  rw [failure?_append, hnone, Option.none_or]

theorem failure?_call (engine : Engine σ) (c : Call) (world : World σ) :
    engine.failure? [c] world.engine
      = match (Run.call engine c world).1 with
        | .error error => some error
        | .ok _ => none := by
  have hanswer : (Run.call engine c world).1 = (engine.answer c world.engine).1 := rfl
  rw [failure?, hanswer]
  rcases engine.answer c world.engine with ⟨answer, next⟩
  cases answer <;> rfl

/-- Calls are those of a plan, each of them made only if the ones before it succeeded. -/
structure FollowsPlan (engine : Engine σ) (state : σ) (plan calls : List Call) : Prop where
  /-- The calls are made in the order of the plan. -/
  isPrefix : calls <+: plan
  /-- No call is made after one that failed. -/
  failure?_dropLast : engine.failure? calls.dropLast state = none
  /-- Nothing is left out unless a call failed. -/
  complete : engine.failure? calls state = none → calls = plan

theorem followsPlan_nil : engine.FollowsPlan state [] [] :=
  ⟨List.prefix_rfl, rfl, fun _ ↦ rfl⟩

theorem followsPlan_singleton (c : Call) : engine.FollowsPlan state [c] [c] :=
  ⟨List.prefix_rfl, rfl, fun _ ↦ rfl⟩

theorem FollowsPlan.stop (h : engine.FollowsPlan state plan calls)
    (hfailed : engine.failure? calls state ≠ none) (rest : List Call) :
    engine.FollowsPlan state (plan ++ rest) calls :=
  ⟨h.isPrefix.trans (List.prefix_append plan rest), h.failure?_dropLast,
    fun hnone ↦ absurd hnone hfailed⟩

theorem FollowsPlan.append (h : engine.FollowsPlan state plan calls)
    (hnone : engine.failure? calls state = none)
    (hmore : engine.FollowsPlan (engine.after calls state) rest more) :
    engine.FollowsPlan state (plan ++ rest) (calls ++ more) := by
  obtain rfl := h.complete hnone
  constructor
  · exact (List.prefix_append_right_inj calls).mpr hmore.isPrefix
  · by_cases hempty : more = []
    · rw [hempty, List.append_nil]
      exact h.failure?_dropLast
    · rw [List.dropLast_append_of_ne_nil hempty, failure?_append_of_none hnone]
      exact hmore.failure?_dropLast
  · intro hnone'
    rw [failure?_append_of_none hnone] at hnone'
    rw [hmore.complete hnone']

theorem FollowsPlan.failure?_eq_none_iff (h : engine.FollowsPlan state plan calls) :
    engine.failure? calls state = none ↔ engine.failure? plan state = none := by
  constructor
  · intro hnone
    rw [← h.complete hnone, hnone]
  · intro hnone
    obtain ⟨others, rfl⟩ := h.isPrefix
    rw [failure?_append, Option.or_eq_none_iff] at hnone
    exact hnone.1

/-- A plan is carried out as a whole, or up to one call that fails, which is the last one. -/
theorem FollowsPlan.eq_or_exists_failed (h : engine.FollowsPlan state plan calls) :
    (calls = plan ∧ engine.failure? calls state = none) ∨
      ∃ before c after error, plan = before ++ c :: after ∧ calls = before ++ [c] ∧
        engine.failure? before state = none ∧
        (engine.answer c (engine.after before state)).1 = .error error ∧
        engine.failure? calls state = some error := by
  cases hfailure : engine.failure? calls state with
  | none => exact .inl ⟨h.complete hfailure, rfl⟩
  | some error =>
    have hne : calls ≠ [] := by
      rintro rfl
      cases hfailure
    obtain ⟨before, c, rfl⟩ : ∃ before c, calls = before ++ [c] :=
      ⟨_, _, (List.dropLast_concat_getLast hne).symm⟩
    obtain ⟨after, rfl⟩ := h.isPrefix
    have hbefore := h.failure?_dropLast
    rw [List.dropLast_concat] at hbefore
    rw [failure?_append_of_none hbefore, failure?] at hfailure
    refine .inr ⟨before, c, after, error, List.append_assoc _ _ _, rfl, hbefore, ?_, rfl⟩
    rcases hanswer : engine.answer c (engine.after before state) with ⟨answer, next⟩
    rw [hanswer] at hfailure
    cases answer with
    | error found =>
      cases hfailure
      rfl
    | ok response => cases hfailure

end Engine

namespace World

variable {before between after : World σ}

/-- A run leads from one world to another by calls that follow a plan, and leaves the files as they
are. -/
structure Reaches (engine : Engine σ) (plan calls : List Call) (before after : World σ) :
    Prop where
  calls_eq : after.calls = before.calls ++ calls
  engine_eq : after.engine = engine.after calls before.engine
  files_eq : after.files = before.files
  followsPlan : engine.FollowsPlan before.engine plan calls

theorem Reaches.refl (engine : Engine σ) (world : World σ) : Reaches engine [] [] world world :=
  ⟨(List.append_nil _).symm, rfl, rfl, Engine.followsPlan_nil⟩

theorem Reaches.stop (h : Reaches engine plan calls before after)
    (hfailed : engine.failure? calls before.engine ≠ none) (rest : List Call) :
    Reaches engine (plan ++ rest) calls before after :=
  ⟨h.calls_eq, h.engine_eq, h.files_eq, h.followsPlan.stop hfailed rest⟩

theorem Reaches.append (h : Reaches engine plan calls before between)
    (hnone : engine.failure? calls before.engine = none)
    (hmore : Reaches engine rest more between after) :
    Reaches engine (plan ++ rest) (calls ++ more) before after where
  calls_eq := by rw [hmore.calls_eq, h.calls_eq, List.append_assoc]
  engine_eq := by rw [hmore.engine_eq, h.engine_eq, Engine.after_append]
  files_eq := hmore.files_eq.trans h.files_eq
  followsPlan := h.followsPlan.append hnone (h.engine_eq ▸ hmore.followsPlan)

/-- What comes after calls that all succeeded can be told from where they have led. -/
theorem Reaches.failure?_append (h : Reaches engine plan calls before after)
    (hnone : engine.failure? calls before.engine = none) (more : List Call) :
    engine.failure? (calls ++ more) before.engine = engine.failure? more after.engine := by
  rw [Engine.failure?_append_of_none hnone, h.engine_eq]

theorem Reaches.logAll (h : Reaches engine plan calls before after) (events : List Event) :
    Reaches engine plan calls before (Run.logAll events after).2 :=
  ⟨h.calls_eq, h.engine_eq, h.files_eq, h.followsPlan⟩

theorem reaches_call (engine : Engine σ) (c : Call) (world : World σ) :
    Reaches engine [c] [c] world (Run.call engine c world).2 :=
  ⟨Run.calls_call engine c world, rfl, rfl, Engine.followsPlan_singleton c⟩

end World

end ResourceSearch
