import ResourceSearch.Query.Compiler

/-!
# Access filtering

What a session changes about a query. A query is compiled in a session whose host may be asked
about rights and may answer each time out of another state; it is compiled without one by leaving
the session out. The two requests search the same index in the same way, and their texts differ by
one condition at most: the clause for the session's user.

## Questions to the host

That a host is asked at most once is a statement about its state. After compiling, the state is the
one before, or the one that the question about the probe leaves behind, whatever the host does with
its state. The host that records its questions shows which of the two it was.
-/

namespace ResourceSearch

namespace UserSession

variable {τ : Type}

/-- What the host answers about the probe, and its state afterwards. -/
def probed (session : UserSession τ) (state : τ) : Dict String (List Right) × τ :=
  session.host.rights session.user [session.probe] state

/-- What queries against an index show depends on the session: the documents of the index say who
may read them, and the host keeps them up to date. -/
def Restricts (session : UserSession τ) (table : RoutingTable) (index : String) : Prop :=
  table.isAccessControlled index = true ∧ session.host.supportsReverseLookup = true

/-! ## The decision -/

theorem filters_of_restricts {session : UserSession τ} {table : RoutingTable} {index : String}
    (h : session.Restricts table index) (state : τ) :
    session.filters table index state
      = (!grantsRead (session.probed state).1 session.probe, (session.probed state).2) := by
  obtain ⟨hindex, hhost⟩ := h
  rw [filters, hindex, hhost]
  rfl

theorem filters_of_not_restricts {session : UserSession τ} {table : RoutingTable} {index : String}
    (h : ¬ session.Restricts table index) (state : τ) :
    session.filters table index state = (false, state) := by
  have hcondition :
      (table.isAccessControlled index && session.host.supportsReverseLookup) = false := by
    rw [Restricts] at h
    simpa using h
  rw [filters, hcondition]
  rfl

end UserSession

namespace Query.Compiler

variable {τ : Type}

/-! ## Conditions in a session -/

theorem accessConditionsIn_some (routing : RoutingTable) (session : UserSession τ) (index : String)
    (state : τ) :
    accessConditionsIn routing (some session) index state
      = (if (session.filters routing index state).1 then [session.user.accessClause] else [],
          (session.filters routing index state).2) := by
  change (match session.filters routing index state with
    | (filtered, after) =>
      (if filtered then pure [session.user.accessClause] else pure [] : StateM τ (List String))
        after) = _
  cases session.filters routing index state with
  | mk filtered after => cases filtered <;> rfl

theorem accessConditionsIn_of_not_restricts {routing : RoutingTable} {session : UserSession τ}
    {index : String} (h : ¬ session.Restricts routing index) (state : τ) :
    accessConditionsIn routing (some session) index state = ([], state) := by
  rw [accessConditionsIn_some, session.filters_of_not_restricts h]
  rfl

/-- In an index that the session restricts, the host is asked once, and the clause is left out
exactly if the answer grants the right to read the probe. -/
theorem accessConditionsIn_of_restricts {routing : RoutingTable} {session : UserSession τ}
    {index : String} (h : session.Restricts routing index) (state : τ) :
    accessConditionsIn routing (some session) index state
      = (if grantsRead (session.probed state).1 session.probe then []
          else [session.user.accessClause],
        (session.probed state).2) := by
  rw [accessConditionsIn_some, session.filters_of_restricts h]
  cases grantsRead (session.probed state).1 session.probe <;> rfl

theorem conditions_none (routing : RoutingTable) (query : UserQuery) :
    conditions ⟨routing, none⟩ query
      = Query.conditions (routing.indexForStructure query.resourceType) (parse query.text) :=
  List.append_nil _

theorem compileIn_apply (routing : RoutingTable) (session? : Option (UserSession τ))
    (query : UserQuery) (state : τ) :
    compileIn routing session? query state
      = (request query (routing.indexForStructure query.resourceType)
          (conditions ⟨routing, none⟩ query ++
            (accessConditionsIn routing session?
              (routing.indexForStructure query.resourceType) state).1),
        (accessConditionsIn routing session?
          (routing.indexForStructure query.resourceType) state).2) := by
  rw [conditions_none]
  rfl

/-! ## Texts -/

theorem queryTextOf?_request (query : UserQuery) (index : String) (conditions : List String) :
    queryTextOf? (request query index conditions).body = some (conjunction conditions) := by
  rfl

theorem conjunction_append_singleton {conditions : List String} (h : conditions ≠ [])
    (condition : String) :
    conjunction (conditions ++ [condition]) = conjunction conditions ++ " AND " ++ condition := by
  rw [conjunction, String.intercalate_append_of_ne_nil h (List.cons_ne_nil _ _),
    String.intercalate_singleton, conjunction]

/-! ## Two requests for one query -/

/-- Two requests search in the same way, whatever they search for. -/
structure SameSearch (request request' : SearchRequest) : Prop where
  index : request.index = request'.index
  offset : request.offset = request'.offset
  size : request.size = request'.size
  sort : request.body.field? "sort" = request'.body.field? "sort"
  ignoreNotFound : request.ignoreNotFound = request'.ignoreNotFound

theorem sameSearch_request (query : UserQuery) (index : String) (conditions others : List String) :
    SameSearch (request query index conditions) (request query index others) := by
  constructor <;> rfl

/-- **Access filtering.** A session changes nothing about a query but its text, and the text only by
the clause for the session's user: it is added if the index that is searched says who may read its
documents, the host keeps them up to date, and the host does not grant the right to read the probe.
The host is asked about the probe, once, only if the answer can make a difference. Compiling with
access control is the case of a session whose host records its questions. -/
theorem compileIn_some_adds_at_most_accessClause (routing : RoutingTable) (session : UserSession τ)
    (query : UserQuery) (state : τ) :
    ∃ (index text filteredText : String),
      (compileIn routing (some session) query state).1.index = some index ∧
      SameSearch (compile ⟨routing, none⟩ query)
        (compileIn routing (some session) query state).1 ∧
      queryTextOf? (compile ⟨routing, none⟩ query).body = some text ∧
      queryTextOf? (compileIn routing (some session) query state).1.body = some filteredText ∧
      (session.Restricts routing index →
        (compileIn routing (some session) query state).2 = (session.probed state).2 ∧
        filteredText =
          if grantsRead (session.probed state).1 session.probe then text
          else if conditions ⟨routing, none⟩ query = [] then session.user.accessClause
          else text ++ " AND " ++ session.user.accessClause) ∧
      (¬ session.Restricts routing index →
        (compileIn routing (some session) query state).2 = state ∧ filteredText = text) := by
  rw [compileIn_apply]
  refine ⟨_, conjunction (conditions ⟨routing, none⟩ query), _, rfl, sameSearch_request query _ _ _,
    queryTextOf?_request query _ _, queryTextOf?_request query _ _,
    fun hrestricts ↦ ?_, fun hrestricts ↦ ?_⟩
  · rw [accessConditionsIn_of_restricts hrestricts]
    refine ⟨rfl, ?_⟩
    by_cases hgrants : grantsRead (session.probed state).1 session.probe
    · rw [if_pos hgrants, if_pos hgrants, List.append_nil]
    · rw [if_neg hgrants, if_neg hgrants]
      -- the joining word stands only between two conditions
      by_cases hnone : conditions ⟨routing, none⟩ query = []
      · rw [if_pos hnone, hnone]
        exact String.intercalate_singleton
      · rw [if_neg hnone]
        exact conjunction_append_singleton hnone _
  · rw [accessConditionsIn_of_not_restricts hrestricts, List.append_nil]
    exact ⟨rfl, rfl⟩

end Query.Compiler

end ResourceSearch
