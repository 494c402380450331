import ResourceSearch.Routing

/-!
# Read access

Who is asking, and what that means for a query. A host that can list resources by principal
keeps, in every document of an access-controlled index, the principals that may read it. A query
against such an index is restricted to the documents of the asking user's principals, unless the
user may read everything.
-/

namespace ResourceSearch

/-- What a user may do with a resource. -/
inductive Right where
  | read
  | write
  | grant
deriving DecidableEq, Repr

/-- Who is asking. -/
structure User where
  id : String
  roles : List String
deriving DecidableEq, Repr

/-- A user's own identifier and those of the user's roles. -/
def User.principals (user : User) : List String :=
  user.id :: user.roles

/-- The permissions of a host. -/
structure Permissions where
  /-- The rights that a user holds on each of some resources. One without rights may be absent. -/
  rights : User → List String → Dict String (List Right)
  /-- Whether the host can list resources by principal, and so keeps documents up to date. -/
  supportsReverseLookup : Bool

/-- Permissions under which everyone may do everything. -/
def Permissions.free : Permissions where
  rights _ ids := Dict.ofList (ids.map (·, [.read, .write, .grant]))
  supportsReverseLookup := false

/-- What filtering queries needs from a host. -/
structure AccessControl where
  permissions : Permissions
  /-- The user of the current session. -/
  user : User
  /-- An identifier of no resource: only who may read everything may read it. -/
  probe : String

/-- The field of a document that lists who may read it. -/
def readAccessField : String := "read_access"

/-! ## Sessions -/

/-- A host that is asked about rights. It answers out of a state of its own, which may be another
one afterwards. -/
structure Host (τ : Type) where
  /-- The rights that a user holds on each of some resources. One without rights may be absent. -/
  rights : User → List String → StateM τ (Dict String (List Right))
  /-- Whether the host can list resources by principal, and so keeps documents up to date. -/
  supportsReverseLookup : Bool

/-- A user who is asking, and the host that knows what the user may do. -/
structure UserSession (τ : Type) where
  host : Host τ
  user : User
  /-- An identifier of no resource: only who may read everything may read it. -/
  probe : String

/-- The host with fixed permissions. Its state is the record of what it was asked: the resources of
each question. -/
def Permissions.recorded (permissions : Permissions) : Host (List (List String)) where
  rights user ids := do
    modify (· ++ [ids])
    return permissions.rights user ids
  supportsReverseLookup := permissions.supportsReverseLookup

def AccessControl.session (access : AccessControl) : UserSession (List (List String)) :=
  ⟨access.permissions.recorded, access.user, access.probe⟩

/-! ## Whether a query is filtered -/

/-- Whether the rights that a host has told include the right to read a resource. -/
def grantsRead (rights : Dict String (List Right)) (id : String) : Bool :=
  match rights.get? id with
  | some held => .read ∈ held
  | none => false

namespace UserSession

variable {τ : Type}

/-- Whether the user may read everything, as the right on the probe tells. -/
def readsEverything (session : UserSession τ) : StateM τ Bool := do
  return grantsRead (← session.host.rights session.user [session.probe]) session.probe

/-- Whether queries against an index are filtered. The host is asked only if it depends on it. -/
def filters (session : UserSession τ) (table : RoutingTable) (index : String) :
    StateM τ Bool := do
  if table.isAccessControlled index && session.host.supportsReverseLookup then
    return !(← session.readsEverything)
  else return false

end UserSession

/-- Whether a query has to be filtered, with the questions that were put to the host. -/
structure Verdict where
  filtered : Bool
  /-- The resources asked about, one list for each question. -/
  asked : List (List String)
deriving DecidableEq, Repr

/-- Whether queries against an index are filtered, and what the host was asked for it. -/
def AccessControl.verdict (access : AccessControl) (table : RoutingTable) (index : String) :
    Verdict :=
  let (filtered, asked) := (access.session.filters table index).run []
  ⟨filtered, asked⟩

/-- The condition that holds of the documents that a user may read. -/
def User.accessClause (user : User) : String :=
  "(" ++ readAccessField ++ ":(\"" ++ "\" OR \"".intercalate user.principals ++ "\"))"

end ResourceSearch
