import Mathlib.Data.List.DropRight
import Mathlib.Data.List.Infix
import Mathlib.Tactic.ByContra
import ResourceSearch.Config.Basic

/-!
# Hosts and their ports

An address is a scheme, an authority and a path. A port is what the authority ends in, so one that
is given apart from the address belongs behind the authority. But it is all that follows the scheme
that is looked through for a port, any colon in it is taken for that of a port, and what is added is
added behind the path.

## When that is right

Without a path, the end of the address is that of its authority. So an authority that has no colon
gets its port if no path follows, and one that ends in a port keeps it, whatever follows. In every
other address a colon is there that is not that of a port, or the port is put behind the path, or
there is no authority at all. To set the host once more changes nothing in any of them: there is a
colon by then, and no slash at the end.
-/

namespace ResourceSearch

namespace Text

/-! ## The end of a text -/

variable {p : Char → Bool} {front back : List Char}

theorem dropEndWhile_append_of_ne_nil (h : dropEndWhile p back ≠ []) :
    dropEndWhile p (front ++ back) = front ++ dropEndWhile p back := by
  have hne : (back.reverse.dropWhile p).isEmpty = false := by
    simpa [dropEndWhile, List.isEmpty_eq_false_iff] using h
  rw [dropEndWhile, dropEndWhile, List.reverse_append, List.dropWhile_append, hne,
    if_neg Bool.false_ne_true, List.reverse_append, List.reverse_reverse]

theorem dropEndWhile_append_of_eq_nil (h : dropEndWhile p back = []) :
    dropEndWhile p (front ++ back) = dropEndWhile p front := by
  have hnil : (back.reverse.dropWhile p).isEmpty = true := by
    simpa [dropEndWhile] using h
  rw [dropEndWhile, List.reverse_append, List.dropWhile_append, if_pos hnil, dropEndWhile]

theorem dropEndWhile_of_forall_not (h : ∀ c ∈ back, p c = false) : dropEndWhile p back = back := by
  refine List.rdropWhile_eq_self_iff.mpr fun hne ↦ ?_
  rw [h _ (List.getLast_mem hne)]
  exact Bool.false_ne_true

end Text

namespace Config

/-! ## Addresses -/

/-- An address `scheme://authority` or `scheme://authority/path`. -/
structure Address where
  scheme : List Char
  authority : List Char
  /-- What follows the authority, with the slash at which that ends. -/
  path : List Char
  /-- The scheme ends at the first `://`. -/
  scheme_ends : ¬ [':', '/', '/'] <:+: scheme
  /-- The authority ends at the first slash. -/
  authority_ends : '/' ∉ authority
  path_begins : ∀ c ∈ path.head?, c = '/'

/-- An authority ends in a port: a colon and the digits of a number. -/
def EndsInPort (authority : List Char) : Prop :=
  ∃ front digits, authority = front ++ ':' :: digits ∧ digits ≠ [] ∧ ∀ d ∈ digits, d.isDigit = true

theorem endsInPort_iff {authority : List Char} :
    EndsInPort authority ↔
      authority.rtakeWhile Char.isDigit ≠ [] ∧ [':'] <:+ authority.rdropWhile Char.isDigit := by
  constructor
  · rintro ⟨front, digits, rfl, hne, hdigits⟩
    have hreversed : ∀ d ∈ digits.reverse, d.isDigit = true := fun d hd ↦
      hdigits d (List.mem_reverse.mp hd)
    have htake : (front ++ ':' :: digits).rtakeWhile Char.isDigit = digits := by
      simp [List.rtakeWhile, List.takeWhile_append_of_pos hreversed]
    have hdrop : (front ++ ':' :: digits).rdropWhile Char.isDigit = front ++ [':'] := by
      simp [List.rdropWhile, List.dropWhile_append_of_pos hreversed]
    rw [htake, hdrop]
    exact ⟨hne, List.suffix_append front [':']⟩
  · rintro ⟨hne, front, hfront⟩
    refine ⟨front, authority.rtakeWhile Char.isDigit, ?_, hne, fun d hd ↦ ?_⟩
    · rw [← List.singleton_append, ← List.append_assoc, hfront, List.rdropWhile_append_rtakeWhile]
    · exact List.mem_rtakeWhile_imp hd

instance (authority : List Char) : Decidable (EndsInPort authority) :=
  decidable_of_iff _ endsInPort_iff.symm

theorem EndsInPort.colon_mem {authority : List Char} (h : EndsInPort authority) :
    ':' ∈ authority := by
  obtain ⟨front, digits, rfl, -⟩ := h
  exact List.mem_append_right front List.mem_cons_self

/-- What a port adds to an address. -/
def portChars (port : UInt16) : List Char :=
  ':' :: Nat.toDigits 10 port.toNat

theorem slash_not_mem_portChars (port : UInt16) : '/' ∉ portChars port := by
  intro h
  rcases List.mem_cons.mp h with h | h
  · exact absurd h (by decide)
  · exact absurd (Nat.isDigit_of_mem_toDigits (by decide) (by decide) h) (by decide)

namespace Address

def chars (url : Address) : List Char :=
  url.scheme ++ [':', '/', '/'] ++ (url.authority ++ url.path)

def text (url : Address) : String :=
  String.ofList url.chars

/-- The path without the slashes at its end. -/
def trimmedPath (url : Address) : List Char :=
  Text.dropEndWhile (· = '/') url.path

theorem trimmedPath_eq_nil_iff {url : Address} :
    url.trimmedPath = [] ↔ ∀ c ∈ url.path, c = '/' := by
  refine List.rdropWhile_eq_nil_iff.trans ?_
  simp only [decide_eq_true_eq]

theorem head?_trimmedPath {url : Address} : ∀ c ∈ url.trimmedPath.head?, c = '/' := by
  intro c hc
  obtain ⟨slashes, hpath⟩ : url.trimmedPath <+: url.path := List.rdropWhile_prefix _ _
  refine url.path_begins c ?_
  rw [← hpath, List.head?_append, Option.mem_def.mp hc, Option.some_or]
  rfl

/-- The address with a port behind its authority, unless that ends in one, and without slashes at
its end. -/
def withPort (url : Address) (port : UInt16) : Address where
  scheme := url.scheme
  authority :=
    if EndsInPort url.authority then url.authority else url.authority ++ portChars port
  path := url.trimmedPath
  scheme_ends := url.scheme_ends
  authority_ends := by
    split
    · exact url.authority_ends
    · rw [List.mem_append, not_or]
      exact ⟨url.authority_ends, slash_not_mem_portChars port⟩
  path_begins := url.head?_trimmedPath

end Address

/-! ## What follows the scheme -/

theorem afterScheme?_cons {c : Char} {cs : List Char} (h : ¬ [':', '/', '/'] <+: c :: cs) :
    afterScheme? (c :: cs) = afterScheme? cs := by
  rw [afterScheme?.eq_def]
  split
  · rename_i rest heq
    exact absurd ⟨rest, heq.symm⟩ h
  · rename_i heq
    rw [(List.cons.inj heq).2]
  · rename_i heq
    cases heq

theorem afterScheme?_append {scheme : List Char} (h : ¬ [':', '/', '/'] <:+: scheme)
    (rest : List Char) : afterScheme? (scheme ++ [':', '/', '/'] ++ rest) = some rest := by
  induction scheme with
  | nil => rfl
  | cons c scheme ih =>
    have htail : ¬ [':', '/', '/'] <:+: scheme := fun hinside ↦
      h (hinside.trans (List.suffix_cons c scheme).isInfix)
    rw [← ih htail]
    refine afterScheme?_cons fun hfront ↦ ?_
    -- In a scheme of one or two characters, the colon after it would be a slash.
    match scheme with
    | [] => simp [List.cons_prefix_cons] at hfront
    | [x] => simp [List.cons_prefix_cons] at hfront
    | x :: y :: scheme =>
      change [':', '/', '/'] <+: c :: x :: y :: (scheme ++ [':', '/', '/'] ++ rest) at hfront
      simp only [List.cons_prefix_cons, List.nil_prefix, and_true] at hfront
      obtain ⟨rfl, rfl, rfl⟩ := hfront
      exact h ⟨[], scheme, rfl⟩

theorem afterScheme?_eq_none {cs : List Char} (h : ¬ [':', '/', '/'] <:+: cs) :
    afterScheme? cs = none := by
  induction cs with
  | nil => rfl
  | cons c cs ih =>
    rw [afterScheme?_cons fun hfront ↦ h hfront.isInfix]
    exact ih fun hinside ↦ h (hinside.trans (List.suffix_cons c cs).isInfix)

theorem hostChars_some (cs : List Char) (port : UInt16) :
    hostChars cs (some port)
      = if hasColon (Text.dropEndWhile (· = '/') cs) then Text.dropEndWhile (· = '/') cs
        else Text.dropEndWhile (· = '/') cs ++ portChars port := rfl

theorem hostChars_eq_self {cs : List Char} (hcolon : hasColon cs = true)
    (hend : Text.dropEndWhile (· = '/') cs = cs) (port : Option UInt16) :
    hostChars cs port = cs := by
  cases port with
  | none => exact hend
  | some port => rw [hostChars_some, hend, if_pos hcolon]

theorem dropEndWhile_hostChars (cs : List Char) (port : UInt16) :
    Text.dropEndWhile (· = '/') (hostChars cs (some port)) = hostChars cs (some port) := by
  rw [hostChars_some]
  split
  · exact List.rdropWhile_idempotent _ _
  · have hport : Text.dropEndWhile (· = '/') (portChars port) = portChars port := by
      refine Text.dropEndWhile_of_forall_not fun c hc ↦ decide_eq_false ?_
      rintro rfl
      exact slash_not_mem_portChars port hc
    rw [Text.dropEndWhile_append_of_ne_nil, hport]
    rw [hport]
    exact List.cons_ne_nil _ _

namespace Address

variable {url : Address}

/-! ## The host of an address -/

theorem hasColon_append {rest : List Char} :
    hasColon (url.scheme ++ [':', '/', '/'] ++ rest) = true ↔ ':' ∈ rest := by
  rw [hasColon, afterScheme?_append url.scheme_ends, Option.getD_some, decide_eq_true_iff]

theorem dropEndWhile_chars (h : url.authority ≠ [] ∨ url.trimmedPath ≠ []) :
    Text.dropEndWhile (· = '/') url.chars
      = url.scheme ++ [':', '/', '/'] ++ (url.authority ++ url.trimmedPath) := by
  have hauthority : Text.dropEndWhile (· = '/') url.authority = url.authority := by
    refine Text.dropEndWhile_of_forall_not fun c hc ↦ decide_eq_false ?_
    rintro rfl
    exact url.authority_ends hc
  have hrest : Text.dropEndWhile (· = '/') (url.authority ++ url.path)
      = url.authority ++ url.trimmedPath := by
    by_cases hpath : url.trimmedPath = []
    · rw [Text.dropEndWhile_append_of_eq_nil hpath, hauthority, hpath, List.append_nil]
    · exact Text.dropEndWhile_append_of_ne_nil hpath
  rw [chars, Text.dropEndWhile_append_of_ne_nil, hrest]
  rw [hrest, ne_eq, List.append_eq_nil_iff, not_and_or]
  exact h

/-- Without an authority and a path, the slashes after the scheme are those at the end. -/
theorem dropEndWhile_chars_of_nil (hauthority : url.authority = []) (hpath : url.trimmedPath = []) :
    Text.dropEndWhile (· = '/') url.chars = url.scheme ++ [':'] := by
  have hslashes : Text.dropEndWhile (· = '/') (['/', '/'] ++ url.path) = [] := by
    rw [Text.dropEndWhile_append_of_eq_nil hpath]
    rfl
  calc Text.dropEndWhile (· = '/') url.chars
      = Text.dropEndWhile (· = '/') (url.scheme ++ [':'] ++ (['/', '/'] ++ url.path)) := by
        rw [chars, hauthority]
        simp
    _ = Text.dropEndWhile (· = '/') (url.scheme ++ [':']) :=
        Text.dropEndWhile_append_of_eq_nil hslashes
    _ = url.scheme ++ [':'] := Text.dropEndWhile_append_of_ne_nil (by decide)

theorem hasColon_append_colon : hasColon (url.scheme ++ [':']) = true := by
  have hnone : ¬ [':', '/', '/'] <:+: url.scheme ++ [':'] := by
    rw [List.infix_concat_iff, not_or]
    refine ⟨fun hback ↦ ?_, url.scheme_ends⟩
    have hlast := hback.getLast (List.cons_ne_nil _ _)
    simp at hlast
  rw [hasColon, afterScheme?_eq_none hnone]
  simp

/-- The host of an address is the address without slashes at its end, with the port behind it if
no colon follows the scheme. Of an address that is nothing but a scheme, the scheme is left. -/
theorem hostChars_cases (url : Address) (port : UInt16) :
    (url.authority = [] ∧ url.trimmedPath = [] ∧
      hostChars url.chars (some port) = url.scheme ++ [':']) ∨
    (':' ∈ url.authority ++ url.trimmedPath ∧
      hostChars url.chars (some port)
        = url.scheme ++ [':', '/', '/'] ++ (url.authority ++ url.trimmedPath)) ∨
    ((url.authority ≠ [] ∨ url.trimmedPath ≠ []) ∧ ':' ∉ url.authority ++ url.trimmedPath ∧
      hostChars url.chars (some port)
        = url.scheme ++ [':', '/', '/']
          ++ (url.authority ++ url.trimmedPath ++ portChars port)) := by
  by_cases h : url.authority ≠ [] ∨ url.trimmedPath ≠ []
  · right
    rw [hostChars_some, dropEndWhile_chars h]
    by_cases hcolon : ':' ∈ url.authority ++ url.trimmedPath
    · exact .inl ⟨hcolon, if_pos (hasColon_append.mpr hcolon)⟩
    · rw [if_neg (mt hasColon_append.mp hcolon), List.append_assoc]
      exact .inr ⟨h, hcolon, rfl⟩
  · left
    simp only [ne_eq, not_or, not_not] at h
    rw [hostChars_some, dropEndWhile_chars_of_nil h.1 h.2, if_pos hasColon_append_colon]
    exact ⟨h.1, h.2, rfl⟩

theorem hasColon_hostChars (url : Address) (port : UInt16) :
    hasColon (hostChars url.chars (some port)) = true := by
  rcases url.hostChars_cases port with ⟨-, -, h⟩ | ⟨hcolon, h⟩ | ⟨-, -, h⟩
  · rw [h]
    exact hasColon_append_colon
  · rw [h, hasColon_append]
    exact hcolon
  · rw [h, hasColon_append]
    exact List.mem_append_right _ List.mem_cons_self

theorem chars_withPort (url : Address) (port : UInt16) :
    (url.withPort port).chars
      = url.scheme ++ [':', '/', '/'] ++ ((if EndsInPort url.authority then url.authority
          else url.authority ++ portChars port) ++ url.trimmedPath) := rfl

/-- A port begins with a colon and a path with a slash, so the two do not change places. -/
theorem trimmedPath_append_portChars_eq_iff {port : UInt16} :
    url.trimmedPath ++ portChars port = portChars port ++ url.trimmedPath ↔
      url.trimmedPath = [] := by
  constructor
  · intro hswap
    by_contra hpath
    obtain ⟨c, path, hcons⟩ := List.exists_cons_of_ne_nil hpath
    rw [hcons] at hswap
    have hslash : c = '/' := url.head?_trimmedPath c (by rw [hcons]; rfl)
    have hcolon : c = ':' := (List.cons.inj hswap).1
    exact absurd (hslash.symm.trans hcolon) (by decide)
  · intro hpath
    rw [hpath, List.nil_append, List.append_nil]

theorem hostChars_eq_chars_withPort_iff (url : Address) (port : UInt16) :
    hostChars url.chars (some port) = (url.withPort port).chars ↔
      EndsInPort url.authority ∨
        url.authority ≠ [] ∧ ':' ∉ url.authority ∧ url.trimmedPath = [] := by
  rw [chars_withPort]
  rcases url.hostChars_cases port with ⟨hauthority, -, h⟩ | ⟨hcolon, h⟩ | ⟨hne, hcolon, h⟩
  · rw [h, List.append_assoc, List.append_cancel_left_eq]
    refine iff_of_false (by simp) ?_
    rintro (hport | ⟨hne, -⟩)
    · exact absurd (hauthority ▸ hport.colon_mem) List.not_mem_nil
    · exact hne hauthority
  · rw [h, List.append_cancel_left_eq, List.append_cancel_right_eq]
    by_cases hport : EndsInPort url.authority
    · rw [if_pos hport]
      exact iff_of_true rfl (.inl hport)
    · rw [if_neg hport, List.self_eq_append_right]
      refine iff_of_false (List.cons_ne_nil _ _) ?_
      rintro (hport' | ⟨-, hnot, hpath⟩)
      · exact hport hport'
      · rw [hpath, List.append_nil] at hcolon
        exact hnot hcolon
  · have hauthority : ':' ∉ url.authority := fun hmem ↦ hcolon (List.mem_append_left _ hmem)
    have hport : ¬ EndsInPort url.authority := fun hport ↦ hauthority hport.colon_mem
    rw [h, if_neg hport, List.append_cancel_left_eq, List.append_assoc, List.append_assoc,
      List.append_cancel_left_eq, trimmedPath_append_portChars_eq_iff, or_iff_right hport]
    refine ⟨fun hpath ↦ ⟨?_, hauthority, hpath⟩, fun hpath ↦ hpath.2.2⟩
    exact hne.resolve_right fun hsome ↦ hsome hpath

end Address

/-! ## The host that is set -/

/-- **Where the port of a host is put.** One host is set. It is the address with its port in the
right place, and without slashes at the end, exactly if the authority ends in a port, or if it is
not empty, has no colon, and nothing but slashes follows it. Whichever host it is, setting it again,
with a port or without one, leaves the configuration as it is. -/
theorem withHost_eq_withPort_iff (config : Config) (url : Address) (port : UInt16) :
    ∃ host, config.withHost url.text (some port) = { config with hosts := [host] } ∧
      (host = (url.withPort port).text ↔
        EndsInPort url.authority ∨
          url.authority ≠ [] ∧ ':' ∉ url.authority ∧ ∀ c ∈ url.path, c = '/') ∧
      ∀ port', (config.withHost url.text (some port)).withHost host port'
        = config.withHost url.text (some port) := by
  have hset : config.withHost url.text (some port)
      = { config with hosts := [String.ofList (hostChars url.chars (some port))] } := by
    rw [withHost, Address.text, String.toList_ofList]
  refine ⟨_, hset, ?_, fun port' ↦ ?_⟩
  · rw [Address.text, String.ofList_inj, Address.hostChars_eq_chars_withPort_iff,
      Address.trimmedPath_eq_nil_iff]
  · rw [hset, withHost, String.toList_ofList, hostChars_eq_self (url.hasColon_hostChars port)
      (dropEndWhile_hostChars _ port)]

/-- A port behind brackets is kept, and so is the path but for its last slash. -/
example : (({} : Config).withHost "http://[::1]:9201/search/" (some 9200)).hosts
    = ["http://[::1]:9201/search"] := by decide +kernel

/-- A user and a password, and no port. -/
def addressWithPassword : Address where
  scheme := "http".toList
  authority := "elastic:secret@es".toList
  path := []
  scheme_ends := by decide +kernel
  authority_ends := by decide +kernel
  path_begins := nofun

/-- The colon before the password is taken for that of a port. -/
theorem hosts_addressWithPassword_ne :
    ¬ EndsInPort addressWithPassword.authority ∧
      addressWithPassword.text = "http://elastic:secret@es" ∧
      (({} : Config).withHost addressWithPassword.text (some 9200)).hosts
        = ["http://elastic:secret@es"] ∧
      (addressWithPassword.withPort 9200).text = "http://elastic:secret@es:9200" ∧
      (({} : Config).withHost addressWithPassword.text (some 9200)).hosts
        ≠ [(addressWithPassword.withPort 9200).text] := by
  have hset : (({} : Config).withHost addressWithPassword.text (some 9200)).hosts
      = ["http://elastic:secret@es"] := by decide +kernel
  have hported : (addressWithPassword.withPort 9200).text = "http://elastic:secret@es:9200" := by
    decide +kernel
  refine ⟨by decide +kernel, by decide +kernel, hset, hported, ?_⟩
  rw [hset, hported]
  decide +kernel

end Config

end ResourceSearch
