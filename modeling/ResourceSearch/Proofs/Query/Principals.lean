import ResourceSearch.Proofs.Query.Isolation

/-!
# What the access clause asks for

The access clause names a user's principals in phrases. It is put together from the principals as
they are, although a double quote ends a phrase and a backslash takes the next character out of it.
So the clause is read as it is meant for some users only.

## Counting characters

That a clause read as meant comes from harmless principals is shown by lengths. A phrase is at least
as long as what it stands for, and longer if it holds a backslash. If the phrases stand for the very
principals that were put between the quotes, each is as long as its principal: there is nothing to
unescape in it, and it is the principal itself. A quote cannot stand in a phrase without a
backslash.
-/

namespace ResourceSearch.Query

/-! ## Phrases and what they stand for -/

/-- What the content of a phrase stands for: a backslash takes the next character as it is. -/
def unescape : List Char → List Char
  | '\\' :: c :: rest => c :: unescape rest
  | ['\\'] => []
  | c :: rest => c :: unescape rest
  | [] => []

theorem unescape_of_not_mem {cs : List Char} (h : '\\' ∉ cs) : unescape cs = cs := by
  fun_induction unescape cs with
  | case1 c rest ih => exact absurd List.mem_cons_self h
  | case2 => exact absurd List.mem_cons_self h
  | case3 c rest hpair hlast ih => rw [ih fun hmem ↦ h (List.mem_cons_of_mem c hmem)]
  | case4 => rfl

theorem length_unescape_le (cs : List Char) : (unescape cs).length ≤ cs.length := by
  fun_induction unescape cs with
  | case1 c rest ih => simp only [List.length_cons]; omega
  | case2 => exact Nat.zero_le _
  | case3 c rest hpair hlast ih => simp only [List.length_cons]; omega
  | case4 => exact Nat.le_refl _

/-- A phrase is longer than what it stands for if there is a backslash in it. -/
theorem length_unescape_lt {cs : List Char} (h : '\\' ∈ cs) :
    (unescape cs).length < cs.length := by
  fun_induction unescape cs with
  | case1 c rest ih =>
    have hle := length_unescape_le rest
    simp only [List.length_cons]
    omega
  | case2 => exact Nat.zero_lt_one
  | case3 c rest hpair hlast ih =>
    -- A backslash at the head would make one of the pairs before, or be the last character.
    have hc : c ≠ '\\' := by
      rintro rfl
      cases rest with
      | nil => exact hlast rfl rfl
      | cons d rest => exact hpair d rest rfl rfl
    have hlt := ih ((List.mem_cons.mp h).resolve_left hc.symm)
    simp only [List.length_cons]
    omega
  | case4 => cases h

/-- What has been read of a phrase has a double quote in it only behind a backslash. -/
def Position.Guarded : Position → Prop
  | outside => True
  | inside content => '\\' ∉ content → '"' ∉ content
  | escaped content => '\\' ∈ content

theorem guarded_phrases_of_readFrom {position : Position} {cs : List Char} {tokens : List Token}
    (h : readFrom position cs = some tokens) (hposition : position.Guarded) :
    ∀ content ∈ phrases tokens, '\\' ∉ content → '"' ∉ content := by
  fun_induction readFrom position cs generalizing tokens with
  | case1 =>
    obtain rfl := Option.some.inj h
    exact fun content hcontent ↦ absurd hcontent List.not_mem_nil
  | case2 => cases h
  | case3 => cases h
  | case4 rest ih => exact ih h fun _ ↦ List.not_mem_nil
  | case5 c rest hc ih =>
    obtain ⟨ts, hts, rfl⟩ := Option.map_eq_some_iff.mp h
    have hrest := ih hts trivial
    exact hrest
  | case6 content rest ih => exact ih h (by simp [Position.Guarded])
  | case7 content rest hc ih =>
    obtain ⟨ts, hts, rfl⟩ := Option.map_eq_some_iff.mp h
    exact List.forall_mem_cons.mpr ⟨hposition, ih hts trivial⟩
  | case8 content c rest hc hq ih =>
    refine ih h fun hslash ↦ ?_
    rw [List.mem_append, not_or] at hslash ⊢
    exact ⟨hposition hslash.1, by simpa using Ne.symm hq⟩
  | case9 content c rest ih =>
    exact ih h fun hslash ↦ absurd (List.mem_append_left [c] hposition) hslash

/-! ## Joined texts -/

/-- Joined texts are the same texts, if each of the first is as long as its partner at least. -/
theorem eq_of_intercalate_eq {α : Type} {sep : List α} {xs ys : List (List α)}
    (hlength : List.Forall₂ (fun x y : List α ↦ y.length ≤ x.length) xs ys)
    (h : sep.intercalate xs = sep.intercalate ys) : xs = ys := by
  induction hlength with
  | nil => rfl
  | @cons x y xs ys hhead htail ih =>
    cases htail with
    | nil =>
      rw [List.intercalate_singleton, List.intercalate_singleton] at h
      rw [h]
    | @cons x' y' xs ys hhead' htail' =>
      have hrest : (sep.intercalate (y' :: ys)).length ≤ (sep.intercalate (x' :: xs)).length :=
        rel_intercalate (R := fun as bs : List α ↦ bs.length ≤ as.length) (Nat.le_refl _)
          (fun h h' ↦ by simpa using Nat.add_le_add h h') (Nat.le_refl _) (.cons hhead' htail')
      rw [List.intercalate_cons_cons, List.intercalate_cons_cons, List.append_assoc,
        List.append_assoc] at h
      have hsum := congrArg List.length h
      simp only [List.length_append] at hsum
      obtain ⟨rfl, hjoined⟩ := List.append_inj h (by omega)
      rw [ih (List.append_cancel_left hjoined)]

/-! ## The clause -/

/-- The tokens of a clause that asks for documents whose readers include one of some principals,
which are written as `contents`. -/
def readerTokens (contents : List (List Char)) : List Token :=
  marks ("(" ++ readAccessField ++ ":(") ++
    (marks " OR ").intercalate (contents.map fun content ↦ [.phrase content]) ++ marks "))"

/-- A text asks for the documents whose readers include one of some principals: it is read as one
group on the field for readers, with one phrase for each principal in turn. -/
def AsksForReaders (text : String) (principals : List String) : Prop :=
  ∃ contents, read? text.toList = some (readerTokens contents) ∧
    contents.map unescape = principals.map String.toList

/-- A phrase as it is written. -/
def quotedChars (content : List Char) : List Char :=
  '"' :: content ++ ['"']

theorem toList_accessClause (user : User) :
    user.accessClause.toList
      = ("(" ++ readAccessField ++ ":(").toList ++
          " OR ".toList.intercalate (user.principals.map (quotedChars ·.toList)) ++
          "))".toList := by
  have hphrases : (user.principals.map phrase).map String.toList
      = user.principals.map (quotedChars ·.toList) := by
    rw [List.map_map]
    refine List.map_congr_left fun principal _ ↦ ?_
    simp [phrase, quotedChars]
  rw [accessClause_eq, ← hphrases]
  simp [parenthesized, String.toList_intercalate]

theorem flatMap_text_readerTokens (contents : List (List Char)) :
    (readerTokens contents).flatMap Token.text
      = ("(" ++ readAccessField ++ ":(").toList ++
          " OR ".toList.intercalate (contents.map quotedChars) ++ "))".toList := by
  have hmarks : ∀ text : String, (marks text).flatMap Token.text = text.toList := fun text ↦ by
    rw [marks, List.flatMap_map]
    exact List.flatMap_singleton' _
  have hphrases : List.Forall₂ (fun ts cs ↦ ts.flatMap Token.text = cs)
      (contents.map fun content ↦ [Token.phrase content]) (contents.map quotedChars) := by
    rw [forall₂_map_iff]
    exact fun content _ ↦ List.flatMap_singleton _ _
  rw [readerTokens, List.flatMap_append, List.flatMap_append, hmarks, hmarks,
    rel_intercalate (R := fun ts cs ↦ ts.flatMap Token.text = cs) rfl
      (fun h h' ↦ by rw [List.flatMap_append, h, h']) (hmarks " OR ") hphrases]

theorem phrases_readerTokens (contents : List (List Char)) :
    phrases (readerTokens contents) = contents := by
  have hsep : phrases (marks " OR ") = [] := phrases_map_mark _
  rw [readerTokens, phrases_append, phrases_append, phrases_intercalate hsep, List.map_map]
  simp only [marks, phrases_map_mark, List.nil_append, List.append_nil]
  change (contents.map fun content ↦ [content]).flatten = contents
  rw [← List.flatMap_def, List.flatMap_singleton']

theorem asksForReaders_of_forall {user : User}
    (h : ∀ principal ∈ user.principals, '"' ∉ principal.toList ∧ '\\' ∉ principal.toList) :
    AsksForReaders user.accessClause user.principals := by
  refine ⟨user.principals.map String.toList, ?_, ?_⟩
  · have hphrases : List.Forall₂ Reads (user.principals.map (quotedChars ·.toList))
        ((user.principals.map String.toList).map fun content ↦ [.phrase content]) := by
      rw [List.map_map, forall₂_map_iff]
      intro principal hprincipal
      obtain ⟨hquote, hslash⟩ := h principal hprincipal
      exact Reads.phrase (isInert_of_not_mem hquote hslash)
    have hopen : Reads ("(" ++ readAccessField ++ ":(").toList
        (marks ("(" ++ readAccessField ++ ":(")) := Reads.marks (by decide)
    have hsep : Reads " OR ".toList (marks " OR ") := Reads.marks (by decide)
    have hclose : Reads "))".toList (marks "))") := Reads.marks (by decide)
    rw [toList_accessClause]
    exact ((hopen.append (hsep.intercalate hphrases)).append hclose).read?
  · rw [List.map_map]
    exact List.map_congr_left fun principal hprincipal ↦
      unescape_of_not_mem (h principal hprincipal).2

theorem forall_of_asksForReaders {user : User}
    (h : AsksForReaders user.accessClause user.principals) :
    ∀ principal ∈ user.principals, '"' ∉ principal.toList ∧ '\\' ∉ principal.toList := by
  obtain ⟨contents, hread, hmeaning⟩ := h
  have hpairs : List.Forall₂ (fun content principal ↦ unescape content = principal) contents
      (user.principals.map String.toList) := by
    rw [← List.forall₂_map_left_iff, hmeaning, List.forall₂_same]
    exact fun principal _ ↦ rfl
  -- What stands between the quotes is as long as what it stands for, so it is the principal.
  have htexts := text_of_read? hread
  rw [flatMap_text_readerTokens, toList_accessClause] at htexts
  have hjoined := List.append_cancel_left (List.append_cancel_right htexts)
  have hquoted :
      contents.map quotedChars = (user.principals.map String.toList).map quotedChars := by
    rw [List.map_map]
    refine eq_of_intercalate_eq ?_ hjoined
    rw [← List.map_map (f := String.toList), List.forall₂_map_left_iff, List.forall₂_map_right_iff]
    refine hpairs.imp fun content principal hcontent ↦ ?_
    simpa [quotedChars, ← hcontent] using length_unescape_le content
  have hcontents : contents = user.principals.map String.toList := by
    refine List.map_injective_iff.mpr (fun content content' heq ↦ ?_) hquoted
    exact List.append_cancel_right (List.cons.inj heq).2
  have hguarded := guarded_phrases_of_readFrom hread trivial
  rw [phrases_readerTokens, hcontents] at hguarded
  rw [hcontents] at hpairs
  intro principal hprincipal
  have hmem : principal.toList ∈ user.principals.map String.toList :=
    List.mem_map_of_mem hprincipal
  have hslash : '\\' ∉ principal.toList := fun hslash ↦ by
    have hlt := length_unescape_lt hslash
    rw [List.forall₂_same.mp hpairs principal.toList hmem] at hlt
    exact Nat.lt_irrefl _ hlt
  exact ⟨hguarded principal.toList hmem hslash, hslash⟩

/-- **What the access clause asks for.** The clause for a user asks for the documents whose readers
include the user or a role of the user, and for no others, exactly if no principal of the user holds
a double quote or a backslash. -/
theorem asksForReaders_accessClause_iff (user : User) :
    AsksForReaders user.accessClause user.principals ↔
      ∀ principal ∈ user.principals, '"' ∉ principal.toList ∧ '\\' ∉ principal.toList :=
  ⟨forall_of_asksForReaders, asksForReaders_of_forall⟩

/-- A user whose identifiers look like query text without its quotes. -/
def queryLikeUser : User :=
  ⟨"ann) OR (*", ["urn:role AND x", ""]⟩

theorem asksForReaders_queryLikeUser :
    AsksForReaders "(read_access:(\"ann) OR (*\" OR \"urn:role AND x\" OR \"\"))"
      ["ann) OR (*", "urn:role AND x", ""] :=
  (asksForReaders_accessClause_iff queryLikeUser).mpr (by decide)

/-- A user with a role that ends its phrase and begins another. -/
def forgingUser : User :=
  ⟨"urn:ann", ["x\" OR \"urn:admin"]⟩

/-- A role can add a principal: the clause asks for what an administrator may read. -/
theorem not_asksForReaders_forgingUser :
    forgingUser.principals = ["urn:ann", "x\" OR \"urn:admin"] ∧
    ¬ AsksForReaders forgingUser.accessClause forgingUser.principals ∧
    AsksForReaders forgingUser.accessClause ["urn:ann", "x", "urn:admin"] := by
  refine ⟨rfl, fun h ↦ ?_, ?_⟩
  · have hrole := forall_of_asksForReaders h "x\" OR \"urn:admin" (by decide)
    exact absurd hrole.1 (by decide)
  · have hclause : forgingUser.accessClause
        = (User.mk "urn:ann" ["x", "urn:admin"]).accessClause := by decide
    rw [hclause]
    exact @asksForReaders_of_forall ⟨"urn:ann", ["x", "urn:admin"]⟩ (by decide)

end ResourceSearch.Query
