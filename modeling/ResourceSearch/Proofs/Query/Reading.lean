import Mathlib.Data.List.Forall2
import ResourceSearch.Query.Condition

/-!
# Reading query text

How the engine's query syntax is read, as far as phrases and parentheses go. Outside a phrase a
double quote opens one; inside, a backslash takes the next character as it is and a double quote
closes the phrase. A text that ends inside a phrase has no reading. Parentheses count outside
phrases only, and cut a text into what stands at depth zero and the groups between.

## Reading with a continuation

A reader that has taken a part of a text must go on as if it had just started, or nothing could be
said about a text from its parts. `Reads` therefore quantifies over what follows, and `Nested` over
the depth, the stretch read so far and what follows. Both are closed under concatenation, which is
all that the theorems about compiled queries use.
-/

namespace ResourceSearch.Query

/-! ## Joining -/

section

variable {α β : Type}

theorem rel_intercalate {R : List α → List β → Prop} (hnil : R [] [])
    (happend : ∀ {as as' : List α} {bs bs' : List β},
      R as bs → R as' bs' → R (as ++ as') (bs ++ bs'))
    {sep : List α} {sep' : List β} (hsep : R sep sep') {xs : List (List α)} {ys : List (List β)}
    (h : List.Forall₂ R xs ys) : R (sep.intercalate xs) (sep'.intercalate ys) := by
  induction h with
  | nil => exact hnil
  | cons hhead htail ih =>
    cases htail with
    | nil => rwa [List.intercalate_singleton, List.intercalate_singleton]
    | cons _ _ =>
      rw [List.intercalate_cons_cons, List.intercalate_cons_cons]
      exact happend (happend hhead hsep) ih

theorem forall₂_map_iff {γ : Type} {R : α → β → Prop} {f : γ → α} {g : γ → β} {cs : List γ} :
    List.Forall₂ R (cs.map f) (cs.map g) ↔ ∀ c ∈ cs, R (f c) (g c) := by
  rw [List.forall₂_map_left_iff, List.forall₂_map_right_iff, List.forall₂_same]

theorem nil_intercalate (xs : List (List α)) : [].intercalate xs = xs.flatten := by
  induction xs with
  | nil => rfl
  | cons x xs ih =>
    cases xs with
    | nil => rw [List.intercalate_singleton, List.flatten_singleton]
    | cons y ys =>
      rw [List.intercalate_cons_cons, ih, List.append_nil]
      rfl

end

/-! ## Phrases -/

/-- A unit of query text. -/
inductive Token where
  /-- A quoted phrase, with its content as it is written. -/
  | phrase (content : List Char)
  /-- A character outside phrases. -/
  | mark (c : Char)
deriving DecidableEq, Repr

namespace Token

/-- A token as it is written. -/
def text : Token → List Char
  | phrase content => '"' :: content ++ ['"']
  | mark c => [c]

/-- The content of a phrase. -/
def content? : Token → Option (List Char)
  | phrase content => some content
  | mark _ => none

end Token

/-- The characters of a text as marks. -/
def marks (text : String) : List Token :=
  text.toList.map .mark

/-- The contents of the phrases among tokens, in their order. -/
def phrases (tokens : List Token) : List (List Char) :=
  tokens.filterMap Token.content?

@[simp] theorem phrases_append (ts us : List Token) :
    phrases (ts ++ us) = phrases ts ++ phrases us :=
  List.filterMap_append

@[simp] theorem phrases_map_mark (cs : List Char) : phrases (cs.map .mark) = [] := by
  rw [phrases, List.filterMap_map]
  exact List.filterMap_eq_nil_iff.mpr fun _ _ ↦ rfl

theorem phrases_intercalate {sep : List Token} (hsep : phrases sep = [])
    (groups : List (List Token)) :
    phrases (sep.intercalate groups) = (groups.map phrases).flatten := by
  have hgroups : List.Forall₂ (phrases · = ·) groups (groups.map phrases) := by
    rw [List.forall₂_map_right_iff, List.forall₂_same]
    exact fun group _ ↦ rfl
  have hjoined := rel_intercalate (R := (phrases · = ·)) rfl
    (fun h h' ↦ by rw [phrases_append, h, h']) hsep hgroups
  rwa [nil_intercalate] at hjoined

/-- Where a reader stands. -/
inductive Position where
  | outside
  /-- In a phrase, of which `content` has been read. -/
  | inside (content : List Char)
  /-- In a phrase, right after a backslash that takes the next character as it is. -/
  | escaped (content : List Char)

/-- The tokens of a text, for a reader at a position; none if the text ends inside a phrase. -/
def readFrom : Position → List Char → Option (List Token)
  | .outside, [] => some []
  | .inside _, [] => none
  | .escaped _, [] => none
  | .outside, c :: rest =>
    if c = '"' then readFrom (.inside []) rest else (readFrom .outside rest).map (.mark c :: ·)
  | .inside content, c :: rest =>
    if c = '\\' then readFrom (.escaped (content ++ [c])) rest
    else if c = '"' then (readFrom .outside rest).map (.phrase content :: ·)
    else readFrom (.inside (content ++ [c])) rest
  | .escaped content, c :: rest => readFrom (.inside (content ++ [c])) rest

/-- The tokens of a text, if it ends outside phrases. -/
def read? (cs : List Char) : Option (List Token) :=
  readFrom .outside cs

/-- What a reader has read of the phrase that it is in. -/
def Position.pending : Position → List Char
  | outside => []
  | inside content => '"' :: content
  | escaped content => '"' :: content

theorem pending_append_of_readFrom {position : Position} {cs : List Char} {tokens : List Token}
    (h : readFrom position cs = some tokens) :
    position.pending ++ cs = tokens.flatMap Token.text := by
  fun_induction readFrom position cs generalizing tokens with
  | case1 =>
    obtain rfl := Option.some.inj h
    rfl
  | case2 => simp at h
  | case3 => simp at h
  | case4 rest ih => rw [← ih h]; rfl
  | case5 c rest hc ih =>
    obtain ⟨ts, hts, rfl⟩ := Option.map_eq_some_iff.mp h
    rw [List.flatMap_cons, ← ih hts]
    rfl
  | case6 content rest ih => rw [← ih h]; simp [Position.pending]
  | case7 content rest hc ih =>
    obtain ⟨ts, hts, rfl⟩ := Option.map_eq_some_iff.mp h
    rw [List.flatMap_cons, ← ih hts]
    simp [Position.pending, Token.text]
  | case8 content c rest hc hq ih => rw [← ih h]; simp [Position.pending]
  | case9 content c rest ih => rw [← ih h]; simp [Position.pending]

theorem text_of_read? {cs : List Char} {tokens : List Token} (h : read? cs = some tokens) :
    tokens.flatMap Token.text = cs :=
  (pending_append_of_readFrom h).symm

/-! ## Reading in parts -/

/-- A text reads as `tokens` and leaves the reader outside phrases, whatever comes after it. -/
def Reads (cs : List Char) (tokens : List Token) : Prop :=
  ∀ rest, readFrom .outside (cs ++ rest) = (readFrom .outside rest).map (tokens ++ ·)

namespace Reads

variable {cs ds : List Char} {ts us : List Token}

theorem nil : Reads [] [] := fun rest ↦ by simp

theorem append (h : Reads cs ts) (h' : Reads ds us) : Reads (cs ++ ds) (ts ++ us) := by
  intro rest
  rw [List.append_assoc, h, h', Option.map_map]
  congr 1
  funext tokens
  exact (List.append_assoc ts us tokens).symm

theorem mark {c : Char} (hc : c ≠ '"') : Reads [c] [.mark c] := by
  intro rest
  rw [List.singleton_append, readFrom, if_neg hc]
  rfl

theorem marks (h : '"' ∉ cs) : Reads cs (cs.map .mark) := by
  induction cs with
  | nil => exact nil
  | cons c cs ih =>
    obtain ⟨hc, hcs⟩ := List.ne_and_not_mem_of_not_mem_cons h
    exact (mark (Ne.symm hc)).append (ih hcs)

theorem intercalate (hsep : Reads ds us) {texts : List (List Char)} {groups : List (List Token)}
    (h : List.Forall₂ Reads texts groups) :
    Reads (ds.intercalate texts) (us.intercalate groups) :=
  rel_intercalate nil append hsep h

theorem read? (h : Reads cs ts) : read? cs = some ts := by
  have hnil := h []
  rw [List.append_nil] at hnil
  rw [Query.read?, hnil]
  simp [readFrom]

end Reads

/-! ## Parentheses -/

/-- A piece of query text. -/
inductive Piece where
  /-- What stands at depth zero between two groups, or before or after all of them. -/
  | bare (tokens : List Token)
  /-- From a parenthesis that opens at depth zero to the one that closes it. -/
  | group (tokens : List Token)
deriving DecidableEq, Repr

/-- A stretch at depth zero as a piece, if there is anything in it. -/
def bareOf (stretch : List Token) : List Piece :=
  if stretch = [] then [] else [.bare stretch]

/-- The pieces of a text, for a reader at a depth that has read `stretch` since the last piece;
none if the parentheses do not balance. -/
def cutFrom (depth : ℕ) (stretch : List Token) : List Token → Option (List Piece)
  | [] => if depth = 0 then some (bareOf stretch) else none
  | t :: rest =>
    if t = .mark '(' then
      if depth = 0 then (cutFrom 1 [t] rest).map (bareOf stretch ++ ·)
      else cutFrom (depth + 1) (stretch ++ [t]) rest
    else if t = .mark ')' then
      if depth = 0 then none
      else if depth = 1 then (cutFrom 0 [] rest).map (.group (stretch ++ [t]) :: ·)
      else cutFrom (depth - 1) (stretch ++ [t]) rest
    else cutFrom depth (stretch ++ [t]) rest

/-- The pieces of a text, if its parentheses balance. -/
def pieces? (tokens : List Token) : Option (List Piece) :=
  cutFrom 0 [] tokens

/-- Tokens other than parentheses. -/
def Flat (tokens : List Token) : Prop :=
  ∀ t ∈ tokens, t ≠ .mark '(' ∧ t ≠ .mark ')'

theorem cutFrom_flat {tokens : List Token} (h : Flat tokens) (depth : ℕ)
    (stretch rest : List Token) :
    cutFrom depth stretch (tokens ++ rest) = cutFrom depth (stretch ++ tokens) rest := by
  induction tokens generalizing stretch with
  | nil => simp
  | cons t ts ih =>
    obtain ⟨hopen, hclose⟩ := h t List.mem_cons_self
    have hts : Flat ts := fun u hu ↦ h u (List.mem_cons_of_mem t hu)
    rw [List.cons_append, cutFrom, if_neg hopen, if_neg hclose, ih hts, List.append_assoc,
      List.singleton_append]

/-- Tokens that leave a reader within a group at the depth where it was. -/
def Nested (tokens : List Token) : Prop :=
  ∀ depth stretch rest,
    cutFrom (depth + 1) stretch (tokens ++ rest) = cutFrom (depth + 1) (stretch ++ tokens) rest

namespace Nested

variable {ts us : List Token}

theorem of_flat (h : Flat ts) : Nested ts := fun depth ↦ cutFrom_flat h (depth + 1)

theorem append (h : Nested ts) (h' : Nested us) : Nested (ts ++ us) := by
  intro depth stretch rest
  rw [List.append_assoc, h, h', List.append_assoc]

theorem parentheses (h : Nested ts) : Nested (.mark '(' :: ts ++ [.mark ')']) := by
  intro depth stretch rest
  rw [List.cons_append, List.cons_append, cutFrom, if_pos rfl, if_neg (Nat.succ_ne_zero depth),
    List.append_assoc, h, List.singleton_append, cutFrom, if_neg (by simp), if_pos rfl,
    if_neg (by omega), if_neg (by omega)]
  simp

end Nested

/-- The tokens of one group. -/
def IsGroup (tokens : List Token) : Prop :=
  ∃ inner, Nested inner ∧ tokens = .mark '(' :: inner ++ [.mark ')']

theorem IsGroup.nested {tokens : List Token} (h : IsGroup tokens) : Nested tokens := by
  obtain ⟨inner, hinner, rfl⟩ := h
  exact hinner.parentheses

theorem cutFrom_group {tokens : List Token} (h : IsGroup tokens) (stretch rest : List Token) :
    cutFrom 0 stretch (tokens ++ rest)
      = (cutFrom 0 [] rest).map (bareOf stretch ++ .group tokens :: ·) := by
  obtain ⟨inner, hinner, rfl⟩ := h
  rw [List.cons_append, List.cons_append, cutFrom, if_pos rfl, if_pos rfl, List.append_assoc,
    hinner 0, List.singleton_append, List.singleton_append, cutFrom, if_neg (by simp), if_pos rfl,
    if_neg (by omega), if_pos rfl, Option.map_map]
  rfl

/-- **Groups and what joins them.** A text of groups with a flat separator between them is cut
exactly there. -/
theorem pieces?_intercalate {sep : List Token} (hsep : Flat sep) (hne : sep ≠ [])
    {groups : List (List Token)} (h : ∀ group ∈ groups, IsGroup group) :
    pieces? (sep.intercalate groups) = some ((groups.map Piece.group).intersperse (.bare sep)) := by
  -- All groups but the first are read after a separator, so the stretch is part of the induction.
  have key : ∀ (stretch : List Token) (group : List Token) (groups : List (List Token)),
      (∀ g ∈ group :: groups, IsGroup g) →
        cutFrom 0 stretch (sep.intercalate (group :: groups))
          = some (bareOf stretch ++
              ((group :: groups).map Piece.group).intersperse (.bare sep)) := by
    intro stretch group groups hgroups
    induction groups generalizing stretch group with
    | nil =>
      rw [List.intercalate_singleton, ← List.append_nil group,
        cutFrom_group (hgroups group List.mem_cons_self)]
      simp [cutFrom, bareOf]
    | cons next groups ih =>
      have hnext := ih sep next fun g hg ↦ hgroups g (List.mem_cons_of_mem group hg)
      rw [List.intercalate_cons_cons, List.append_assoc,
        cutFrom_group (hgroups group List.mem_cons_self), cutFrom_flat hsep, List.nil_append, hnext]
      simp [bareOf, hne]
  cases groups with
  | nil => simp [pieces?, cutFrom, bareOf]
  | cons group groups => simpa [pieces?, bareOf] using key [] group groups h

end ResourceSearch.Query
