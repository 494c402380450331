import ResourceSearch.Proofs.Query.Printing

/-!
# Decoding in parts

A text is decoded piece by piece, where a piece is what stands between two ampersands, so that the
text before an ampersand is decoded by itself, and text without one is left alone. A blank is no
part of a reference either, so it cuts a text for decoding just as an ampersand does.
-/

namespace ResourceSearch.Query.CharacterReference

/-! ## One piece -/

theorem takeWhile_append_blank (cs rest : List Char) :
    (cs ++ ' ' :: rest).takeWhile decodePiece.isAscii = cs.takeWhile decodePiece.isAscii ∧
      (cs ++ ' ' :: rest).dropWhile decodePiece.isAscii
        = cs.dropWhile decodePiece.isAscii ++ ' ' :: rest := by
  have hblank : decodePiece.isAscii ' ' = false := by decide
  induction cs with
  | nil => simp [hblank]
  | cons c cs ih =>
    by_cases hc : decodePiece.isAscii c = true
    · simp [hc, ih]
    · simp [hc]

/-- What a piece stands for, once it is known whether it begins with a number sign; `cs` is what
comes after that sign. -/
def decodeBody (numeric : Bool) (cs piece : List Char) : List Char :=
  match cs.takeWhile decodePiece.isAscii, cs.dropWhile decodePiece.isAscii with
  | _ :: _, ';' :: after =>
    match decode? numeric (cs.takeWhile decodePiece.isAscii) with
    | some c => c :: after
    | none => '&' :: piece
  | _, _ => '&' :: piece

theorem decodePiece_numberSign (cs : List Char) :
    decodePiece ('#' :: cs) = decodeBody true cs ('#' :: cs) := rfl

theorem decodePiece_of_ne {piece : List Char} (h : ∀ cs, piece ≠ '#' :: cs) :
    decodePiece piece = decodeBody false piece piece := by
  rw [decodePiece]
  · rfl
  · exact h

theorem decodeBody_append_blank (numeric : Bool) (cs piece rest : List Char) :
    decodeBody numeric (cs ++ ' ' :: rest) (piece ++ ' ' :: rest)
      = decodeBody numeric cs piece ++ ' ' :: rest := by
  obtain ⟨htake, hdrop⟩ := takeWhile_append_blank cs rest
  rw [decodeBody, decodeBody, htake, hdrop]
  generalize cs.takeWhile decodePiece.isAscii = body
  generalize cs.dropWhile decodePiece.isAscii = tail
  cases body with
  | nil => rfl
  | cons c body =>
    cases tail with
    | nil => rfl
    | cons d after =>
      by_cases hd : d = ';'
      · subst hd
        cases decode? numeric (c :: body) <;> rfl
      · simp [hd]

theorem decodePiece_append_blank (piece rest : List Char) :
    decodePiece (piece ++ ' ' :: rest) = decodePiece piece ++ ' ' :: rest := by
  by_cases hsign : ∃ cs, piece = '#' :: cs
  · obtain ⟨cs, rfl⟩ := hsign
    exact decodeBody_append_blank true cs ('#' :: cs) rest
  · push Not at hsign
    rw [decodePiece_of_ne hsign, decodePiece_of_ne, decodeBody_append_blank]
    intro cs hcs
    cases piece with
    | nil => simp at hcs
    | cons c piece => exact hsign piece (by rw [(List.cons.inj hcs).1])

/-! ## A text -/

theorem decodeAll_of_splitOn {cs first : List Char} {pieces : List (List Char)}
    (h : cs.splitOn '&' = first :: pieces) :
    decodeAll cs = first ++ pieces.flatMap decodePiece := by
  rw [decodeAll, h]

theorem exists_splitOn_eq (cs : List Char) : ∃ first pieces, cs.splitOn '&' = first :: pieces :=
  List.exists_cons_of_ne_nil (List.splitOn_ne_nil '&' cs)

theorem splitOn_append_of_not_mem {before after first : List Char} {pieces : List (List Char)}
    (h : '&' ∉ before) (hafter : after.splitOn '&' = first :: pieces) :
    (before ++ after).splitOn '&' = (before ++ first) :: pieces := by
  induction before with
  | nil => exact hafter
  | cons c before ih =>
    obtain ⟨hc, hbefore⟩ := List.ne_and_not_mem_of_not_mem_cons h
    rw [List.cons_append, List.splitOn_cons_eq_if_modifyHead, ih hbefore,
      if_neg (by simpa using hc.symm)]
    rfl

theorem decodeAll_append_of_not_mem {before : List Char} (h : '&' ∉ before) (after : List Char) :
    decodeAll (before ++ after) = before ++ decodeAll after := by
  obtain ⟨first, pieces, hafter⟩ := exists_splitOn_eq after
  rw [decodeAll_of_splitOn (splitOn_append_of_not_mem h hafter), decodeAll_of_splitOn hafter,
    List.append_assoc]

theorem decodeAll_append_ampersand (before after : List Char) :
    decodeAll (before ++ '&' :: after)
      = decodeAll before ++ (after.splitOn '&').flatMap decodePiece := by
  obtain ⟨first, pieces, hbefore⟩ := exists_splitOn_eq before
  have hsplit : (before ++ '&' :: after).splitOn '&' = first :: (pieces ++ after.splitOn '&') := by
    rw [List.splitOn_append_cons_self, hbefore, List.cons_append]
  rw [decodeAll_of_splitOn hsplit, decodeAll_of_splitOn hbefore, List.flatMap_append,
    List.append_assoc]

theorem exists_last_ampersand {cs : List Char} (h : '&' ∈ cs) :
    ∃ before piece, cs = before ++ '&' :: piece ∧ '&' ∉ piece := by
  obtain ⟨after, before, hreverse, hlast⟩ := List.eq_append_cons_of_mem (List.mem_reverse.mpr h)
  refine ⟨before.reverse, after.reverse, ?_, by simpa using hlast⟩
  rw [← List.reverse_reverse cs, hreverse]
  simp

/-- **A blank cuts a text for decoding.** -/
theorem decodeAll_append_blank (before after : List Char) :
    decodeAll (before ++ ' ' :: after) = decodeAll before ++ ' ' :: decodeAll after := by
  obtain ⟨first, pieces, hafter⟩ := exists_splitOn_eq after
  have hblank : ∀ front, '&' ∉ front →
      (front ++ ' ' :: after).splitOn '&' = (front ++ ' ' :: first) :: pieces := by
    intro front hfront
    have hfront' : '&' ∉ front ++ [' '] := by simp [hfront]
    simpa using splitOn_append_of_not_mem hfront' hafter
  by_cases hmem : '&' ∈ before
  · obtain ⟨front, piece, rfl, hpiece⟩ := exists_last_ampersand hmem
    rw [List.append_assoc, List.cons_append, decodeAll_append_ampersand, decodeAll_append_ampersand,
      hblank piece hpiece, List.splitOn_eq_singleton hpiece, decodeAll_of_splitOn hafter,
      List.flatMap_cons, decodePiece_append_blank, List.flatMap_singleton]
    simp only [List.append_assoc, List.cons_append]
  · rw [decodeAll_of_splitOn (hblank before hmem), decodeAll_of_splitOn hafter,
      decodeAll_of_not_mem hmem, List.append_assoc, List.cons_append]

end ResourceSearch.Query.CharacterReference
