/-! Cutting a text at a separator, and putting it together again.

A text with `n` separators has `n + 1` pieces, some of which may be empty, so
`pieces` never gives the empty list. `join_pieces` says that joining undoes
cutting, and `pieces_join` that cutting undoes joining as long as no piece holds
the separator: lists of separator-free pieces and texts are the same thing. -/
namespace FactoryGen.Text

/-- The first piece of a text and the pieces after it. -/
def cut (separator : Char) : List Char → List Char × List (List Char)
  | [] => ([], [])
  | c :: rest =>
    let (first, others) := cut separator rest
    if c = separator then ([], first :: others) else (c :: first, others)

/-- The parts of a text between its separators. -/
def pieces (separator : Char) (text : List Char) : List (List Char) :=
  (cut separator text).1 :: (cut separator text).2

/-- The texts one after the other, with the separator between neighbours. -/
def join (separator : List Char) : List (List Char) → List Char
  | [] => []
  | [piece] => piece
  | piece :: next :: others => piece ++ separator ++ join separator (next :: others)

/-- Joining adds nothing but separators. -/
theorem mem_join {c : Char} {separator : List Char} {parts : List (List Char)}
    (h : c ∈ join separator parts) : c ∈ separator ∨ ∃ part ∈ parts, c ∈ part := by
  induction parts with
  | nil => cases h
  | cons part others ih =>
    cases others with
    | nil => exact .inr ⟨part, List.mem_cons_self .., h⟩
    | cons next others =>
      simp only [join, List.mem_append] at h
      rcases h with (h | h) | h
      · exact .inr ⟨part, List.mem_cons_self .., h⟩
      · exact .inl h
      · rcases ih h with h | ⟨other, hmem, h⟩
        · exact .inl h
        · exact .inr ⟨other, List.mem_cons_of_mem _ hmem, h⟩

theorem mem_join_of_mem {c : Char} {separator part : List Char} {parts : List (List Char)}
    (hpart : part ∈ parts) (h : c ∈ part) : c ∈ join separator parts := by
  induction parts with
  | nil => cases hpart
  | cons first others ih =>
    cases others with
    | nil =>
      rw [List.mem_singleton.1 hpart] at h
      exact h
    | cons next others =>
      simp only [join, List.mem_append]
      rcases List.mem_cons.1 hpart with rfl | hpart
      · exact .inl (.inl h)
      · exact .inr (ih hpart)

/-- Only no piece at all, or a single empty one, is joined to nothing. -/
theorem join_eq_nil_iff {separator : List Char} (h : separator ≠ []) (parts : List (List Char)) :
    join separator parts = [] ↔ parts = [] ∨ parts = [[]] := by
  match parts with
  | [] => simp [join]
  | [piece] => simp [join]
  | piece :: next :: others => simp [join, h]

theorem pieces_nil (separator : Char) : pieces separator [] = [[]] := rfl

theorem pieces_cons_separator (separator : Char) (rest : List Char) :
    pieces separator (separator :: rest) = [] :: pieces separator rest := by
  simp [pieces, cut]

theorem pieces_cons_other {separator c : Char} (h : c ≠ separator) (rest : List Char) :
    pieces separator (c :: rest) =
      (c :: (cut separator rest).1) :: (cut separator rest).2 := by
  simp [pieces, cut, h]

theorem pieces_ne_nil (separator : Char) (text : List Char) : pieces separator text ≠ [] := by
  simp [pieces]

/-- Joining undoes cutting. -/
theorem join_pieces (separator : Char) (text : List Char) :
    join [separator] (pieces separator text) = text := by
  induction text with
  | nil => rfl
  | cons c rest ih =>
    by_cases h : c = separator
    · subst h
      rw [pieces_cons_separator, pieces, join, ← pieces, ih]
      rfl
    · rw [pieces_cons_other h]
      unfold pieces at ih
      cases hcut : (cut separator rest).2 with
      | nil =>
        simp only [hcut, join] at ih ⊢
        rw [ih]
      | cons piece others =>
        simp only [hcut, join] at ih ⊢
        simpa using congrArg (List.cons c) ih

/-- What holds no separator belongs to the first piece. -/
theorem cut_append {separator : Char} {front : List Char} (h : separator ∉ front)
    (rest : List Char) :
    cut separator (front ++ rest) = (front ++ (cut separator rest).1, (cut separator rest).2) := by
  induction front with
  | nil => rfl
  | cons c front ih =>
    simp only [List.mem_cons, not_or] at h
    have hc : c ≠ separator := fun e => h.1 e.symm
    simp only [List.cons_append, cut, ih h.2, if_neg hc]

/-- A piece without the separator, in front of a separator or of the end, is cut
off whole. -/
theorem pieces_append {separator : Char} {piece : List Char} (h : separator ∉ piece)
    (rest : List Char) :
    pieces separator (piece ++ separator :: rest) = piece :: pieces separator rest := by
  simp only [pieces, cut_append h, cut, if_true, List.append_nil]

theorem pieces_of_not_mem {separator : Char} {text : List Char} (h : separator ∉ text) :
    pieces separator text = [text] := by
  have hcut := cut_append h []
  rw [List.append_nil] at hcut
  simp only [pieces, hcut, cut, List.append_nil]

/-- Cutting undoes joining, for pieces that do not hold the separator. -/
theorem pieces_join {separator : Char} {parts : List (List Char)} (hne : parts ≠ [])
    (h : ∀ part ∈ parts, separator ∉ part) : pieces separator (join [separator] parts) = parts := by
  induction parts with
  | nil => exact absurd rfl hne
  | cons part others ih =>
    cases others with
    | nil => exact pieces_of_not_mem (h part (List.mem_cons_self ..))
    | cons next others =>
      have ih := ih (by simp) fun p hp => h p (List.mem_cons_of_mem _ hp)
      simp only [join, List.append_assoc, List.singleton_append]
      rw [pieces_append (h part (List.mem_cons_self ..)), ih]

/-- No piece holds the separator. -/
theorem not_mem_of_mem_pieces {separator : Char} {text piece : List Char}
    (h : piece ∈ pieces separator text) : separator ∉ piece := by
  induction text generalizing piece with
  | nil =>
    rw [pieces_nil, List.mem_singleton] at h
    rw [h]
    exact List.not_mem_nil
  | cons c rest ih =>
    by_cases hc : c = separator
    · rw [hc, pieces_cons_separator, List.mem_cons] at h
      rcases h with rfl | h
      · exact List.not_mem_nil
      · exact ih h
    · rw [pieces_cons_other hc, List.mem_cons] at h
      rcases h with rfl | h
      · rw [List.mem_cons, not_or]
        exact ⟨Ne.symm hc, ih (List.mem_cons_self ..)⟩
      · exact ih (List.mem_cons_of_mem _ h)

/-- A separator keeps the pieces on its two sides apart. -/
theorem pieces_append_separator (separator : Char) (front rest : List Char) :
    pieces separator (front ++ separator :: rest) =
      pieces separator front ++ pieces separator rest := by
  induction front with
  | nil => rw [List.nil_append, pieces_cons_separator, pieces_nil, List.singleton_append]
  | cons c front ih =>
    by_cases h : c = separator
    · rw [h, List.cons_append, pieces_cons_separator, pieces_cons_separator, ih, List.cons_append]
    · unfold pieces at ih
      rw [List.cons_append, pieces_cons_other h, pieces_cons_other h]
      simp only [List.cons_append, List.cons.injEq] at ih ⊢
      exact ⟨⟨trivial, ih.1⟩, ih.2⟩

theorem join_append (separator : List Char) {front back : List (List Char)} (hfront : front ≠ [])
    (hback : back ≠ []) :
    join separator (front ++ back) = join separator front ++ separator ++ join separator back := by
  fun_induction join separator front with
  | case1 => exact absurd rfl hfront
  | case2 piece =>
    obtain ⟨next, others, rfl⟩ := List.exists_cons_of_ne_nil hback
    rfl
  | case3 piece next others ih =>
    have ih := ih (List.cons_ne_nil _ _)
    rw [List.cons_append] at ih
    rw [List.cons_append, List.cons_append, join, ih]
    simp only [List.append_assoc]

theorem join_eq_intercalate (separator : List Char) (parts : List (List Char)) :
    join separator parts = separator.intercalate parts := by
  fun_induction join separator parts with
  | case1 => rfl
  | case2 piece => exact List.intercalate_singleton.symm
  | case3 piece next others ih => rw [ih, List.intercalate_cons_cons]

/-- A text tells what stands in front of its first separator, -/
theorem append_separator_inj {separator : Char} {front front' rest rest' : List Char}
    (hfront : separator ∉ front) (hfront' : separator ∉ front')
    (h : front ++ separator :: rest = front' ++ separator :: rest') :
    front = front' ∧ rest = rest' := by
  have hpieces := congrArg (pieces separator) h
  rw [pieces_append hfront, pieces_append hfront'] at hpieces
  obtain ⟨hsame, hothers⟩ := List.cons_eq_cons.1 hpieces
  exact ⟨hsame, by rw [← join_pieces separator rest, hothers, join_pieces]⟩

/-- and what stands behind its last one. -/
theorem append_separator_inj_right {separator : Char} {front front' rest rest' : List Char}
    (hrest : separator ∉ rest) (hrest' : separator ∉ rest')
    (h : front ++ separator :: rest = front' ++ separator :: rest') :
    front = front' ∧ rest = rest' := by
  have hreverse : rest.reverse ++ separator :: front.reverse =
      rest'.reverse ++ separator :: front'.reverse := by
    simpa using congrArg List.reverse h
  obtain ⟨hbehind, hbefore⟩ := append_separator_inj (by rwa [List.mem_reverse])
    (by rwa [List.mem_reverse]) hreverse
  exact ⟨List.reverse_inj.1 hbefore, List.reverse_inj.1 hbehind⟩

/-- Leaving out characters leaves them out of every piece. -/
theorem filter_join (keep : Char → Bool) (separator : List Char) (parts : List (List Char)) :
    (join separator parts).filter keep =
      join (separator.filter keep) (parts.map (List.filter keep)) := by
  fun_induction join separator parts with
  | case1 => rfl
  | case2 piece => rfl
  | case3 piece next others ih =>
    rw [List.filter_append, List.filter_append, ih]
    rfl

end FactoryGen.Text
