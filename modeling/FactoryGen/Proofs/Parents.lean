import FactoryGen.Proofs.Placement

/-! Parents of paths.

The parent of a path is what stands in front of the slash before its last component. Pieces
that name nothing do not count there: the parent of `a/./b` is `a`, which is `a/.` without
what is idle at its end (`settled`). So the parents above a file that is delivered below a
directory are the directory, settled, with fewer and fewer names behind it
(`parent?_push`).

What a path means is told by its stem: the pieces in front of a slash at its end. A path is
absolute just if its stem begins with an empty piece (`isAbsolute_iff_stem`), so it shares that
with its parent and with what is pushed onto it. -/
namespace FactoryGen
namespace Path

/-- A path without the idle pieces at its end. -/
def settled (path : String) : String := ofBackwards (IsAbsolute path) (backwards path)

/-! ### Settling -/

theorem exists_append_settle (pieces : List (List Char)) :
    ∃ idle, (∀ piece ∈ idle, isIdle piece = true) ∧ pieces = idle ++ settle pieces := by
  fun_induction settle pieces with
  | case1 => exact ⟨[], nofun, rfl⟩
  | case2 piece => exact ⟨[], nofun, rfl⟩
  | case3 piece next others hidle ih =>
    obtain ⟨idle, hall, happend⟩ := ih
    exact ⟨piece :: idle, List.forall_mem_cons.2 ⟨hidle, hall⟩, congrArg _ happend⟩
  | case4 piece next others hidle => exact ⟨[], nofun, rfl⟩

theorem settle_ne_nil {pieces : List (List Char)} (h : pieces ≠ []) : settle pieces ≠ [] := by
  fun_induction settle pieces with
  | case1 => exact absurd rfl h
  | case2 piece => exact h
  | case3 piece next others hidle ih => exact ih (List.cons_ne_nil _ _)
  | case4 piece next others hidle => exact h

theorem settle_of_not_idle {piece : List Char} {others : List (List Char)}
    (h : isIdle piece = false) : settle (piece :: others) = piece :: others := by
  cases others with
  | nil => rfl
  | cons next others => rw [settle, if_neg (Bool.eq_false_iff.1 h)]

/-- What is settled begins with a piece that names something, or is that piece. -/
theorem not_idle_of_settle {pieces others : List (List Char)} {piece : List Char}
    (h : settle pieces = piece :: others) (hothers : others ≠ []) : isIdle piece = false := by
  fun_induction settle pieces with
  | case1 => cases h
  | case2 single =>
    cases h
    exact absurd rfl hothers
  | case3 first next rest hidle ih => exact ih h
  | case4 first next rest hidle =>
    cases h
    exact Bool.eq_false_iff.2 hidle

theorem settle_settle (pieces : List (List Char)) : settle (settle pieces) = settle pieces := by
  fun_induction settle pieces with
  | case1 => rfl
  | case2 piece => rfl
  | case3 piece next others hidle ih => exact ih
  | case4 piece next others hidle => exact settle_of_not_idle (Bool.eq_false_iff.2 hidle)

theorem eq_of_isIdle {piece : List Char} (h : isIdle piece = true) :
    String.ofList piece = "" ∨ String.ofList piece = "." := by
  rw [isIdle, Bool.or_eq_true, beq_iff_eq, beq_iff_eq] at h
  exact h.imp (fun h => by rw [h]) (fun h => by rw [h])

/-! ### Stems -/

section
variable {path other directory : String} {names : List String} {c : Char}

theorem textPieces_eq (path : String) :
    Text.pieces '/' path.toList = (FileTree.pieces path).map String.toList := by
  simp [FileTree.pieces, Function.comp_def]

theorem stem_eq_pieces (h : (FileTree.pieces path).getLast? ≠ some "") :
    stem path = FileTree.pieces path := by
  by_cases hne : path = ""
  · rw [hne] at h
    exact absurd rfl h
  · refine ((pieces_eq_stem hne).2.resolve_right fun hslash => h ?_).symm
    rw [hslash, List.getLast?_concat]

theorem head?_pieces (hne : path ≠ "") : (FileTree.pieces path).head? = (stem path).head? := by
  obtain ⟨hstem, hpieces | hpieces⟩ := pieces_eq_stem hne
  · rw [hpieces]
  · obtain ⟨first, rest, hcons⟩ := List.exists_cons_of_ne_nil hstem
    simp [hpieces, hcons]

/-- A path is absolute just if its stem begins with an empty piece. -/
theorem isAbsolute_iff_stem : IsAbsolute path ↔ (stem path).head? = some "" := by
  by_cases hne : path = ""
  · simp [hne, stem]
  obtain ⟨first, text, htext⟩ := List.exists_cons_of_ne_nil (mt String.toList_eq_nil_iff.1 hne)
  rw [← head?_pieces hne, IsAbsolute, FileTree.pieces, htext]
  by_cases hslash : first = '/'
  · simp [hslash, Text.pieces_cons_separator]
  · simp [hslash, Text.pieces_cons_other hslash]

theorem stem_eq_nil_iff : stem path = [] ↔ path = "" := by
  by_cases hne : path = ""
  · simp [hne, stem]
  · exact iff_of_false (pieces_eq_stem hne).1 hne

theorem isAbsolute_congr (h : (stem path).head? = (stem other).head?) :
    IsAbsolute path ↔ IsAbsolute other := by
  rw [isAbsolute_iff_stem, isAbsolute_iff_stem, h]

/-- The characters of a path are those of its pieces, but for slashes. -/
theorem mem_iff_of_stem (hc : c ≠ '/') :
    c ∈ path.toList ↔ ∃ piece ∈ stem path, c ∈ piece.toList := by
  have hpieces : c ∈ path.toList ↔ ∃ piece ∈ FileTree.pieces path, c ∈ piece.toList := by
    constructor
    · intro h
      rw [← Text.join_pieces '/' path.toList, textPieces_eq] at h
      rcases Text.mem_join h with hslash | ⟨part, hpart, hmem⟩
      · exact absurd (List.mem_singleton.1 hslash) hc
      · obtain ⟨piece, hpiece, rfl⟩ := List.mem_map.1 hpart
        exact ⟨piece, hpiece, hmem⟩
    · intro ⟨piece, hpiece, hmem⟩
      rw [← Text.join_pieces '/' path.toList, textPieces_eq]
      exact Text.mem_join_of_mem (List.mem_map_of_mem hpiece) hmem
  rw [hpieces]
  by_cases hne : path = ""
  · simp [hne, stem, FileTree.pieces, Text.pieces_nil]
  · rcases (pieces_eq_stem hne).2 with hsame | hslash
    · rw [hsame]
    · simp [hslash, or_and_right, exists_or]

theorem slash_not_mem_of_mem_stem {piece : String} (h : piece ∈ stem path) :
    '/' ∉ piece.toList := by
  have hmem : piece ∈ FileTree.pieces path := by
    by_cases hne : path = ""
    · rw [hne] at h
      cases h
    · rcases (pieces_eq_stem hne).2 with hpieces | hpieces <;> simp [hpieces, h]
  obtain ⟨part, hpart, rfl⟩ := List.mem_map.1 hmem
  simpa using Text.not_mem_of_mem_pieces hpart

theorem backwards_eq_stem (hne : path ≠ "") :
    backwards path = settle ((stem path).map String.toList).reverse := by
  obtain ⟨hstem, hpieces⟩ := pieces_eq_stem hne
  rw [backwards, textPieces_eq]
  rcases hpieces with hpieces | hpieces
  · rw [hpieces]
  · obtain ⟨first, rest, hcons⟩ := List.exists_cons_of_ne_nil
      (show ((stem path).map String.toList).reverse ≠ [] by simpa using hstem)
    rw [hpieces, List.map_append, List.reverse_append, hcons]
    rfl

/-- Settling leaves out idle pieces at the end of a path. -/
theorem exists_backwards_append (hne : path ≠ "") :
    ∃ idle, (∀ piece ∈ idle, piece = "" ∨ piece = ".") ∧
      stem path = (backwards path).reverse.map String.ofList ++ idle := by
  obtain ⟨idle, hidle, happend⟩ := exists_append_settle ((stem path).map String.toList).reverse
  rw [← backwards_eq_stem hne] at happend
  have hstem : (stem path).map String.toList = (backwards path).reverse ++ idle.reverse := by
    rw [← List.reverse_inj, happend]
    simp
  refine ⟨idle.reverse.map String.ofList, ?_, ?_⟩
  · intro piece hmem
    obtain ⟨part, hpart, rfl⟩ := List.mem_map.1 hmem
    exact eq_of_isIdle (hidle part (List.mem_reverse.1 hpart))
  · rw [← List.map_append, ← hstem, List.map_map]
    simp [Function.comp_def]

theorem backwards_ne_nil (path : String) : backwards path ≠ [] :=
  settle_ne_nil (by simpa using Text.pieces_ne_nil '/' path.toList)

theorem ofBackwards_eq_join {absolute : Bool} {parts : List (List Char)} (h : parts ≠ [[]]) :
    ofBackwards absolute parts = String.ofList (Text.join ['/'] parts.reverse) := by
  unfold ofBackwards
  split
  · exact absurd rfl h
  · rfl

/-- The path of the first pieces of another one has these pieces, and no slash behind them
unless it is the root. -/
theorem pieces_ofBackwards {parts : List (List Char)} {back : List String}
    (h : stem path = parts.reverse.map String.ofList ++ back) (hne : parts ≠ [])
    (hsettled : settle parts = parts) :
    ofBackwards (IsAbsolute path) parts = "/" ∧ parts = [[]] ∨
      FileTree.pieces (ofBackwards (IsAbsolute path) parts) = parts.reverse.map String.ofList ∧
        parts.head? ≠ some [] := by
  by_cases hroot : parts = [[]]
  · have habsolute : IsAbsolute path := by
      rw [isAbsolute_iff_stem, h, hroot]
      rfl
    rw [hroot, decide_eq_true habsolute]
    exact .inl ⟨rfl, rfl⟩
  · have hfree : ∀ part ∈ parts.reverse, '/' ∉ part := by
      intro part hmem
      have hin : String.ofList part ∈ stem path :=
        h ▸ List.mem_append_left _ (List.mem_map_of_mem hmem)
      simpa using slash_not_mem_of_mem_stem hin
    refine .inr ⟨?_, ?_⟩
    · rw [ofBackwards_eq_join hroot, FileTree.pieces, String.toList_ofList, Text.pieces_join (by simpa using hne) hfree]
    · obtain ⟨last, others, rfl⟩ := List.exists_cons_of_ne_nil hne
      intro hlast
      obtain rfl : last = [] := Option.some.inj hlast
      have hothers : others ≠ [] := fun hnil => hroot (by rw [hnil])
      cases not_idle_of_settle hsettled hothers

theorem stem_ofBackwards {parts : List (List Char)} {back : List String}
    (h : stem path = parts.reverse.map String.ofList ++ back) (hne : parts ≠ [])
    (hsettled : settle parts = parts) :
    stem (ofBackwards (IsAbsolute path) parts) = parts.reverse.map String.ofList := by
  rcases pieces_ofBackwards h hne hsettled with ⟨hroot, hparts⟩ | ⟨hpieces, hlast⟩
  · rw [hroot, hparts]
    rfl
  · rw [stem_eq_pieces, hpieces]
    intro hempty
    rw [hpieces, List.getLast?_map, List.getLast?_reverse] at hempty
    obtain ⟨part, hpart, hnil⟩ := Option.map_eq_some_iff.1 hempty
    obtain rfl : part = [] := by simpa using congrArg String.toList hnil
    exact hlast hpart

/-! ### Settled paths -/

theorem settled_empty : settled "" = "" := rfl

theorem stem_settled (hne : path ≠ "") :
    stem (settled path) = (backwards path).reverse.map String.ofList := by
  obtain ⟨idle, _, hstem⟩ := exists_backwards_append hne
  refine stem_ofBackwards hstem (backwards_ne_nil path) ?_
  rw [backwards, settle_settle]

/-- The pieces of a path that are left when it is settled, and the idle ones that are not. -/
theorem exists_stem_append (path : String) :
    ∃ idle, (∀ piece ∈ idle, piece = "" ∨ piece = ".") ∧
      stem path = stem (settled path) ++ idle := by
  by_cases hne : path = ""
  · rw [hne]
    exact ⟨[], nofun, rfl⟩
  · rw [stem_settled hne]
    exact exists_backwards_append hne

theorem settled_ne_empty (hne : path ≠ "") : settled path ≠ "" := by
  intro hempty
  have hstem := stem_settled hne
  rw [hempty] at hstem
  exact backwards_ne_nil path (by simpa [stem] using hstem.symm)

theorem isAbsolute_settled (path : String) : IsAbsolute (settled path) ↔ IsAbsolute path := by
  by_cases hne : path = ""
  · rw [hne, settled_empty]
  · obtain ⟨idle, _, hstem⟩ := exists_stem_append path
    obtain ⟨first, rest, hcons⟩ :=
      List.exists_cons_of_ne_nil (pieces_eq_stem (settled_ne_empty hne)).1
    refine isAbsolute_congr ?_
    rw [hstem, hcons]
    rfl

/-- Settling adds no characters but slashes, and takes away none but slashes and dots. -/
theorem mem_settled_iff (hslash : c ≠ '/') (hdot : c ≠ '.') :
    c ∈ (settled path).toList ↔ c ∈ path.toList := by
  obtain ⟨idle, hidle, hstem⟩ := exists_stem_append path
  have hnone : ¬∃ piece ∈ idle, c ∈ piece.toList := by
    rintro ⟨piece, hpiece, hmem⟩
    rcases hidle piece hpiece with rfl | rfl
    · cases hmem
    · exact hdot (by simpa using hmem)
  rw [mem_iff_of_stem hslash, mem_iff_of_stem hslash, hstem]
  simp only [List.mem_append, or_and_right, exists_or, hnone, or_false]

/-- Paths of one stem settle to the same path. -/
theorem settled_congr (h : stem path = stem other) : settled path = settled other := by
  have habsolute := isAbsolute_congr (congrArg List.head? h)
  by_cases hne : path = ""
  · rw [hne, stem_eq_nil_iff.1 (h.symm.trans (stem_eq_nil_iff.2 hne))]
  · have hne' : other ≠ "" := mt stem_eq_nil_iff.2 (h ▸ mt stem_eq_nil_iff.1 hne)
    rw [settled, settled, backwards_eq_stem hne, backwards_eq_stem hne', h,
      decide_eq_decide.2 habsolute]

/-! ### Parents -/

/-- The parent of a path is what stands in front of one of its slashes, with a component
behind, or the root that an absolute path starts from. -/
theorem parent_cases {path parent : String} (h : parent? path = some parent) :
    parent = "" ∨ IsAbsolute path ∧ parent = "/" ∨ parent ≠ "" ∧
      ∃ rest, path = parent ++ "/" ++ rest ∧ ∃ piece ∈ FileTree.pieces rest, piece ≠ "" := by
  unfold parent? at h
  split at h
  · cases h
  · cases h
  · cases h
    exact .inl rfl
  · next last others _ hsingle hbackwards =>
    obtain ⟨front, _, hfront⟩ := exists_append_settle others
    obtain ⟨behind, _, hbehind⟩ := exists_append_settle (Text.pieces '/' path.toList).reverse
    have hlast : isIdle last = false := not_idle_of_settle hbackwards hsingle
    rw [← backwards, hbackwards, hfront] at hbehind
    have hsettled : (settle others).reverse ≠ [] := by
      rw [Ne, List.reverse_eq_nil_iff]
      exact settle_ne_nil hsingle
    have hpieces : Text.pieces '/' path.toList =
        (settle others).reverse ++ (front.reverse ++ last :: behind.reverse) := by
      rw [← List.reverse_inj, hbehind]
      simp
    -- The text of the path, with the pieces of the parent in front of all others.
    have htext : path.toList =
        Text.join ['/'] (settle others).reverse ++ ['/'] ++
          Text.join ['/'] (front.reverse ++ last :: behind.reverse) := by
      rw [← Text.join_append ['/'] hsettled (by simp), ← hpieces, Text.join_pieces]
    unfold ofBackwards at h
    split at h
    · next hroot =>
      rw [hroot] at htext
      have habsolute : path.toList.head? = some '/' := congrArg List.head? htext
      rw [if_pos (decide_eq_true habsolute)] at h
      exact .inr (.inl ⟨habsolute, (Option.some.inj h).symm⟩)
    · next parts hroot =>
      cases h
      refine .inr (.inr ⟨?_,
        String.ofList (Text.join ['/'] (front.reverse ++ last :: behind.reverse)), ?_,
        String.ofList last, ?_, ?_⟩)
      · intro hempty
        have hjoin := congrArg String.toList hempty
        rw [String.toList_ofList] at hjoin
        rcases (Text.join_eq_nil_iff (List.cons_ne_nil _ _) _).1 hjoin with hnil | hroot'
        · exact hsettled hnil
        · exact hroot (by simpa using congrArg List.reverse hroot')
      · rw [← String.toList_inj, htext]
        simp
      · rw [FileTree.pieces, String.toList_ofList, Text.pieces_join (by simp)]
        · simp
        · intro piece hmem
          have hpiece : piece ∈ Text.pieces '/' path.toList :=
            hpieces ▸ List.mem_append_right _ hmem
          exact Text.not_mem_of_mem_pieces hpiece
      · intro hempty
        rw [← String.toList_inj, String.toList_ofList] at hempty
        rw [hempty] at hlast
        cases hlast

theorem isAbsolute_append {front : String} (hne : front ≠ "") (rest : String) :
    IsAbsolute (front ++ "/" ++ rest) ↔ IsAbsolute front := by
  obtain ⟨first, text, htext⟩ := List.exists_cons_of_ne_nil (mt String.toList_eq_nil_iff.1 hne)
  simp [IsAbsolute, htext]

/-- A path without a parent has only pieces that name nothing. -/
theorem idle_of_parent?_eq_none (h : parent? path = none) :
    ∀ piece ∈ stem path, piece = "" ∨ piece = "." := by
  by_cases hne : path = ""
  · rw [hne]
    exact nofun
  obtain ⟨idle, hidle, hstem⟩ := exists_backwards_append hne
  unfold parent? at h
  split at h
  · next hnil => exact absurd hnil (backwards_ne_nil path)
  · next hroot =>
    rw [hstem, hroot]
    simpa using hidle
  · cases h
  · cases h

/-- So it has nothing but slashes and dots in it. -/
theorem mem_of_parent?_eq_none (h : parent? path = none) (hmem : c ∈ path.toList) :
    c = '/' ∨ c = '.' := by
  by_cases hslash : c = '/'
  · exact .inl hslash
  · obtain ⟨piece, hpiece, hin⟩ := (mem_iff_of_stem hslash).1 hmem
    rcases idle_of_parent?_eq_none h piece hpiece with rfl | rfl
    · cases hin
    · exact .inr (by simpa using hin)

/-- Idle pieces at its end do not change the parent of a path. -/
theorem parent?_settled (path : String) : parent? (settled path) = parent? path := by
  by_cases hne : path = ""
  · rw [hne, settled_empty]
  have hbackwards : backwards (settled path) = backwards path := by
    rw [backwards_eq_stem (settled_ne_empty hne), stem_settled hne, List.map_map, ← List.map_reverse,
      List.reverse_reverse]
    simp [Function.comp_def, backwards, settle_settle]
  rw [parent?, parent?, hbackwards, decide_eq_decide.2 (isAbsolute_settled path)]

/-- The parent of a path with a name at its end is what stands in front, settled. -/
theorem parent?_of_stem {above name : String} (hname : IsName name)
    (h : stem path = stem above ++ [name]) : parent? path = some (settled above) := by
  have hne : path ≠ "" := mt stem_eq_nil_iff.2 (by simp [h])
  have hbackwards : backwards path = name.toList :: ((stem above).map String.toList).reverse := by
    rw [backwards_eq_stem hne, h, List.map_append, List.reverse_append]
    exact settle_of_not_idle hname.not_idle
  have hletter : name.toList ≠ [] := mt String.toList_eq_nil_iff.1 hname.ne_empty
  unfold parent?
  rw [hbackwards]
  split
  · next hroot => cases hroot
  · next hroot => exact absurd (List.cons.inj hroot).1 hletter
  · next hsingle =>
    have hnil : stem above = [] := by simpa using (List.cons.inj hsingle).2
    rw [stem_eq_nil_iff.1 hnil]
    rfl
  · next last others _ hothers hcons =>
    obtain ⟨-, rfl⟩ := List.cons.inj hcons
    obtain ⟨first, rest, hstem⟩ := List.exists_cons_of_ne_nil
      (show stem above ≠ [] by simpa using hothers)
    have habove : above ≠ "" := mt stem_eq_nil_iff.2 (by simp [hstem])
    have habsolute : IsAbsolute path ↔ IsAbsolute above := isAbsolute_congr (by simp [h, hstem])
    rw [settled, backwards_eq_stem habove, decide_eq_decide.2 habsolute]

/-! ### Pushing names -/

theorem getLast?_pieces_push (directory : String) (hne : names ≠ [])
    (h : ∀ name ∈ names, IsName name) :
    (FileTree.pieces (push directory ("/".intercalate names))).getLast? ≠ some "" := by
  rw [pieces_push directory hne h, List.getLast?_append, List.getLast?_eq_some_getLast hne,
    Option.some_or]
  exact fun hempty => (h _ (List.getLast_mem hne)).ne_empty (Option.some.inj hempty)

theorem push_ne_empty (directory : String) (hne : names ≠ []) (h : ∀ name ∈ names, IsName name) :
    push directory ("/".intercalate names) ≠ "" := by
  intro hempty
  have hlast := getLast?_pieces_push directory hne h
  rw [hempty] at hlast
  exact hlast rfl

theorem stem_push (directory : String) (h : ∀ name ∈ names, IsName name) :
    stem (push directory ("/".intercalate names)) = stem directory ++ names := by
  by_cases hnil : names = []
  · subst hnil
    rw [List.append_nil, String.intercalate_nil, push, if_neg (by decide), String.append_empty]
    split
    · rfl
    · next hne =>
      rw [not_or] at hne
      rw [String.append_empty, stem_append_slash, stem, if_neg hne.1, if_neg hne.2]
  · rw [stem_eq_pieces (getLast?_pieces_push directory hnil h), pieces_push directory hnil h]

/-- What names are pushed onto tells whether the path is absolute. -/
theorem isAbsolute_push (directory : String) (h : ∀ name ∈ names, IsName name) :
    IsAbsolute (push directory ("/".intercalate names)) ↔ IsAbsolute directory := by
  rw [isAbsolute_iff_stem, isAbsolute_iff_stem, stem_push directory h]
  cases stem directory with
  | nil => simpa using fun hempty => (h "" (List.mem_of_head? hempty)).ne_empty rfl
  | cons first rest => rfl

/-- A path that ends in a name is settled. -/
theorem settled_push {name : String} (directory : String)
    (h : ∀ other ∈ names ++ [name], IsName other) :
    settled (push directory ("/".intercalate (names ++ [name]))) =
      push directory ("/".intercalate (names ++ [name])) := by
  have hname : IsName name := h name (by simp)
  have hletter : name.toList ≠ [] := mt String.toList_eq_nil_iff.1 hname.ne_empty
  have hpieces := pieces_push directory (List.append_ne_nil_of_right_ne_nil _ (by simp)) h
  generalize push directory ("/".intercalate (names ++ [name])) = path at hpieces ⊢
  have hreverse : (Text.pieces '/' path.toList).reverse =
      name.toList :: ((stem directory ++ names).map String.toList).reverse := by
    rw [textPieces_eq, hpieces]
    simp
  rw [settled, backwards, hreverse, settle_of_not_idle hname.not_idle, ← hreverse, ofBackwards_eq_join,
    List.reverse_reverse, Text.join_pieces, String.ofList_toList]
  rw [hreverse]
  exact fun hroot => hletter (List.cons.inj hroot).1

/-- The parent of what lies below a directory. -/
theorem parent?_push {name : String} (directory : String)
    (h : ∀ other ∈ names ++ [name], IsName other) :
    parent? (push directory ("/".intercalate (names ++ [name]))) =
      some (settled (push directory ("/".intercalate names))) := by
  refine parent?_of_stem (h name (by simp)) ?_
  rw [stem_push directory h, stem_push directory fun other hmem => h other (by simp [hmem]),
    List.append_assoc]

/-- Pushing no names settles to the same path. -/
theorem settled_push_nil (directory : String) :
    settled (push directory ("/".intercalate [])) = settled directory := by
  refine settled_congr ?_
  rw [stem_push directory (fun _ hmem => absurd hmem List.not_mem_nil), List.append_nil]

/-- Pushing names adds nothing but these and slashes. -/
theorem mem_of_mem_push (hc : c ≠ '/') (h : ∀ name ∈ names, IsName name)
    (hmem : c ∈ (push directory ("/".intercalate names)).toList) :
    c ∈ directory.toList ∨ ∃ name ∈ names, c ∈ name.toList := by
  rw [mem_iff_of_stem hc, stem_push directory h] at hmem
  rw [mem_iff_of_stem hc]
  simpa [or_and_right, exists_or] using hmem

/-- Pushing leaves out nothing. -/
theorem mem_push {segment : String} (h : c ∈ segment.toList) :
    c ∈ (push directory segment).toList := by
  unfold push
  split
  · exact h
  · split <;> simp [h]

end
end Path
end FactoryGen
