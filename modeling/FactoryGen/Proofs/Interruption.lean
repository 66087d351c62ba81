import FactoryGen.Proofs.Descent

/-! Deliveries that fail.

A file is written at once or not at all, but making the directories above it takes several
changes and may be refused half way. What was made until then stays: directories that the
pieces of the parent's path lead to, and nothing else (`AddsDirectoriesAlong`). So a
delivery that fails at some file leaves the files before it delivered, and of this one and
of those behind it at most the beginning of a way (`deliverAll_account`). -/
namespace FactoryGen
namespace FileTree

/-- A tree has what the other one has, and possibly more directories: ones that the first
pieces of a path lead to. -/
structure AddsDirectoriesAlong (tree later : FileTree) (path : String) : Prop where
  workplace : later.workplace = tree.workplace
  entry : ∀ location, later.find? location = tree.find? location ∨
    tree.find? location = none ∧ later.find? location = some .directory ∧
      ∃ front, front <+: FileTree.pieces path ∧
        later.walk (later.origin path) front = .ok (.directory location)

/-- The pieces of a path stand in front of those of another one, and are walked from the same
place. -/
structure Begins (above path : String) : Prop where
  isAbsolute_iff : Path.IsAbsolute above ↔ Path.IsAbsolute path
  isPrefix : FileTree.pieces above <+: FileTree.pieces path

section
variable {tree middle later : FileTree} {path above : String}

/-! ### Ways -/

theorem AddsDirectoriesAlong.refl (tree : FileTree) (path : String) :
    tree.AddsDirectoriesAlong tree path := ⟨rfl, fun _ => .inl rfl⟩

theorem AddsDirectoriesAlong.adds (h : tree.AddsDirectoriesAlong later path) :
    tree.AddsDirectories later :=
  ⟨h.workplace, fun location => (h.entry location).imp_right fun hmade => ⟨hmade.1, hmade.2.1⟩⟩

theorem AddsDirectoriesAlong.trans (h : tree.AddsDirectoriesAlong middle path)
    (h' : middle.AddsDirectoriesAlong later path) : tree.AddsDirectoriesAlong later path := by
  refine ⟨h'.workplace.trans h.workplace, fun location => ?_⟩
  by_cases hsame : later.find? location = middle.find? location
  · rw [hsame]
    refine (h.entry location).imp_right ?_
    intro ⟨hnone, hmade, front, hfront, hwalk⟩
    refine ⟨hnone, hmade, front, hfront, ?_⟩
    rw [origin_of_workplace h'.workplace]
    exact walk_directory_of_extends h'.adds.toExtends hwalk trivial
  · obtain ⟨hnone, hmade⟩ := (h'.entry location).resolve_left hsame
    refine .inr ⟨?_, hmade⟩
    rcases h.entry location with hsame' | ⟨hnone', _⟩
    · exact hsame'.symm.trans hnone
    · exact hnone'

theorem makeDirectory_along (hbegins : Begins above path)
    (h : tree.makeDirectory above = .ok later) : tree.AddsDirectoriesAlong later path := by
  have hadds := makeDirectory_ok h
  unfold makeDirectory at h
  split at h
  · cases h
  · next location slashed hlocate =>
    cases h
    have hwalk := (locate_eq_ok_iff.1 hlocate).2.2
    obtain ⟨hne, hnone⟩ := standsIn_of_walk hwalk
    have hmade : (tree.put location .directory).find? location = some .directory := by
      rw [tree.find?_put_of_ne_nil .directory hne, if_pos rfl]
    refine ⟨rfl, fun other => ?_⟩
    by_cases hother : location = other
    · subst hother
      refine .inr ⟨hnone, hmade, _, hbegins.isPrefix, ?_⟩
      rw [origin_congr hbegins.isAbsolute_iff.symm]
      exact walk_directory_of_extends hadds.toExtends hwalk hmade
    · rw [tree.find?_put_of_ne_nil .directory hne]
      exact .inl (if_neg hother)
  · cases h

theorem ancestors_empty (fuel : Nat) : ancestors fuel "" = [] := by
  cases fuel <;> rfl

theorem ancestors_root (fuel : Nat) : ancestors fuel "/" = [] := by
  cases fuel <;> rfl

/-- The pieces of a path begin with those of every path above it. -/
theorem begins_of_mem_ancestors {fuel : Nat} (h : above ∈ ancestors fuel path) :
    Begins above path := by
  induction fuel generalizing path with
  | zero => cases h
  | succ fuel ih =>
    unfold ancestors at h
    split at h
    · cases h
    · split at h
      · cases h
      · next parent hparent =>
        rcases List.mem_cons.1 h with rfl | hmem
        · exact ⟨Iff.rfl, List.prefix_rfl⟩
        · rcases Path.parent_cases hparent with rfl | ⟨_, rfl⟩ | ⟨hne, rest, rfl, _⟩
          · rw [ancestors_empty] at hmem
            cases hmem
          · rw [ancestors_root] at hmem
            cases hmem
          · obtain ⟨habsolute, hfront⟩ := ih hmem
            refine ⟨habsolute.trans (Path.isAbsolute_append hne rest).symm, ?_⟩
            rw [Path.pieces_append_slash]
            exact hfront.trans (List.prefix_append _ _)

/-- Making a directory adds directories on the way to it, also when it fails. -/
theorem makeDirectories_along (tree : FileTree) (path : String) :
    tree.AddsDirectoriesAlong (tree.makeDirectories path).1 path := by
  have hrefl (tree : FileTree) : tree.AddsDirectoriesAlong tree path := .refl tree path
  rw [makeDirectories]
  refine makeChain_preserves (R := (AddsDirectoriesAlong · · path)) hrefl .trans tree ?_
  intro above hmem tree later h
  exact makeDirectory_along (begins_of_mem_ancestors hmem) h

end

/-! ### Deliveries -/

section
variable {tree later : FileTree} {directory : String} {file : SourceFile}

/-- Every file has a parent, since its path ends in the extension. -/
theorem exists_parent (directory : String) (file : SourceFile) :
    ∃ parent, Path.parent? (file.pathIn directory) = some parent := by
  rw [← Option.isSome_iff_exists, Option.isSome_iff_ne_none]
  intro hnone
  have hletter : 'k' ∈ (file.name ++ "." ++ SourceFile.extension).toList := by
    simp [SourceFile.extension]
  rcases Path.mem_of_parent?_eq_none hnone (Path.mem_push (Path.mem_push hletter)) with h | h
  · cases h
  · cases h

/-- A delivery that fails leaves at most the beginning of a way, and tells of the file or of
its parent. -/
theorem deliver_error {problem : Problem}
    (h : tree.deliver directory file = (later, .error problem)) :
    ∃ parent, ∃ refusal : Refusal, Path.parent? (file.pathIn directory) = some parent ∧
      tree.AddsDirectoriesAlong later parent ∧
      (problem = .input parent refusal.message ∨
        problem = .input (file.pathIn directory) refusal.message) := by
  obtain ⟨parent, hparent⟩ := exists_parent directory file
  have hway := tree.makeDirectories_along parent
  unfold deliver makeRoom at h
  dsimp only at h
  rw [hparent] at h
  dsimp only at h
  rcases hmade : tree.makeDirectories parent with ⟨middle, refusal | done⟩
  · rw [hmade] at h hway
    cases h
    exact ⟨parent, refusal, hparent, hway, .inl rfl⟩
  · rw [hmade] at h hway
    dsimp only at h
    split at h
    · next refusal hwrite =>
      cases h
      exact ⟨parent, refusal, hparent, hway, .inr rfl⟩
    · cases h

end

/-- **A failed delivery leaves a delivered prefix.** For any tree, directory and files, either
all files are delivered, and the paths are those of the files below the directory, in their
order; or the delivery stops at some file with the files in front of it delivered. Then the tree
is the one that delivering these alone makes, but for directories on the way to the parent of
the file it stopped at: no file is new or holds something else. What it tells of is that file
or its parent. -/
theorem deliverAll_account (tree : FileTree) (directory : String) (files : List SourceFile) :
    (∃ later, tree.deliverAll directory files =
      (later, .ok (files.map fun file => Path.push directory file.path))) ∨
    ∃ k file parent middle later problem, ∃ refusal : Refusal, files[k]? = some file ∧
      tree.deliverAll directory files = (later, .error problem) ∧
      tree.deliverAll directory (files.take k) =
        (middle, .ok ((files.take k).map fun file => Path.push directory file.path)) ∧
      Path.parent? (Path.push directory file.path) = some parent ∧
      middle.AddsDirectoriesAlong later parent ∧
      (∀ location content, later.find? location = some (.file content) ↔
        middle.find? location = some (.file content)) ∧
      (problem = .input parent refusal.message ∨
        problem = .input (Path.push directory file.path) refusal.message) := by
  induction files generalizing tree with
  | nil => exact .inl ⟨tree, rfl⟩
  | cons file rest ih =>
    rw [deliverAll_cons]
    rcases hdeliver : tree.deliver directory file with ⟨middle, problem | path⟩
    · -- The first file is the one: nothing was delivered yet.
      obtain ⟨parent, refusal, hparent, hway, hproblem⟩ := deliver_error hdeliver
      exact .inr ⟨0, file, parent, tree, middle, problem, refusal, rfl, rfl, rfl, hparent, hway,
        hway.adds.file_iff, hproblem⟩
    · obtain ⟨rfl, _⟩ := deliver_ok hdeliver
      dsimp only
      rcases ih middle with ⟨later, hall⟩ | ⟨k, other, parent, last, later, problem, refusal, hk,
        hall, hfront, hparent, hway, hfiles, hproblem⟩
      · rw [hall]
        exact .inl ⟨later, rfl⟩
      · rw [hall]
        refine .inr ⟨k + 1, other, parent, last, later, problem, refusal, hk, rfl, ?_, hparent,
          hway, hfiles, hproblem⟩
        exact deliverAll_cons_of_ok hdeliver hfront

/-- A file stands where a directory is needed, but the way there was begun. The root is its own
parent. -/
example :
    FileTree.deliverAll { entries := [(["f"], .file (.text ""))] } "/n/../../f" [⟨"A", "", "a"⟩] =
      ({ entries := [(["f"], .file (.text "")), (["n"], .directory)] },
        .error (.input "/n/../../f" Refusal.exists.message)) := by
  decide +kernel

end FileTree
end FactoryGen
