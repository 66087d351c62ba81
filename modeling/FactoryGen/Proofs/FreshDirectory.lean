import FactoryGen.Proofs.Interruption
import FactoryGen.Proofs.Source

/-! Delivering a report into a fresh directory.

A directory is fresh if it is empty, or can be made and is empty then (`IsFresh`). What can
go wrong there is a name that is too long, and nothing else: the names on the path of a
file can all be names of directory entries, no file of a report stands where another one
needs a directory, and no two share a path. While the files are delivered, the directory
holds the files delivered so far and the directories above them (`Stocked`); one more file
finds nothing in its way and is added to these (`Stocked.deliver`), so in the end it is all
files of the report (`fresh_delivery`). -/
namespace FactoryGen

/-- Neither of two files lies at or below the path of the other. -/
def SourceFile.Apart (file other : SourceFile) : Prop :=
  ¬ file.names <+: other.names ∧ ¬ other.names <+: file.names

namespace FileTree

/-- There is nothing below a location. -/
def IsEmptyAt (tree : FileTree) (base : Location) : Prop :=
  ∀ names, names ≠ [] → tree.find? (names ++ base) = none

/-- A directory that is empty, or that can be made and is empty then. -/
def IsFresh (tree : FileTree) (directory : String) (base : Location) : Prop :=
  ∃ made, tree.makeDirectories (Path.settled directory) = (made, .ok ()) ∧
    made.home? directory = some base ∧ made.IsEmptyAt base

/-- Below a location there are some files with their texts and the directories on the way to
them, and nothing else. -/
structure Stocked (tree : FileTree) (base : Location) (files : List SourceFile) : Prop where
  file_iff : ∀ names content, names ≠ [] →
    (tree.find? (names.reverse ++ base) = some (.file content) ↔
      ∃ file ∈ files, file.names = names ∧ content = .text file.text)
  directory_iff : ∀ names, names ≠ [] →
    (tree.find? (names.reverse ++ base) = some .directory ↔
      ∃ file ∈ files, names <+: file.names ∧ names ≠ file.names)

section
variable {tree middle later opened : FileTree} {directory : String} {base : Location}
variable {file : SourceFile} {done : List SourceFile}

/-! ### Where a directory is -/

/-- A directory that is there need not be made, however its path ends. -/
theorem makeDirectories_settled (h : tree.home? directory = some base) :
    tree.makeDirectories (Path.settled directory) = (tree, .ok ()) := by
  by_cases hne : directory = ""
  · rw [hne]
    rfl
  · exact makeDirectories_of_directory
      (locate_of_home? (Path.settled_ne_empty hne) (home?_settled.2 h))

theorem makeDirectories_of_parent?_eq_none {path : String} (h : Path.parent? path = none) :
    tree.makeDirectories path = (tree, .ok ()) := by
  rw [makeDirectories, ancestors, h]
  split <;> rfl

/-- A directory that can be made with idle pieces at the end of its path can be made without. -/
theorem makeDirectories_settled_of_made (hnul : '\x00' ∉ directory.toList)
    (h : tree.makeDirectories directory = (middle, .ok ())) :
    tree.makeDirectories (Path.settled directory) = (middle, .ok ()) := by
  have hnul' : '\x00' ∉ (Path.settled directory).toList := by
    rwa [Path.mem_settled_iff (by decide) (by decide)]
  cases hparent : Path.parent? directory with
  | none =>
    rw [makeDirectories_of_parent?_eq_none hparent] at h
    rwa [makeDirectories_of_parent?_eq_none ((Path.parent?_settled directory).trans hparent)]
  | some parent =>
    have hne : directory ≠ "" := by
      rintro rfl
      cases hparent
    obtain ⟨first, hfirst, hensure⟩ := (makeDirectories_eq_ok_iff hnul hparent).1 h
    rw [makeDirectories_eq_ok_iff hnul' ((Path.parent?_settled directory).trans hparent)]
    refine ⟨first, hfirst, ?_⟩
    -- With the same parent, the two paths can be told apart by idle pieces only.
    rw [ensure_eq_ok_iff] at hensure ⊢
    rcases hensure with ⟨base, hbase, hsame⟩ | ⟨location, slashed, hvacant, hput⟩
    · have hhome : first.home? directory = some base := by rw [home?, if_neg hne, hbase]
      exact .inl ⟨base, locate_of_home? (Path.settled_ne_empty hne) (home?_settled.2 hhome), hsame⟩
    · obtain ⟨idle, hidle, hstem⟩ := Path.exists_stem_append directory
      obtain ⟨-, slashed, hwalk⟩ := exists_vacant_iff.1 ⟨slashed, hvacant⟩
      rw [hstem] at hwalk
      have hvacant' := vacant_of_walk_append hidle hwalk
      rw [← origin_congr (Path.isAbsolute_settled directory)] at hvacant'
      obtain ⟨slashed', hlocate⟩ := exists_vacant_iff.2 ⟨hnul', hvacant'⟩
      exact .inr ⟨location, slashed', hlocate, hput⟩

/-! ### Which directories are fresh -/

/-- What stands in a tree stands in a directory of the tree, as it does in a file system. -/
def IsClosed (tree : FileTree) : Prop :=
  ∀ name parent entry, tree.find? (name :: parent) = some entry →
    tree.find? parent = some .directory

/-- An empty directory is fresh. -/
theorem isFresh_of_home? (h : tree.home? directory = some base) (hempty : tree.IsEmptyAt base) :
    tree.IsFresh directory base := ⟨tree, makeDirectories_settled h, h, hempty⟩

/-- So is a directory that can be made and is empty then. -/
theorem isFresh_of_made (hmade : tree.makeDirectories directory = (middle, .ok ()))
    (hhome : middle.home? directory = some base) (hempty : middle.IsEmptyAt base) :
    tree.IsFresh directory base :=
  ⟨middle, makeDirectories_settled_of_made (home?_eq_some_iff.1 hhome).1 hmade, hhome, hempty⟩

theorem IsClosed.find?_of_append (hclosed : tree.IsClosed) {names : List String} {entry : Entry}
    (hne : names ≠ []) (h : tree.find? (names ++ base) = some entry) :
    tree.find? base = some .directory := by
  induction names generalizing entry with
  | nil => exact absurd rfl hne
  | cons name rest ih =>
    have hparent := hclosed name (rest ++ base) entry h
    by_cases hrest : rest = []
    · rwa [hrest] at hparent
    · exact ih hrest hparent

/-- Without steps upwards, a walk goes deeper and deeper. -/
theorem exists_append_of_walk {here : Location} {pieces : List String} (hdots : ".." ∉ pieces)
    (h : tree.walk here pieces = .ok (.directory base)) : ∃ names, base = names ++ here := by
  fun_induction walk tree here pieces with
  | case1 here =>
    cases h
    exact ⟨[], rfl⟩
  | case2 here piece rest hidle ih => exact ih (fun hmem => hdots (List.mem_cons_of_mem _ hmem)) h
  | case3 here rest hidle ih => exact absurd (List.mem_cons_self ..) hdots
  | case5 here piece rest hidle hup hlong hfind ih =>
    obtain ⟨names, rfl⟩ := ih (fun hmem => hdots (List.mem_cons_of_mem _ hmem)) h
    exact ⟨names ++ [piece], by simp⟩
  | _ => cases h

/-- So if something stands below its end in a closed tree, the whole walk is possible there. -/
theorem IsClosed.walk (hclosed : tree.IsClosed) {here : Location} {pieces names : List String}
    {entry : Entry} (hdots : ".." ∉ pieces) (hne : names ≠ [])
    (h : later.walk here pieces = .ok (.directory base))
    (hfind : tree.find? (names ++ base) = some entry) :
    tree.walk here pieces = .ok (.directory base) := by
  fun_induction FileTree.walk later here pieces with
  | case1 here => exact h
  | case2 here piece rest hidle ih =>
    rw [walk_idle hidle]
    exact ih (fun hmem => hdots (List.mem_cons_of_mem _ hmem)) h
  | case3 here rest hidle ih => exact absurd (List.mem_cons_self ..) hdots
  | case5 here piece rest hidle hup hlong hfound ih =>
    have hrest : ".." ∉ rest := fun hmem => hdots (List.mem_cons_of_mem _ hmem)
    obtain ⟨deeper, rfl⟩ := exists_append_of_walk hrest h
    rw [← List.append_assoc] at hfind
    have hthere : tree.find? (piece :: here) = some .directory :=
      hclosed.find?_of_append (List.append_ne_nil_of_left_ne_nil hne _) hfind
    rw [walk_name hidle hup, if_neg hlong, hthere]
    exact ih hrest h
  | _ => cases h

/-- And so is a directory that was missing but can be made, unless its path steps upwards. -/
theorem isFresh_of_missing (hclosed : tree.IsClosed) (hdots : ".." ∉ FileTree.pieces directory)
    (hmissing : tree.home? directory = none)
    (hmade : tree.makeDirectories directory = (middle, .ok ())) :
    ∃ base, tree.IsFresh directory base := by
  have hne : directory ≠ "" := by
    rintro rfl
    cases hmissing
  have hway := tree.makeDirectories_along directory
  rw [hmade] at hway
  have horigin : middle.origin directory = tree.origin directory :=
    origin_of_workplace hway.workplace
  obtain ⟨parent, hparent⟩ : ∃ parent, Path.parent? directory = some parent := by
    cases hparent : Path.parent? directory with
    | none =>
      rw [home?_of_parent?_eq_none hparent] at hmissing
      cases hmissing
    | some parent => exact ⟨parent, rfl⟩
  obtain ⟨base, hbase⟩ := locate_of_makeDirectories hparent hmade
  obtain ⟨hnul, _, hwalk⟩ := locate_eq_ok_iff.1 hbase
  have hhome : middle.home? directory = some base := by
    rw [home?, if_neg hne, hbase]
  refine ⟨base, isFresh_of_made hmade hhome fun names hnames => ?_⟩
  rcases hway.entry (names ++ base) with hsame | ⟨_, _, front, ⟨back, hpieces⟩, hfront⟩
  · -- What was there before would have been below the directory, which was missing.
    rw [hsame]
    cases hfind : tree.find? (names ++ base) with
    | none => rfl
    | some entry =>
      rw [horigin] at hwalk
      have hthere := hclosed.walk hdots hnames hwalk hfind
      rw [home?, if_neg hne, locate_eq_ok_iff.2 ⟨hnul, hne, hthere⟩] at hmissing
      cases hmissing
  · -- What was made is on the way to the directory, so it is not below.
    rw [← hpieces] at hwalk hdots
    rw [walk_append_directory hfront] at hwalk
    obtain ⟨deeper, hdeeper⟩ :=
      exists_append_of_walk (fun hmem => hdots (List.mem_append_right _ hmem)) hwalk
    have hlength := congrArg List.length hdeeper
    rw [List.length_append, List.length_append] at hlength
    have hpos := List.length_pos_iff.2 hnames
    omega

/-! ### One more file -/

theorem stocked_nil (h : tree.IsEmptyAt base) : tree.Stocked base [] := by
  constructor
  · intro names content hne
    rw [h names.reverse (by simpa using hne)]
    simp
  · intro names hne
    rw [h names.reverse (by simpa using hne)]
    simp

/-- One more file finds its place if the directory is there, or can be made, and nothing stands
in its way. -/
theorem deliver_push (hnames : ∀ name ∈ file.names, Fits name)
    (hmade : tree.makeDirectories (Path.settled directory) = (middle, .ok ()))
    (hhome : middle.home? directory = some base)
    (hfree : ∀ front, front <+: file.names → front ≠ [] → ∀ content,
      middle.find? (front.reverse ++ base) ≠ some (.file content))
    (hplace : middle.find? (file.names.reverse ++ base) = none) :
    ∃ opened, middle.Opens base (Kotlin.packageSegments file.package) opened ∧
      opened.home? directory = some base ∧
      opened.find? (file.names.reverse ++ base) = none ∧
      tree.deliver directory file =
        (opened.put (file.names.reverse ++ base) (.file (.text file.text)),
          .ok (file.pathIn directory)) := by
  have hsplit : file.names =
      Kotlin.packageSegments file.package ++ [file.name ++ "." ++ SourceFile.extension] := rfl
  have hisName : ∀ name ∈ file.names, Path.IsName name := fun name hmem => (hnames name hmem).isName
  have hpath : file.pathIn directory = Path.push directory ("/".intercalate file.names) := by
    rw [SourceFile.pathIn, SourceFile.path_eq hisName]
  generalize Kotlin.packageSegments file.package = segments at hsplit ⊢
  generalize file.name ++ "." ++ SourceFile.extension = last at hsplit
  rw [hsplit] at hnames hfree hplace hpath hisName ⊢
  have hsegments : ∀ name ∈ segments, Fits name := fun name hmem =>
    hnames name (List.mem_append_left _ hmem)
  obtain ⟨opened, hopened, hopens, hstill⟩ := makeDirectories_push hsegments hmade hhome
    fun front hfront => hfree front (hfront.trans (List.prefix_append _ _))
  have hvacant : opened.find? ((segments ++ [last]).reverse ++ base) = none :=
    (hopens.find?_concat last).trans hplace
  have hlocate := locate_push_name hnames hstill (walk_way hsegments hopens.way)
  have hreverse : (segments ++ [last]).reverse ++ base = last :: (segments.reverse ++ base) := by
    simp
  rw [hreverse] at hvacant ⊢
  rw [hvacant] at hlocate
  refine ⟨opened, hopens, hstill, hvacant, ?_⟩
  have hwrite : opened.writeFile (Path.push directory ("/".intercalate (segments ++ [last])))
      (.text file.text) =
        .ok (opened.put (last :: (segments.reverse ++ base)) (.file (.text file.text))) :=
    writeFile_eq_ok_iff.2 ⟨_, hlocate, rfl, rfl⟩
  unfold deliver makeRoom
  dsimp only
  rw [hpath, Path.parent?_push directory hisName]
  dsimp only
  rw [hopened]
  dsimp only
  rw [hwrite]

/-- What stands below a directory after one more file was put there. -/
theorem find?_put_file (hopens : middle.Opens base (Kotlin.packageSegments file.package) opened)
    {names : List String} (hne : names ≠ []) :
    (opened.put (file.names.reverse ++ base) (.file (.text file.text))).find?
        (names.reverse ++ base) =
      if names = file.names then some (.file (.text file.text))
      else if names <+: Kotlin.packageSegments file.package then some .directory
      else middle.find? (names.reverse ++ base) := by
  rw [opened.find?_put_of_ne_nil _ (by simp [SourceFile.names])]
  by_cases hsame : names = file.names
  · rw [hsame, if_pos rfl, if_pos rfl]
  · have hother : file.names.reverse ++ base ≠ names.reverse ++ base := fun heq =>
      hsame (List.reverse_inj.1 (List.append_cancel_right heq)).symm
    rw [if_neg hother, if_neg hsame]
    split
    · next hbegins => exact hopens.way names hbegins hne
    · next hbegins => exact hopens.find?_of_not_begins hbegins

theorem Stocked.concat (h : middle.Stocked base done)
    (hapart : ∀ other ∈ done, other.Apart file)
    (hopens : middle.Opens base (Kotlin.packageSegments file.package) opened) :
    (opened.put (file.names.reverse ++ base) (.file (.text file.text))).Stocked base
      (done ++ [file]) := by
  -- A way to the file goes along the segments of its package.
  have hway : ∀ names, names <+: file.names ↔
      names = file.names ∨ names <+: Kotlin.packageSegments file.package := fun _ =>
    List.prefix_concat_iff
  constructor
  · intro names content hne
    have hmore : (∃ other ∈ done ++ [file], other.names = names ∧ content = .text other.text) ↔
        (∃ other ∈ done, other.names = names ∧ content = .text other.text) ∨
          file.names = names ∧ content = .text file.text := by
      simp [or_and_right, exists_or]
    rw [find?_put_file hopens hne, hmore]
    by_cases hsame : names = file.names
    · have hnone : ¬∃ other ∈ done, other.names = names ∧ content = .text other.text := by
        rintro ⟨other, hmem, hother, _⟩
        exact (hapart other hmem).1 (hother.trans hsame ▸ List.prefix_rfl)
      rw [or_iff_right hnone]
      simp [hsame, eq_comm]
    · rw [if_neg hsame, or_iff_left fun hfile => hsame hfile.1.symm]
      split
      · next hsegments =>
        refine iff_of_false nofun ?_
        rintro ⟨other, hmem, rfl, _⟩
        exact (hapart other hmem).1 ((hway _).2 (.inr hsegments))
      · exact h.file_iff names content hne
  · intro names hne
    have hmore : (∃ other ∈ done ++ [file], names <+: other.names ∧ names ≠ other.names) ↔
        (∃ other ∈ done, names <+: other.names ∧ names ≠ other.names) ∨
          names <+: file.names ∧ names ≠ file.names := by
      simp [or_and_right, exists_or]
    rw [find?_put_file hopens hne, hmore]
    by_cases hsame : names = file.names
    · have hnone : ¬∃ other ∈ done, names <+: other.names ∧ names ≠ other.names := by
        rintro ⟨other, hmem, hother, _⟩
        exact (hapart other hmem).2 (hsame ▸ hother)
      rw [or_iff_right hnone]
      simp [hsame]
    · rw [if_neg hsame]
      split
      · next hsegments => exact iff_of_true rfl (.inr ⟨(hway names).2 (.inr hsegments), hsame⟩)
      · next hsegments =>
        rw [h.directory_iff names hne,
          or_iff_left fun hfile => ((hway names).1 hfile.1).elim hsame hsegments]

/-! ### All files -/

/-- One more file is delivered into a directory that has some files already. -/
theorem Stocked.deliver (h : middle.Stocked base done) (hnames : ∀ name ∈ file.names, Fits name)
    (hapart : ∀ other ∈ done, other.Apart file)
    (hmade : tree.makeDirectories (Path.settled directory) = (middle, .ok ()))
    (hhome : middle.home? directory = some base) :
    ∃ later, tree.deliver directory file = (later, .ok (file.pathIn directory)) ∧
      later.Stocked base (done ++ [file]) ∧ later.home? directory = some base := by
  have hfree : ∀ front, front <+: file.names → front ≠ [] → ∀ content,
      middle.find? (front.reverse ++ base) ≠ some (.file content) := by
    intro front hfront hne content hheld
    obtain ⟨other, hmem, rfl, _⟩ := (h.file_iff front content hne).1 hheld
    exact (hapart other hmem).1 hfront
  have hplace : middle.find? (file.names.reverse ++ base) = none := by
    cases hfind : middle.find? (file.names.reverse ++ base) with
    | none => rfl
    | some entry =>
      cases entry with
      | directory =>
        obtain ⟨other, hmem, hbegins, _⟩ := (h.directory_iff _ file.names_ne_nil).1 hfind
        exact absurd hbegins (hapart other hmem).2
      | file content => exact absurd hfind (hfree _ List.prefix_rfl file.names_ne_nil content)
  obtain ⟨opened, hopens, hstill, hvacant, hdeliver⟩ :=
    deliver_push hnames hmade hhome hfree hplace
  refine ⟨_, hdeliver, h.concat hapart hopens, ?_⟩
  refine home?_of_extends (extends_put_file ?_ _ ?_) hstill
  · simp [SourceFile.names]
  · rw [hvacant]
    intro heq
    cases heq

/-- Files that fit are delivered into a directory that has some files already. -/
theorem Stocked.deliverAll {files : List SourceFile} (h : tree.Stocked base done)
    (hhome : tree.home? directory = some base)
    (hnames : ∀ file ∈ files, ∀ name ∈ file.names, Fits name)
    (hapart : (done ++ files).Pairwise SourceFile.Apart) :
    ∃ later paths, tree.deliverAll directory files = (later, .ok paths) ∧
      later.Stocked base (done ++ files) ∧ later.home? directory = some base := by
  induction files generalizing tree done with
  | nil =>
    rw [List.append_nil]
    exact ⟨tree, [], rfl, h, hhome⟩
  | cons file rest ih =>
    have hfile : ∀ other ∈ done, other.Apart file := fun other hmem =>
      (List.pairwise_append.1 hapart).2.2 other hmem file (List.mem_cons_self ..)
    obtain ⟨middle, hdeliver, hstocked, hstill⟩ := h.deliver
      (hnames file (List.mem_cons_self ..)) hfile (makeDirectories_settled hhome) hhome
    rw [List.append_cons] at hapart ⊢
    obtain ⟨later, paths, hrest, hall⟩ := ih hstocked hstill
      (fun other hmem => hnames other (List.mem_cons_of_mem _ hmem)) hapart
    exact ⟨later, _, deliverAll_cons_of_ok hdeliver hrest, hall⟩

theorem IsFresh.isEmptyAt (h : tree.IsFresh directory base) : tree.IsEmptyAt base := by
  obtain ⟨made, hmade, _, hempty⟩ := h
  have hadds := tree.makeDirectories_adds (Path.settled directory)
  rw [hmade] at hadds
  intro names hne
  rcases hadds.entry (names ++ base) with hsame | ⟨hnone, _⟩
  · rw [← hsame, hempty names hne]
  · exact hnone

/-- **Files that fit and do not get in each other's way can be delivered into a fresh
directory**, and are all there is in it then. -/
theorem IsFresh.deliverAll {files : List SourceFile} (h : tree.IsFresh directory base)
    (hnames : ∀ file ∈ files, ∀ name ∈ file.names, Fits name)
    (hapart : files.Pairwise SourceFile.Apart) :
    ∃ later paths, tree.deliverAll directory files = (later, .ok paths) ∧
      later.Stocked base files ∧ (files ≠ [] → later.home? directory = some base) := by
  cases files with
  | nil => exact ⟨tree, [], rfl, stocked_nil h.isEmptyAt, fun hne => absurd rfl hne⟩
  | cons file rest =>
    obtain ⟨made, hmade, hhome, hempty⟩ := h
    obtain ⟨middle, hdeliver, hstocked, hstill⟩ := (stocked_nil hempty).deliver
      (hnames file (List.mem_cons_self ..)) nofun hmade hhome
    obtain ⟨later, paths, hrest, hall, hthere⟩ := hstocked.deliverAll hstill
      (fun other hmem => hnames other (List.mem_cons_of_mem _ hmem)) hapart
    exact ⟨later, _, deliverAll_cons_of_ok hdeliver hrest, hall, fun _ => hthere⟩

/-- The names on a path that leads anywhere are not too long. -/
theorem short_of_walk {names : List String} {target : Target}
    (hnames : ∀ name ∈ names, Path.IsName name) (h : tree.walk base names = .ok target) :
    ∀ name ∈ names, name.utf8ByteSize ≤ nameLimit := by
  intro name hmem
  obtain ⟨front, back, rfl⟩ := List.append_of_mem hmem
  have hname := hnames name hmem
  obtain ⟨here, _, hwalk⟩ := exists_directory_of_walk (List.mem_cons_self ..) hname.ne_empty h
  rw [walk_name (not_or.2 ⟨hname.ne_empty, hname.ne_dot⟩) hname.ne_dots] at hwalk
  refine Nat.not_lt.1 fun hlong => ?_
  rw [if_pos hlong] at hwalk
  cases hwalk

theorem short_of_locate {target : Target} (hnames : ∀ name ∈ file.names, Path.IsName name)
    (h : tree.locate (file.pathIn directory) = .ok target) :
    ∀ name ∈ file.names, name.utf8ByteSize ≤ nameLimit := by
  rw [SourceFile.pathIn, SourceFile.path_eq hnames] at h
  obtain ⟨_, _, hwalk⟩ := locate_push file.names_ne_nil hnames h
  exact short_of_walk hnames hwalk

end
end FileTree

namespace Generator
variable {generator : Generator} {symbol : Symbol} {shape : Shape} {file : SourceFile}

/-- The names on the path of a rendered file are fit for any path unless they are too long. -/
theorem Writes.fits (h : generator.Writes symbol shape file)
    (hshort : ∀ name ∈ file.names, name.utf8ByteSize ≤ FileTree.nameLimit) :
    ∀ name ∈ file.names, FileTree.Fits name := by
  intro name hmem
  refine ⟨h.isName name hmem, ?_, hshort name hmem⟩
  obtain ⟨hclass, _, hpackage, _⟩ := (Shape.defect?_eq_none_iff shape).1 h.sound
  rw [h.names_eq] at hmem
  rcases List.mem_append.1 hmem with hmem | hmem
  · exact Kotlin.not_mem_of_isIdentifier (List.all_eq_true.1 hpackage name hmem) (by decide)
  · rw [List.mem_singleton.1 hmem, String.toList_append, List.mem_append, not_or]
    exact ⟨Kotlin.not_mem_of_isIdentifier hclass (by decide), by decide⟩

/-- The files of a report do not get in each other's way. -/
theorem report_apart (generator : Generator) (symbols : List Symbol) :
    (generator.report symbols).files.Pairwise SourceFile.Apart := by
  have hplaces := generator.report_places_nodup symbols
  rw [List.Nodup, List.pairwise_map] at hplaces
  refine hplaces.imp_of_mem ?_
  intro file other hfile hother hne
  obtain ⟨_, _, _, h⟩ := generator.exists_writes_of_mem hfile
  obtain ⟨_, _, _, h'⟩ := generator.exists_writes_of_mem hother
  exact ⟨h'.not_prefix hne, h.not_prefix (Ne.symm hne)⟩

/-- The names on the path of a file are those of its package and its own with the extension. -/
theorem short_iff (file : SourceFile) :
    (∀ name ∈ file.names, name.utf8ByteSize ≤ FileTree.nameLimit) ↔
      (∀ segment ∈ Kotlin.packageSegments file.package,
        segment.utf8ByteSize ≤ FileTree.nameLimit) ∧
        (file.name ++ ".kt").utf8ByteSize ≤ FileTree.nameLimit := by
  have hname : file.name ++ "." ++ SourceFile.extension = file.name ++ ".kt" := by
    rw [String.append_assoc]
    rfl
  rw [SourceFile.names, hname]
  simp only [List.mem_append, List.mem_singleton, or_imp, forall_and, forall_eq]

variable {tree later : FileTree} {directory : String} {base : Location} {symbols : List Symbol}
variable {paths : List String}

/-- Whatever was delivered had names that are not too long. -/
theorem short_of_delivers
    (h : tree.deliverAll directory (generator.report symbols).files = (later, .ok paths)) :
    ∀ file ∈ (generator.report symbols).files, ∀ name ∈ file.names,
      name.utf8ByteSize ≤ FileTree.nameLimit := by
  have hisName : ∀ file ∈ (generator.report symbols).files, ∀ name ∈ file.names,
      Path.IsName name := by
    intro file hmem
    obtain ⟨_, _, _, h⟩ := generator.exists_writes_of_mem hmem
    exact h.isName
  intro file hmem
  obtain ⟨_, hdelivered⟩ :=
    FileTree.deliverAll_ok hisName (generator.report_places_nodup symbols) h
  obtain ⟨_, hlocate⟩ := hdelivered.holds file hmem
  exact FileTree.short_of_locate (hisName file hmem) hlocate

/-- A report whose names are not too long is delivered into a fresh directory. -/
theorem delivers_of_short (hfresh : tree.IsFresh directory base)
    (hshort : ∀ file ∈ (generator.report symbols).files, ∀ name ∈ file.names,
      name.utf8ByteSize ≤ FileTree.nameLimit) :
    ∃ later paths,
      tree.deliverAll directory (generator.report symbols).files = (later, .ok paths) ∧
        later.Stocked base (generator.report symbols).files ∧
        ((generator.report symbols).files ≠ [] → later.home? directory = some base) := by
  refine hfresh.deliverAll (fun file hmem => ?_) (generator.report_apart symbols)
  obtain ⟨_, _, _, h⟩ := generator.exists_writes_of_mem hmem
  exact h.fits (hshort file hmem)

/-- **A report fits into a fresh directory** just if none of its names is too long: neither a
segment of a package nor a name of a file. Then the files below the directory are those of the
report, each at its path and with its text, and the directories below it are the ones above
these files. A directory is fresh if it is empty, or if it can be made and is empty then; in a
closed tree it always is if nothing was there and its path does not step upwards. -/
theorem fresh_delivery (generator : Generator) (symbols : List Symbol) (tree : FileTree)
    (directory : String) :
    (∀ base, tree.home? directory = some base → tree.IsEmptyAt base →
      tree.IsFresh directory base) ∧
    (∀ made base, tree.makeDirectories directory = (made, .ok ()) →
      made.home? directory = some base → made.IsEmptyAt base → tree.IsFresh directory base) ∧
    (∀ made, tree.IsClosed → ".." ∉ FileTree.pieces directory → tree.home? directory = none →
      tree.makeDirectories directory = (made, .ok ()) → ∃ base, tree.IsFresh directory base) ∧
    ∀ base, tree.IsFresh directory base →
      ((∃ later paths, tree.deliverAll directory (generator.report symbols).files =
          (later, .ok paths)) ↔
        ∀ file ∈ (generator.report symbols).files,
          (∀ segment ∈ Kotlin.packageSegments file.package,
            segment.utf8ByteSize ≤ FileTree.nameLimit) ∧
            (file.name ++ ".kt").utf8ByteSize ≤ FileTree.nameLimit) ∧
      ∀ later paths, tree.deliverAll directory (generator.report symbols).files =
          (later, .ok paths) →
        ((generator.report symbols).files ≠ [] → later.home? directory = some base) ∧
        (∀ names content, names ≠ [] →
          (later.find? (names.reverse ++ base) = some (.file content) ↔
            ∃ file ∈ (generator.report symbols).files,
              Path.components file.path = names ∧ content = .text file.text)) ∧
        (∀ names, names ≠ [] →
          (later.find? (names.reverse ++ base) = some .directory ↔
            ∃ file ∈ (generator.report symbols).files,
              names <+: Path.components file.path ∧ names ≠ Path.components file.path)) := by
  refine ⟨fun base h hempty => FileTree.isFresh_of_home? h hempty,
    fun made base hmade h hempty => FileTree.isFresh_of_made hmade h hempty,
    fun made hclosed hdots hmissing hmade =>
      FileTree.isFresh_of_missing hclosed hdots hmissing hmade, fun base hfresh => ⟨?_, ?_⟩⟩
  · simp only [← short_iff]
    constructor
    · intro ⟨later, paths, h⟩
      exact short_of_delivers h
    · intro hall
      obtain ⟨later, paths, h, _⟩ := delivers_of_short hfresh hall
      exact ⟨later, paths, h⟩
  · intro later paths h
    obtain ⟨later', paths', h', hstocked, hhome⟩ := delivers_of_short hfresh (short_of_delivers h)
    obtain rfl : later' = later := congrArg Prod.fst (h'.symm.trans h)
    have hcomponents : ∀ file ∈ (generator.report symbols).files,
        Path.components file.path = file.names := by
      intro file hmem
      obtain ⟨_, _, _, hwrites⟩ := generator.exists_writes_of_mem hmem
      exact SourceFile.components_path hwrites.isName
    refine ⟨hhome, fun names content hne => ?_, fun names hne => ?_⟩
    · rw [hstocked.file_iff names content hne]
      exact exists_congr fun file => and_congr_right fun hmem => by rw [hcomponents file hmem]
    · rw [hstocked.directory_iff names hne]
      exact exists_congr fun file => and_congr_right fun hmem => by rw [hcomponents file hmem]

theorem exists_report_of_two :
    ∃ generator, ofSettings {} (Library.standard.insert Library.factoryName fun _ => .ok "x") =
        .ok generator ∧
      (generator.report
        [{ name := "A", package := "p.q", supertype := "androidx.lifecycle.ViewModel" },
          { name := "B", supertype := "androidx.lifecycle.ViewModel" }]).files =
        [⟨"AFactory", "p.q", "x"⟩, ⟨"BFactory", "", "x"⟩] := by
  refine ⟨⟨{}, Library.standard.insert Library.factoryName fun _ => .ok "x", by decide +kernel⟩,
    ofSettings_of_sound _ _, ?_⟩
  decide +kernel

/-- Two classes, one of them in the default package, and two missing directories: one from the
root, the other beside the working directory. -/
theorem fresh_delivery_of_new_directories :
    let symbols : List Symbol :=
      [{ name := "A", package := "p.q", supertype := "androidx.lifecycle.ViewModel" },
        { name := "B", supertype := "androidx.lifecycle.ViewModel" }]
    ∃ (tree : FileTree) (generator : Generator),
      tree = { entries := [(["home"], .directory)], workplace := ["home"] } ∧
      ofSettings {} (Library.standard.insert Library.factoryName fun _ => .ok "x") =
        .ok generator ∧ tree.IsClosed ∧
      ∀ directory ∈ ["/out", "../out"],
        tree.home? directory = none ∧ tree.IsFresh directory ["out"] ∧
        ∃ later paths,
          tree.deliverAll directory (generator.report symbols).files = (later, .ok paths) ∧
          later.find? ["AFactory.kt", "q", "p", "out"] = some (.file (.text "x")) ∧
          later.find? ["q", "p", "out"] = some .directory := by
  intro symbols
  obtain ⟨generator, hnew, hfiles⟩ := exists_report_of_two
  refine ⟨_, generator, rfl, hnew, ?_, fun directory hmem => ?_⟩
  · intro name parent entry h
    obtain ⟨⟨rfl, rfl⟩, -⟩ : (name = "home" ∧ parent = []) ∧ entry = .directory := by
      simpa [FileTree.find?, FileTree.lookup, eq_comm, and_assoc] using h
    rfl
  generalize htree : FileTree.mk _ _ = tree
  let made : FileTree :=
    { entries := [(["home"], .directory), (["out"], .directory)], workplace := ["home"] }
  have hmissing : ∀ directory ∈ ["/out", "../out"], tree.home? directory = none := by
    subst htree
    decide +kernel
  have hmade : ∀ directory ∈ ["/out", "../out"],
      tree.makeDirectories directory = (made, .ok ()) ∧ made.home? directory = some ["out"] := by
    subst htree
    decide +kernel
  have hempty : made.IsEmptyAt ["out"] := by
    intro names hne
    obtain ⟨name, rest, rfl⟩ := List.exists_cons_of_ne_nil hne
    simp [made, FileTree.find?, FileTree.lookup]
  obtain ⟨hmake, hhome⟩ := hmade directory hmem
  obtain ⟨-, hfreshly, -, hdelivery⟩ := generator.fresh_delivery symbols tree directory
  have hfresh := hfreshly made ["out"] hmake hhome hempty
  obtain ⟨hsuccess, hcontent⟩ := hdelivery ["out"] hfresh
  rw [hfiles] at hsuccess hcontent
  obtain ⟨later, paths, hdeliver⟩ := hsuccess.2 (by decide +kernel)
  obtain ⟨-, hfile, hdirectory⟩ := hcontent later paths hdeliver
  refine ⟨hmissing directory hmem, hfresh, later, paths, ?_, ?_, ?_⟩
  · rw [hfiles, hdeliver]
  · exact (hfile ["p", "q", "AFactory.kt"] _ (by simp)).2 (by decide +kernel)
  · exact (hdirectory ["p", "q"] (by simp)).2 (by decide +kernel)

/-- A directory that is missing and can be made, but is not empty then: its path goes through
another one, which stays. -/
theorem delivery_beside_directory :
    let symbols : List Symbol :=
      [{ name := "A", package := "p.q", supertype := "androidx.lifecycle.ViewModel" },
        { name := "B", supertype := "androidx.lifecycle.ViewModel" }]
    ∃ generator made later paths,
      ofSettings {} (Library.standard.insert Library.factoryName fun _ => .ok "x") =
        .ok generator ∧
      FileTree.home? {} "d/x/.." = none ∧
      FileTree.makeDirectories {} "d/x/.." = (made, .ok ()) ∧
      made.home? "d/x/.." = some ["d"] ∧
      FileTree.deliverAll {} "d/x/.." (generator.report symbols).files = (later, .ok paths) ∧
      later.find? ["x", "d"] = some .directory ∧
      ∀ file ∈ (generator.report symbols).files, ¬ ["x"] <+: Path.components file.path := by
  intro symbols
  obtain ⟨generator, hnew, hfiles⟩ := exists_report_of_two
  generalize hrun : FileTree.deliverAll {} "d/x/.."
    [⟨"AFactory", "p.q", "x"⟩, ⟨"BFactory", "", "x"⟩] = run
  have hresult : (run.2.toOption.any fun _ =>
      decide (run.1.find? ["x", "d"] = some .directory)) = true := by
    subst hrun
    decide +kernel
  obtain ⟨later, problem | paths⟩ := run
  · cases hresult
  refine ⟨generator, { entries := [(["d"], .directory), (["x", "d"], .directory)] }, later, paths,
    hnew, rfl, rfl, rfl, ?_, of_decide_eq_true hresult, ?_⟩
  · rw [hfiles, hrun]
  · rw [hfiles]
    decide +kernel

end Generator
end FactoryGen
