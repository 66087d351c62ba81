import FactoryGen.FileTree.Change
import FactoryGen.Proofs.Parents

/-! Where paths lead.

A walk along some pieces and then along more of them is the second walk from where the first
one ended (`walk_append`): it goes on below a directory, it can end at a file or at a vacant
place, but it does not get past either. So a path that leads anywhere leads through
directories, and what is idle at its end does not count (`home?_eq_some_iff`). When names are
pushed onto a directory, the path leads to where the directory is, and to these names from
there (`locate_push`); that holds for an absolute directory, which is walked to from the root,
as well as for any other, which is walked to from the working directory. -/
namespace FactoryGen
namespace FileTree

namespace Target

def location : Target → Location
  | .directory location | .file location _ | .vacant location _ => location

/-- Whether a file can be written there. -/
def IsWritable : Target → Prop
  | .directory _ => False
  | .file .. => True
  | .vacant _ slashed => slashed = false

/-- Whether a walk that ended there ends at a directory in another tree. -/
def OpensIn (later : FileTree) : Target → Prop
  | .directory _ => True
  | .file .. => False
  | .vacant location _ => later.find? location = some .directory

/-- What is at the location, as far as a walk has to look there. -/
def StandsIn (tree : FileTree) : Target → Prop
  | .directory _ => True
  | .file location content => location ≠ [] ∧ tree.find? location = some (.file content)
  | .vacant location _ => location ≠ [] ∧ tree.find? location = none

/-- Where some more pieces lead. -/
def resume (tree : FileTree) (back : List String) : Target → Except Refusal Target
  | .directory base => tree.walk base back
  | .file location content =>
    if back.isEmpty then .ok (.file location content) else .error .notADirectory
  | .vacant location slashed =>
    if back.all (· = "") then .ok (.vacant location (slashed || !back.isEmpty))
    else .error .notFound

end Target

/-- The location that a path leads to, if it leads anywhere. -/
def location? (tree : FileTree) (path : String) : Option Location :=
  match tree.locate path with
  | .ok target => some target.location
  | .error _ => none

/-- The location of a directory. Files go to the working directory if the path is empty. -/
def home? (tree : FileTree) (directory : String) : Option Location :=
  if directory = "" then some tree.workplace
  else
    match tree.locate directory with
    | .ok (.directory location) => some location
    | _ => none

section
variable {tree : FileTree} {here base : Location} {front back pieces names : List String}
variable {target : Target} {path parent directory : String}

/-! ### Walks -/

theorem standsIn_of_walk (h : tree.walk here pieces = .ok target) : target.StandsIn tree := by
  fun_induction walk tree here pieces with
  | case1 here =>
    cases h
    trivial
  | case2 here piece rest hidle ih => exact ih h
  | case3 here rest hidle ih => exact ih h
  | case5 here piece rest hidle hup hlong hfind ih => exact ih h
  | case6 here piece rest hidle hup hlong held hfind hlast =>
    cases h
    exact ⟨List.cons_ne_nil _ _, hfind⟩
  | case8 here piece rest hidle hup hlong hfind hlast =>
    cases h
    exact ⟨List.cons_ne_nil _ _, hfind⟩
  | _ => cases h

/-- A walk goes on from where its front ended. -/
theorem walk_append (tree : FileTree) (here : Location) (front back : List String) :
    tree.walk here (front ++ back) = (tree.walk here front).bind (Target.resume tree back) := by
  fun_induction walk tree here front with
  | case1 here => rfl
  | case2 here piece rest hidle ih =>
    rw [List.cons_append, walk_idle hidle]
    exact ih
  | case3 here rest hidle ih =>
    rw [List.cons_append, walk_up]
    exact ih
  | case4 here piece rest hidle hup hlong =>
    rw [List.cons_append, walk_name hidle hup, if_pos hlong]
    rfl
  | case5 here piece rest hidle hup hlong hfind ih =>
    rw [List.cons_append, walk_name hidle hup, if_neg hlong, hfind]
    exact ih
  | case6 here piece rest hidle hup hlong held hfind hlast =>
    rw [List.isEmpty_iff.1 hlast, List.cons_append, walk_name hidle hup, if_neg hlong, hfind]
    rfl
  | case7 here piece rest hidle hup hlong held hfind hmore =>
    have hlonger : ¬ (rest ++ back).isEmpty = true := by simp_all
    rw [List.cons_append, walk_name hidle hup, if_neg hlong, hfind]
    exact if_neg hlonger
  | case8 here piece rest hidle hup hlong hfind hslashes =>
    have hslashed : (!(rest ++ back).isEmpty) = (!rest.isEmpty || !back.isEmpty) := by
      cases rest <;> rfl
    rw [List.cons_append, walk_name hidle hup, if_neg hlong, hfind]
    simp [Except.bind, Target.resume, hslashes, hslashed]
  | case9 here piece rest hidle hup hlong hfind hmore =>
    rw [List.cons_append, walk_name hidle hup, if_neg hlong, hfind]
    simp [Except.bind, hmore]

theorem walk_append_directory (h : tree.walk here front = .ok (.directory base)) :
    tree.walk here (front ++ back) = tree.walk base back := by
  rw [walk_append, h]
  rfl

theorem walk_append_eq_ok_iff :
    tree.walk here (front ++ back) = .ok target ↔
      ∃ reached, tree.walk here front = .ok reached ∧ reached.resume tree back = .ok target := by
  rw [walk_append]
  cases tree.walk here front with
  | error refusal => simp [Except.bind]
  | ok reached => simp [Except.bind]

theorem walk_append_error {refusal : Refusal} (h : tree.walk here front = .error refusal) :
    tree.walk here (front ++ back) = .error refusal := by
  rw [walk_append, h]
  rfl

/-- A walk does not get past a vacant place. -/
theorem walk_append_vacant {location : Location} {slashed : Bool}
    (h : tree.walk here front = .ok (.vacant location slashed)) (hback : ∃ name ∈ back, name ≠ "") :
    tree.walk here (front ++ back) = .error .notFound := by
  rw [walk_append, h]
  exact if_neg (by simpa using hback)

/-- A walk goes through directories as long as a name is still to come. -/
theorem exists_directory_of_walk {name : String} (hmem : name ∈ back) (hname : name ≠ "")
    (h : tree.walk here (front ++ back) = .ok target) :
    ∃ directory, tree.walk here front = .ok (.directory directory) ∧
      tree.walk directory back = .ok target := by
  obtain ⟨reached, hfront, hback⟩ := walk_append_eq_ok_iff.1 h
  cases reached with
  | directory directory => exact ⟨directory, hfront, hback⟩
  | file location content =>
    have hmore : ¬ back.isEmpty = true := by simpa using List.ne_nil_of_mem hmem
    cases (if_neg hmore).symm.trans hback
  | vacant location slashed =>
    rw [walk_append_vacant hfront ⟨name, hmem, hname⟩] at h
    cases h

theorem walk_idles (tree : FileTree) (here : Location)
    (h : ∀ piece ∈ pieces, piece = "" ∨ piece = ".") :
    tree.walk here pieces = .ok (.directory here) := by
  induction pieces with
  | nil => rfl
  | cons piece rest ih =>
    rw [walk_idle (h piece (List.mem_cons_self ..))]
    exact ih fun other hmem => h other (List.mem_cons_of_mem _ hmem)

/-- Idle pieces at the end of a walk leave it in its directory, -/
theorem walk_append_idles (hback : ∀ piece ∈ back, piece = "" ∨ piece = ".") :
    tree.walk here (front ++ back) = .ok (.directory base) ↔
      tree.walk here front = .ok (.directory base) := by
  constructor
  · intro h
    obtain ⟨reached, hfront, hresume⟩ := walk_append_eq_ok_iff.1 h
    cases reached with
    | directory directory =>
      rw [hfront]
      exact (walk_idles tree directory hback).symm.trans hresume
    | file location content | vacant location slashed =>
      simp only [Target.resume] at hresume
      split at hresume <;> cases hresume
  · intro h
    rw [walk_append_directory h, walk_idles tree base hback]

/-- and do not lead away from a vacant place. -/
theorem vacant_of_walk_append {location : Location} {slashed : Bool}
    (hback : ∀ piece ∈ back, piece = "" ∨ piece = ".")
    (h : tree.walk here (front ++ back) = .ok (.vacant location slashed)) :
    ∃ slashed, tree.walk here front = .ok (.vacant location slashed) := by
  obtain ⟨reached, hfront, hresume⟩ := walk_append_eq_ok_iff.1 h
  cases reached with
  | directory directory => cases (walk_idles tree directory hback).symm.trans hresume
  | file location content =>
    simp only [Target.resume] at hresume
    split at hresume <;> cases hresume
  | vacant location' slashed' =>
    simp only [Target.resume] at hresume
    split at hresume
    · cases hresume
      exact ⟨slashed', hfront⟩
    · cases hresume

/-- A walk along names that ends anywhere ends at the location with these names. -/
theorem location_of_walk_names (hnames : ∀ name ∈ names, Path.IsName name)
    (h : tree.walk here names = .ok target) : target.location = names.reverse ++ here := by
  induction names generalizing here with
  | nil =>
    cases h
    rfl
  | cons name names ih =>
    have hname := hnames name (List.mem_cons_self ..)
    have hrest : ∀ other ∈ names, Path.IsName other := fun other hmem =>
      hnames other (List.mem_cons_of_mem _ hmem)
    rw [walk_name (not_or.2 ⟨hname.ne_empty, hname.ne_dot⟩) hname.ne_dots] at h
    rw [List.reverse_cons, List.append_assoc, List.singleton_append]
    by_cases hlong : nameLimit < name.utf8ByteSize
    · rw [if_pos hlong] at h
      cases h
    · rw [if_neg hlong] at h
      cases hfind : tree.find? (name :: here) with
      | none =>
        rw [hfind] at h
        dsimp only at h
        split at h
        · next hslashes =>
          cases h
          -- No name is empty, so this one is the last.
          have hlast : names = [] := by
            rw [List.eq_nil_iff_forall_not_mem]
            intro other hmem
            exact (hrest other hmem).ne_empty
              (of_decide_eq_true (List.all_eq_true.1 hslashes other hmem))
          rw [hlast]
          rfl
        · cases h
      | some entry =>
        rw [hfind] at h
        cases entry with
        | directory => exact ih hrest h
        | file content =>
          dsimp only at h
          split at h
          · next hlast =>
            cases h
            rw [List.isEmpty_iff.1 hlast]
            rfl
          · cases h

/-! ### Paths -/

theorem origin_congr {other : String} (h : Path.IsAbsolute path ↔ Path.IsAbsolute other) :
    tree.origin path = tree.origin other := by
  simp only [origin, h]

theorem origin_of_workplace {later : FileTree} (h : later.workplace = tree.workplace) :
    later.origin path = tree.origin path := by
  rw [origin, origin, h]

theorem locate_eq (tree : FileTree) (hnul : '\x00' ∉ path.toList) (hne : path ≠ "") :
    tree.locate path = tree.walk (tree.origin path) (FileTree.pieces path) := by
  rw [locate, if_neg (by simpa using hnul), if_neg hne]

theorem locate_eq_ok_iff :
    tree.locate path = .ok target ↔ '\x00' ∉ path.toList ∧ path ≠ "" ∧
      tree.walk (tree.origin path) (FileTree.pieces path) = .ok target := by
  unfold locate
  split
  · next hnul => simp_all
  · next hnul =>
    split
    · next hempty => simp_all
    · next hne => simp_all

theorem location?_eq (h : tree.locate path = .ok target) :
    tree.location? path = some target.location := by
  rw [location?, h]

/-- A path leads to a directory if the pieces in front of a slash at its end do. -/
theorem home?_eq_some_iff :
    tree.home? directory = some base ↔ '\x00' ∉ directory.toList ∧
      tree.walk (tree.origin directory) (Path.stem directory) = .ok (.directory base) := by
  by_cases hne : directory = ""
  · have hrelative : ¬Path.IsAbsolute "" := by decide
    simp [home?, Path.stem, walk, origin, hne, hrelative]
  have hwalk : tree.walk (tree.origin directory) (FileTree.pieces directory) =
      .ok (.directory base) ↔
        tree.walk (tree.origin directory) (Path.stem directory) = .ok (.directory base) := by
    rcases (Path.pieces_eq_stem hne).2 with hpieces | hpieces
    · rw [hpieces]
    · rw [hpieces, walk_append_idles (by simp)]
  have hlocate : tree.home? directory = some base ↔
      tree.locate directory = .ok (.directory base) := by
    rw [home?, if_neg hne]
    split <;> simp_all
  rw [hlocate, locate_eq_ok_iff, hwalk]
  simp [hne]

theorem locate_of_home? (hne : directory ≠ "") (h : tree.home? directory = some base) :
    tree.locate directory = .ok (.directory base) := by
  rw [home?, if_neg hne] at h
  split at h
  · next location hlocate => rw [hlocate, Option.some.inj h]
  · cases h

/-- A path leads to a vacant place if these pieces do. -/
theorem exists_vacant_iff {location : Location} :
    (∃ slashed, tree.locate path = .ok (.vacant location slashed)) ↔ '\x00' ∉ path.toList ∧
      ∃ slashed, tree.walk (tree.origin path) (Path.stem path) =
        .ok (.vacant location slashed) := by
  by_cases hne : path = ""
  · simp [hne, locate, Path.stem, walk]
  simp only [locate_eq_ok_iff, ne_eq, hne, not_false_eq_true, true_and, exists_and_left]
  refine and_congr_right fun _ => ?_
  rcases (Path.pieces_eq_stem hne).2 with hpieces | hpieces
  · rw [hpieces]
  · rw [hpieces]
    constructor
    · rintro ⟨slashed, h⟩
      exact vacant_of_walk_append (by simp) h
    · rintro ⟨slashed, h⟩
      rw [walk_append, h]
      exact ⟨_, rfl⟩

/-- What is idle at its end does not change where a path leads. -/
theorem home?_settled :
    tree.home? (Path.settled directory) = some base ↔ tree.home? directory = some base := by
  obtain ⟨idle, hidle, hstem⟩ := Path.exists_stem_append directory
  rw [home?_eq_some_iff, home?_eq_some_iff, Path.mem_settled_iff (by decide) (by decide),
    origin_congr (Path.isAbsolute_settled directory), hstem, walk_append_idles hidle]

/-- A path without a parent leads to where it starts. -/
theorem home?_of_parent?_eq_none (h : Path.parent? path = none) :
    tree.home? path = some (tree.origin path) := by
  refine home?_eq_some_iff.2 ⟨fun hnul => ?_, walk_idles tree _ (Path.idle_of_parent?_eq_none h)⟩
  rcases Path.mem_of_parent?_eq_none h hnul with hslash | hdot
  · cases hslash
  · cases hdot

/-- A path that leads anywhere leads through its parent. -/
theorem locate_parent (hparent : Path.parent? path = some parent) (hne : parent ≠ "")
    (h : tree.locate path = .ok target) : ∃ base, tree.locate parent = .ok (.directory base) := by
  obtain ⟨hnul, _, hwalk⟩ := locate_eq_ok_iff.1 h
  rcases Path.parent_cases hparent with rfl | ⟨_, rfl⟩ | ⟨_, rest, rfl, name, hmem, hname⟩
  · exact absurd rfl hne
  · exact ⟨[], rfl⟩
  · rw [Path.pieces_append_slash, origin_congr (Path.isAbsolute_append hne rest)] at hwalk
    obtain ⟨base, hbase, _⟩ := exists_directory_of_walk hmem hname hwalk
    exact ⟨base, locate_eq_ok_iff.2 ⟨fun hin => hnul (by simp [hin]), hne, hbase⟩⟩

/-- So it is not found if its parent is missing. -/
theorem locate_of_missing_parent (hnul : '\x00' ∉ path.toList)
    (hparent : Path.parent? path = some parent) (hne : parent ≠ "")
    (h : tree.locate parent = .error .notFound ∨
      ∃ location slashed, tree.locate parent = .ok (.vacant location slashed)) :
    tree.locate path = .error .notFound := by
  rcases Path.parent_cases hparent with rfl | ⟨_, rfl⟩ | ⟨_, rest, rfl, hname⟩
  · exact absurd rfl hne
  · rcases h with h | ⟨_, _, h⟩ <;> cases h
  · have hnul' : '\x00' ∉ parent.toList := fun hmem => hnul (by simp [hmem])
    rw [locate_eq tree hnul' hne] at h
    rw [locate_eq tree hnul (by simp), Path.pieces_append_slash,
      origin_congr (Path.isAbsolute_append hne rest)]
    rcases h with hmissing | ⟨_, _, hvacant⟩
    · exact walk_append_error hmissing
    · exact walk_append_vacant hvacant hname

/-- Where a path of names leads when it is pushed onto a directory: behind the location
that the directory has, which does not depend on the names. -/
theorem locate_push (hne : names ≠ []) (hnames : ∀ name ∈ names, Path.IsName name)
    (h : tree.locate (Path.push directory ("/".intercalate names)) = .ok target) :
    ∃ base, tree.home? directory = some base ∧ tree.walk base names = .ok target := by
  obtain ⟨name, hmem⟩ := List.exists_mem_of_ne_nil names hne
  obtain ⟨hnul, _, hwalk⟩ := locate_eq_ok_iff.1 h
  rw [Path.pieces_push directory hne hnames,
    origin_congr (Path.isAbsolute_push directory hnames)] at hwalk
  obtain ⟨base, hbase, hrest⟩ := exists_directory_of_walk hmem (hnames name hmem).ne_empty hwalk
  refine ⟨base, home?_eq_some_iff.2 ⟨fun hin => hnul ?_, hbase⟩, hrest⟩
  rw [Path.mem_iff_of_stem (by decide)] at hin ⊢
  obtain ⟨piece, hpiece, hchar⟩ := hin
  exact ⟨piece, Path.stem_push directory hnames ▸ List.mem_append_left _ hpiece, hchar⟩

end
end FileTree
end FactoryGen
