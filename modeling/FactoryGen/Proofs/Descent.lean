import FactoryGen.Proofs.Delivery
import Mathlib.Data.List.Induction

/-! Making directories below a directory.

A path that leads anywhere leads through its parent. So making a path a directory is making
its parent one and then the path itself, whichever of the two is tried first
(`makeDirectories_eq_ok_iff`). Below a directory that is there, or
that can be made, this goes name by name: as long as no name is too long and no file stands
in the way, all names become directories and nothing else changes
(`makeDirectories_push`). -/
namespace FactoryGen
namespace FileTree

/-- A name that a path can go through. -/
structure Fits (name : String) : Prop where
  isName : Path.IsName name
  nul_not_mem : '\x00' ∉ name.toList
  short : name.utf8ByteSize ≤ nameLimit

/-- Makes a path a directory, unless it is one. -/
def ensure (tree : FileTree) (path : String) : FileTree × Except Refusal Unit :=
  tree.orDirectory path (tree.makeDirectory path)

section
variable {tree middle later : FileTree} {here base : Location} {names : List String}
variable {path parent directory : String}

/-! ### One directory -/

theorem makeDirectory_eq_notFound_iff :
    tree.makeDirectory path = .error .notFound ↔ tree.locate path = .error .notFound := by
  unfold makeDirectory
  cases tree.locate path with
  | error refusal => simp
  | ok target => cases target <;> simp

/-- A path is made a directory just if it leads to one, or to where there is nothing yet. -/
theorem ensure_eq_ok_iff :
    tree.ensure path = (later, .ok ()) ↔
      (∃ base, tree.locate path = .ok (.directory base) ∧ later = tree) ∨
        ∃ location slashed, tree.locate path = .ok (.vacant location slashed) ∧
          later = tree.put location .directory := by
  unfold ensure makeDirectory orDirectory isDirectory
  cases tree.locate path with
  | error refusal => cases refusal <;> simp
  | ok target => cases target <;> simp [eq_comm]

/-- A path that was made a directory leads to one. -/
theorem locate_of_ensure (h : tree.ensure path = (later, .ok ())) :
    ∃ base, later.locate path = .ok (.directory base) := by
  rcases ensure_eq_ok_iff.1 h with ⟨base, hbase, rfl⟩ | ⟨location, slashed, hvacant, rfl⟩
  · exact ⟨base, hbase⟩
  · obtain ⟨hnul, hne, hwalk⟩ := locate_eq_ok_iff.1 hvacant
    obtain ⟨hroot, hnone⟩ := standsIn_of_walk hwalk
    refine ⟨location, locate_eq_ok_iff.2 ⟨hnul, hne, ?_⟩⟩
    refine walk_directory_of_extends (addsDirectories_put hroot hnone).toExtends hwalk ?_
    show (tree.put location .directory).find? location = some .directory
    rw [find?_put_of_ne_nil _ _ hroot, if_pos rfl]

/-- Nothing has to be made for a directory that is there. -/
theorem makeDirectories_of_directory (h : tree.locate path = .ok (.directory base)) :
    tree.makeDirectories path = (tree, .ok ()) := by
  have hmake : tree.makeDirectory path = .error .exists := by rw [makeDirectory, h]
  have hthere : tree.isDirectory path = true := by rw [isDirectory, h]
  rw [makeDirectories, ancestors]
  split
  · rfl
  · split
    · rfl
    · rw [makeChain, hmake]
      simp only [orDirectory, hthere, and_self, if_true]

/-! ### Parents first -/

theorem length_parent_lt (h : Path.parent? path = some parent) : parent.length < path.length := by
  rcases Path.parent_cases h with rfl | ⟨habsolute, rfl⟩ | ⟨_, rest, rfl, _⟩
  · have hne : path ≠ "" := by
      rintro rfl
      cases h
    exact Nat.pos_of_ne_zero (mt String.length_eq_zero_iff.1 hne)
  · obtain ⟨text, htext⟩ := List.head?_eq_some_iff.1 habsolute
    have hmore : text ≠ [] := by
      rintro rfl
      obtain rfl : path = "/" := String.toList_inj.1 htext
      cases h
    rw [← String.length_toList, ← String.length_toList, htext, List.length_cons]
    exact Nat.succ_lt_succ (List.length_pos_iff.2 hmore)
  · simp only [String.length_append]
    have hslash : "/".length = 1 := rfl
    omega

/-- The paths above a path do not depend on the fuel. -/
theorem ancestors_eq {fuel fuel' : Nat} (h : path.length < fuel) (h' : path.length < fuel') :
    ancestors fuel path = ancestors fuel' path := by
  induction fuel generalizing path fuel' with
  | zero => exact absurd h (Nat.not_lt_zero _)
  | succ fuel ih =>
    cases fuel' with
    | zero => exact absurd h' (Nat.not_lt_zero _)
    | succ fuel' =>
      unfold ancestors
      split
      · rfl
      · split
        · rfl
        · next parent hparent =>
          have hlt := length_parent_lt hparent
          exact congrArg _ (ih (by omega) (by omega))

theorem makeDirectories_cons (h : Path.parent? path = some parent) :
    tree.makeDirectories path =
      tree.makeChain (path :: ancestors (parent.length + 1) parent) := by
  have hne : path ≠ "" := by
    rintro rfl
    cases h
  have hlt := length_parent_lt h
  rw [makeDirectories, ancestors, if_neg hne, h]
  dsimp only
  rw [ancestors_eq hlt (Nat.lt_succ_self _)]

/-- If there is nothing to put a directory into, its parent is made first. -/
theorem makeDirectories_of_notFound (h : Path.parent? path = some parent)
    (hmissing : tree.locate path = .error .notFound) :
    tree.makeDirectories path =
      match tree.makeDirectories parent with
      | (tree, .error refusal) => (tree, .error refusal)
      | (tree, .ok ()) => tree.ensure path := by
  rw [makeDirectories_cons h, makeChain, makeDirectory_eq_notFound_iff.2 hmissing]
  rfl

theorem makeDirectories_of_found (h : Path.parent? path = some parent)
    (hfound : tree.locate path ≠ .error .notFound) :
    tree.makeDirectories path = tree.ensure path := by
  rw [Ne, ← makeDirectory_eq_notFound_iff] at hfound
  rw [makeDirectories_cons h, makeChain, ensure]
  split
  · next hmade => exact absurd hmade hfound
  · rfl

/-- Directories that were made are there. -/
theorem locate_of_makeDirectories (hparent : Path.parent? path = some parent)
    (h : tree.makeDirectories path = (later, .ok ())) :
    ∃ base, later.locate path = .ok (.directory base) := by
  by_cases hmissing : tree.locate path = .error .notFound
  · rw [makeDirectories_of_notFound hparent hmissing] at h
    rcases hmade : tree.makeDirectories parent with ⟨middle, refusal | done⟩
    · rw [hmade] at h
      cases h
    · rw [hmade] at h
      exact locate_of_ensure h
  · rw [makeDirectories_of_found hparent hmissing] at h
    exact locate_of_ensure h

/-- **Making a path a directory is making its parent one first.** -/
theorem makeDirectories_eq_ok_iff (hnul : '\x00' ∉ path.toList)
    (hparent : Path.parent? path = some parent) :
    tree.makeDirectories path = (later, .ok ()) ↔
      ∃ middle, tree.makeDirectories parent = (middle, .ok ()) ∧
        middle.ensure path = (later, .ok ()) := by
  by_cases hmissing : tree.locate path = .error .notFound
  · rw [makeDirectories_of_notFound hparent hmissing]
    rcases tree.makeDirectories parent with ⟨middle, refusal | done⟩ <;> simp
  rw [makeDirectories_of_found hparent hmissing]
  by_cases hempty : parent = ""
  · have hnothing : tree.makeDirectories "" = (tree, .ok ()) := rfl
    simp [hempty, hnothing]
  by_cases hthere : ∃ base, tree.locate parent = .ok (.directory base)
  · obtain ⟨base, hbase⟩ := hthere
    rw [makeDirectories_of_directory hbase]
    simp
  constructor
  · intro h
    obtain ⟨target, htarget⟩ : ∃ target, tree.locate path = .ok target := by
      rcases ensure_eq_ok_iff.1 h with ⟨_, h, _⟩ | ⟨_, _, h, _⟩ <;> exact ⟨_, h⟩
    exact absurd (locate_parent hparent hempty htarget) hthere
  · intro ⟨middle, hmade, _⟩
    refine absurd (locate_of_missing_parent hnul hparent hempty ?_) hmissing
    cases habove : Path.parent? parent with
    | none => exact absurd ⟨_, locate_of_home? hempty (home?_of_parent?_eq_none habove)⟩ hthere
    | some above =>
      by_cases hmissing' : tree.locate parent = .error .notFound
      · exact .inl hmissing'
      · rw [makeDirectories_of_found habove hmissing'] at hmade
        rcases ensure_eq_ok_iff.1 hmade with ⟨base, hbase, _⟩ | ⟨location, slashed, hvacant, _⟩
        · exact absurd ⟨base, hbase⟩ hthere
        · exact .inr ⟨location, slashed, hvacant⟩

/-! ### Names below a directory -/

/-- A walk with one more name looks up that name. -/
theorem walk_name_of_fits {name : String} (h : Fits name) :
    tree.walk here [name] =
      match tree.find? (name :: here) with
      | some .directory => .ok (.directory (name :: here))
      | some (.file content) => .ok (.file (name :: here) content)
      | none => .ok (.vacant (name :: here) false) := by
  rw [walk_name (not_or.2 ⟨h.isName.ne_empty, h.isName.ne_dot⟩) h.isName.ne_dots,
    if_neg (Nat.not_lt.2 h.short)]
  rfl

/-- A tree in which some names lead down through directories, and which is as another tree
elsewhere. -/
structure Opens (tree : FileTree) (base : Location) (names : List String) (later : FileTree) :
    Prop where
  workplace : later.workplace = tree.workplace
  way : ∀ front, front <+: names → front ≠ [] →
    later.find? (front.reverse ++ base) = some .directory
  rest : ∀ location, (∀ front, front <+: names → front ≠ [] → location ≠ front.reverse ++ base) →
    later.find? location = tree.find? location

theorem Opens.refl (tree : FileTree) (base : Location) : tree.Opens base [] tree :=
  ⟨rfl, fun _ hfront hne => absurd (List.prefix_nil.1 hfront) hne, fun _ _ => rfl⟩

theorem nul_not_mem_push (hnul : '\x00' ∉ directory.toList) (hnames : ∀ name ∈ names, Fits name) :
    '\x00' ∉ (Path.push directory ("/".intercalate names)).toList := by
  intro hmem
  rcases Path.mem_of_mem_push (by decide) (fun name h => (hnames name h).isName) hmem with
    h | ⟨name, hname, h⟩
  · exact hnul h
  · exact (hnames name hname).nul_not_mem h

/-- A walk goes along directories. -/
theorem walk_way (hnames : ∀ name ∈ names, Fits name)
    (h : ∀ front, front <+: names → front ≠ [] →
      tree.find? (front.reverse ++ base) = some .directory) :
    tree.walk base names = .ok (.directory (names.reverse ++ base)) := by
  induction names generalizing base with
  | nil => rfl
  | cons name rest ih =>
    have hname := hnames name (List.mem_cons_self ..)
    have hfirst : tree.find? (name :: base) = some .directory :=
      h [name] (by simp) (List.cons_ne_nil _ _)
    have hstep : tree.walk base [name] = .ok (.directory (name :: base)) := by
      rw [walk_name_of_fits hname, hfirst]
    rw [← List.singleton_append, walk_append_directory hstep,
      ih fun other hmem => hnames other (List.mem_cons_of_mem _ hmem)]
    · simp
    · intro front hfront _
      simpa using h (name :: front) (by simpa using hfront) (List.cons_ne_nil _ _)

theorem Opens.find?_of_not_begins {other : List String} (h : tree.Opens base names later)
    (hother : ¬ other <+: names) :
    later.find? (other.reverse ++ base) = tree.find? (other.reverse ++ base) := by
  refine h.rest _ fun front hfront _ hsame => hother ?_
  rw [List.reverse_inj.1 (List.append_cancel_right hsame)]
  exact hfront

/-- What a further name stands for at the end of the way is what it stood for. -/
theorem Opens.find?_concat (h : tree.Opens base names later)
    (name : String) :
    later.find? ((names ++ [name]).reverse ++ base) =
      tree.find? ((names ++ [name]).reverse ++ base) := by
  refine h.find?_of_not_begins fun hlonger => ?_
  have hlength := hlonger.length_le
  rw [List.length_append, List.length_singleton] at hlength
  omega

theorem Opens.concat {name : String} (h : tree.Opens base names middle)
    (hworkplace : later.workplace = middle.workplace)
    (hmade : later.find? (name :: (names.reverse ++ base)) = some .directory)
    (hrest : ∀ location, location ≠ name :: (names.reverse ++ base) →
      later.find? location = middle.find? location) :
    tree.Opens base (names ++ [name]) later := by
  have hwhole : (names ++ [name]).reverse ++ base = name :: (names.reverse ++ base) := by simp
  refine ⟨hworkplace.trans h.workplace, ?_, ?_⟩
  · intro front hfront hne
    rcases List.prefix_concat_iff.1 hfront with rfl | hfront
    · rw [hwhole, hmade]
    · rw [hrest, h.way front hfront hne]
      intro hsame
      have hlength := congrArg List.length hsame
      have hle := hfront.length_le
      simp only [List.length_append, List.length_reverse, List.length_cons] at hlength
      omega
  · intro location hother
    rw [hrest location, h.rest location]
    · exact fun front hfront hne => hother front (hfront.trans (List.prefix_append _ _)) hne
    · rw [← hwhole]
      exact hother _ List.prefix_rfl (by simp)

/-- Where a path leads whose last name is looked up in a directory. -/
theorem locate_push_name {name : String} (hnames : ∀ other ∈ names ++ [name], Fits other)
    (hhome : tree.home? directory = some base)
    (hway : tree.walk base names = .ok (.directory (names.reverse ++ base))) :
    tree.locate (Path.push directory ("/".intercalate (names ++ [name]))) =
      match tree.find? (name :: (names.reverse ++ base)) with
      | some .directory => .ok (.directory (name :: (names.reverse ++ base)))
      | some (.file content) => .ok (.file (name :: (names.reverse ++ base)) content)
      | none => .ok (.vacant (name :: (names.reverse ++ base)) false) := by
  have hne : names ++ [name] ≠ [] := by simp
  have hisName : ∀ other ∈ names ++ [name], Path.IsName other := fun other hmem =>
    (hnames other hmem).isName
  obtain ⟨hnul, hleads⟩ := home?_eq_some_iff.1 hhome
  rw [locate_eq _ (nul_not_mem_push hnul hnames) (Path.push_ne_empty directory hne hisName),
    origin_congr (Path.isAbsolute_push directory hisName), Path.pieces_push directory hne hisName,
    walk_append_directory hleads, walk_append_directory hway,
    walk_name_of_fits (hnames name (by simp))]

/-- **Names below a directory become directories**, if the directory is there or can be made,
no name is too long and no file stands in the way. Nothing else changes. -/
theorem makeDirectories_push (hnames : ∀ name ∈ names, Fits name)
    (hmade : tree.makeDirectories (Path.settled directory) = (middle, .ok ()))
    (hhome : middle.home? directory = some base)
    (hfree : ∀ front, front <+: names → front ≠ [] → ∀ content,
      middle.find? (front.reverse ++ base) ≠ some (.file content)) :
    ∃ later, tree.makeDirectories (Path.settled (Path.push directory ("/".intercalate names))) =
        (later, .ok ()) ∧ middle.Opens base names later ∧ later.home? directory = some base := by
  induction names using List.reverseRecOn with
  | nil =>
    rw [Path.settled_push_nil]
    exact ⟨middle, hmade, Opens.refl middle base, hhome⟩
  | append_singleton names name ih =>
    have hfits : ∀ other ∈ names, Fits other := fun other hmem =>
      hnames other (List.mem_append_left _ hmem)
    have hisName : ∀ other ∈ names ++ [name], Path.IsName other := fun other hmem =>
      (hnames other hmem).isName
    obtain ⟨opened, hopened, hopens, hstill⟩ := ih hfits fun front hfront =>
      hfree front (hfront.trans (List.prefix_append _ _))
    have hlocate := locate_push_name hnames hstill (walk_way hfits hopens.way)
    have hfind := hopens.find?_concat name
    rw [List.reverse_append, List.reverse_singleton, List.append_assoc] at hfind
    have hensure : ∀ later, opened.ensure (Path.push directory ("/".intercalate (names ++ [name]))) =
        (later, .ok ()) → tree.makeDirectories
          (Path.settled (Path.push directory ("/".intercalate (names ++ [name])))) =
            (later, .ok ()) := by
      intro later h
      have hnul := nul_not_mem_push (home?_eq_some_iff.1 hhome).1 hnames
      rw [Path.settled_push directory hisName,
        makeDirectories_eq_ok_iff hnul (Path.parent?_push directory hisName)]
      exact ⟨opened, hopened, h⟩
    cases hthere : opened.find? (name :: (names.reverse ++ base)) with
    | none =>
      rw [hthere] at hlocate
      refine ⟨_, hensure _ (ensure_eq_ok_iff.2 (.inr ⟨_, _, hlocate, rfl⟩)), ?_, ?_⟩
      · refine hopens.concat rfl ?_ fun location hother => ?_
        · rw [find?_put_of_ne_nil _ _ (List.cons_ne_nil _ _), if_pos rfl]
        · rw [find?_put_of_ne_nil _ _ (List.cons_ne_nil _ _), if_neg (Ne.symm hother)]
      · exact home?_of_extends (addsDirectories_put (List.cons_ne_nil _ _) hthere).toExtends hstill
    | some entry =>
      rw [hthere] at hlocate
      cases entry with
      | directory =>
        exact ⟨opened, hensure _ (ensure_eq_ok_iff.2 (.inl ⟨_, hlocate, rfl⟩)),
          hopens.concat rfl hthere fun _ _ => rfl, hstill⟩
      | file content =>
        refine absurd (hfind.symm.trans hthere) ?_
        simpa using hfree _ List.prefix_rfl (by simp) content

end
end FileTree
end FactoryGen
