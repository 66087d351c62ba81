import FactoryGen.Proofs.Walks

/-! What delivering files does to a file tree.

A tree only grows (`Extends`): what is a directory stays one, and what is a file stays one,
though it may hold something else. So a path that leads to a file keeps leading there
while further files are delivered (`locate_file_of_extends`). Making room adds directories
and nothing else (`AddsDirectories`), and a write changes the one location that its path
leads to. The paths of a report lead to distinct locations, whatever the directory above
them is, so no file is lost to a later one: after a whole delivery every path holds its
text, and all other files are what they were (`deliverAll_ok`).

A delivery can fail for two reasons only: the directory above a path cannot be made, or
the file cannot be written (`Refuses`). A whole delivery fails just when it comes to a file
that is refused (`deliverAll_error_iff`). -/
namespace FactoryGen

namespace FileTree

/-- What stands in a tree stands in the other one too, but files may hold something else. -/
structure Extends (tree later : FileTree) : Prop where
  workplace : later.workplace = tree.workplace
  directory : ∀ location, tree.find? location = some .directory →
    later.find? location = some .directory
  file : ∀ location content, tree.find? location = some (.file content) →
    ∃ content, later.find? location = some (.file content)

/-- A tree has what the other one has, and possibly more directories. -/
structure AddsDirectories (tree later : FileTree) : Prop where
  workplace : later.workplace = tree.workplace
  entry : ∀ location, later.find? location = tree.find? location ∨
    tree.find? location = none ∧ later.find? location = some .directory

/-! ### Growing trees -/

section
variable {tree middle later : FileTree}

theorem Extends.refl (tree : FileTree) : tree.Extends tree :=
  ⟨rfl, fun _ h => h, fun _ content h => ⟨content, h⟩⟩

theorem Extends.trans (h : tree.Extends middle) (h' : middle.Extends later) :
    tree.Extends later := by
  refine ⟨h'.workplace.trans h.workplace,
    fun location hdirectory => h'.directory location (h.directory location hdirectory), ?_⟩
  intro location content hfile
  obtain ⟨held, hheld⟩ := h.file location content hfile
  exact h'.file location held hheld

theorem AddsDirectories.refl (tree : FileTree) : tree.AddsDirectories tree :=
  ⟨rfl, fun _ => .inl rfl⟩

theorem AddsDirectories.trans (h : tree.AddsDirectories middle)
    (h' : middle.AddsDirectories later) : tree.AddsDirectories later := by
  refine ⟨h'.workplace.trans h.workplace, fun location => ?_⟩
  rcases h'.entry location with hsame' | ⟨hnone', hdirectory'⟩
  · rw [hsame']
    exact h.entry location
  · rcases h.entry location with hsame | ⟨_, hdirectory⟩
    · exact .inr ⟨hsame ▸ hnone', hdirectory'⟩
    · rw [hdirectory] at hnone'
      cases hnone'

theorem AddsDirectories.toExtends (h : tree.AddsDirectories later) : tree.Extends later := by
  refine ⟨h.workplace, ?_, ?_⟩
  · intro location hdirectory
    rcases h.entry location with hsame | ⟨hnone, _⟩
    · rw [hsame, hdirectory]
    · rw [hdirectory] at hnone
      cases hnone
  · intro location content hfile
    rcases h.entry location with hsame | ⟨hnone, _⟩
    · exact ⟨content, hsame.trans hfile⟩
    · rw [hfile] at hnone
      cases hnone

theorem AddsDirectories.file_iff (h : tree.AddsDirectories later) (location : Location)
    (content : Content) :
    later.find? location = some (.file content) ↔ tree.find? location = some (.file content) := by
  rcases h.entry location with hsame | ⟨hnone, hdirectory⟩
  · rw [hsame]
  · rw [hnone, hdirectory]
    exact ⟨nofun, nofun⟩

/-! ### Single changes -/

variable {location : Location}

/-- A change at a location below the root is seen there and nowhere else. -/
theorem find?_put_of_ne_nil (tree : FileTree) (entry : Entry) (h : location ≠ [])
    (other : Location) :
    (tree.put location entry).find? other =
      if location = other then some entry else tree.find? other := by
  by_cases hother : other = []
  · subst hother
    rw [if_neg h]
    rfl
  · exact find?_put tree location other entry hother

theorem addsDirectories_put (h : location ≠ []) (hnone : tree.find? location = none) :
    tree.AddsDirectories (tree.put location .directory) := by
  refine ⟨rfl, fun other => ?_⟩
  rw [tree.find?_put_of_ne_nil .directory h]
  by_cases hother : location = other
  · subst hother
    exact .inr ⟨hnone, if_pos rfl⟩
  · exact .inl (if_neg hother)

theorem extends_put_file (h : location ≠ []) (content : Content)
    (hfree : tree.find? location ≠ some .directory) :
    tree.Extends (tree.put location (.file content)) := by
  refine ⟨rfl, ?_, ?_⟩
  · intro other hdirectory
    have hother : location ≠ other := fun e => hfree (by rw [e, hdirectory])
    rw [tree.find?_put_of_ne_nil _ h, if_neg hother, hdirectory]
  · intro other held hfile
    rw [tree.find?_put_of_ne_nil _ h]
    by_cases hother : location = other
    · exact ⟨content, if_pos hother⟩
    · exact ⟨held, (if_neg hother).trans hfile⟩

/-! ### Walks -/

variable {here : Location} {pieces : List String} {target : Target}

/-- A walk to where a file can be written ends at the file once it is there. -/
theorem walk_file_of_extends (hextends : tree.Extends later)
    (h : tree.walk here pieces = .ok target) (hwritable : target.IsWritable) {content : Content}
    (hheld : later.find? target.location = some (.file content)) :
    later.walk here pieces = .ok (.file target.location content) := by
  fun_induction walk tree here pieces with
  | case1 here =>
    cases h
    cases hwritable
  | case2 here piece rest hidle ih =>
    rw [walk_idle hidle]
    exact ih h
  | case3 here rest hidle ih =>
    rw [walk_up]
    exact ih h
  | case5 here piece rest hidle hup hlong hfind ih =>
    rw [walk_name hidle hup, if_neg hlong, hextends.directory _ hfind]
    exact ih h
  | case6 here piece rest hidle hup hlong held hfind hlast =>
    cases h
    have hfound : later.find? (piece :: here) = some (.file content) := hheld
    rw [walk_name hidle hup, if_neg hlong, hfound]
    exact if_pos hlast
  | case8 here piece rest hidle hup hlong hfind hslashes =>
    cases h
    have hlast : rest.isEmpty = true := by simpa [Target.IsWritable] using hwritable
    have hfound : later.find? (piece :: here) = some (.file content) := hheld
    rw [walk_name hidle hup, if_neg hlong, hfound]
    exact if_pos hlast
  | _ => cases h

/-- A walk to a directory, or to where there is one now, ends there in a tree that has grown. -/
theorem walk_directory_of_extends (hextends : tree.Extends later)
    (h : tree.walk here pieces = .ok target) (hopens : target.OpensIn later) :
    later.walk here pieces = .ok (.directory target.location) := by
  fun_induction walk tree here pieces with
  | case1 here =>
    cases h
    rfl
  | case2 here piece rest hidle ih =>
    rw [walk_idle hidle]
    exact ih h
  | case3 here rest hidle ih =>
    rw [walk_up]
    exact ih h
  | case5 here piece rest hidle hup hlong hfind ih =>
    rw [walk_name hidle hup, if_neg hlong, hextends.directory _ hfind]
    exact ih h
  | case6 here piece rest hidle hup hlong held hfind hlast =>
    cases h
    cases hopens
  | case8 here piece rest hidle hup hlong hfind hslashes =>
    cases h
    have hfound : later.find? (piece :: here) = some .directory := hopens
    rw [walk_name hidle hup, if_neg hlong, hfound]
    exact walk_idles later _ fun other hmem =>
      .inl (of_decide_eq_true (List.all_eq_true.1 hslashes other hmem))
  | _ => cases h

/-! ### Paths -/

variable {path directory : String} {content : Content} {base : Location}

theorem locate_file_of_extends (hextends : tree.Extends later)
    (h : tree.locate path = .ok target) (hwritable : target.IsWritable)
    (hheld : later.find? target.location = some (.file content)) :
    later.locate path = .ok (.file target.location content) := by
  rw [locate_eq_ok_iff] at h ⊢
  rw [origin_of_workplace hextends.workplace]
  exact ⟨h.1, h.2.1, walk_file_of_extends hextends h.2.2 hwritable hheld⟩

theorem home?_of_extends (hextends : tree.Extends later) (h : tree.home? directory = some base) :
    later.home? directory = some base := by
  rw [home?_eq_some_iff] at h ⊢
  rw [origin_of_workplace hextends.workplace]
  exact ⟨h.1, walk_directory_of_extends hextends h.2 trivial⟩

/-! ### Changes at paths -/

theorem writeFile_eq_ok_iff :
    tree.writeFile path content = .ok later ↔
      ∃ target, tree.locate path = .ok target ∧ target.IsWritable ∧
        later = tree.put target.location (.file content) := by
  unfold writeFile
  cases hlocate : tree.locate path with
  | error refusal => simp
  | ok target =>
    cases target with
    | directory location => simp [Target.IsWritable]
    | file location held => simp [Target.IsWritable, Target.location, eq_comm]
    | vacant location slashed =>
      cases slashed <;> simp [Target.IsWritable, Target.location, eq_comm]

/-- A written file is where its path leads, and no other location has changed. -/
theorem writeFile_ok (h : tree.writeFile path content = .ok later) :
    ∃ location, tree.Extends later ∧ later.locate path = .ok (.file location content) ∧
      ∀ other, other ≠ location → later.find? other = tree.find? other := by
  obtain ⟨target, hlocate, hwritable, rfl⟩ := writeFile_eq_ok_iff.1 h
  have hstands := standsIn_of_walk (locate_eq_ok_iff.1 hlocate).2.2
  obtain ⟨hne, hfree⟩ : target.location ≠ [] ∧ tree.find? target.location ≠ some .directory := by
    cases target with
    | directory location => cases hwritable
    | file location held => exact ⟨hstands.1, by rw [Target.location, hstands.2]; exact nofun⟩
    | vacant location slashed =>
      exact ⟨hstands.1, by rw [Target.location, hstands.2]; exact nofun⟩
  have hextends := extends_put_file hne content hfree
  have hheld : (tree.put target.location (.file content)).find? target.location =
      some (.file content) := by
    rw [tree.find?_put_of_ne_nil _ hne, if_pos rfl]
  refine ⟨target.location, hextends, locate_file_of_extends hextends hlocate hwritable hheld, ?_⟩
  intro other hother
  rw [tree.find?_put_of_ne_nil _ hne, if_neg (Ne.symm hother)]

theorem makeDirectory_ok (h : tree.makeDirectory path = .ok later) :
    tree.AddsDirectories later := by
  unfold makeDirectory at h
  split at h
  · cases h
  · next location slashed hlocate =>
    cases h
    obtain ⟨hne, hnone⟩ := standsIn_of_walk (locate_eq_ok_iff.1 hlocate).2.2
    exact addsDirectories_put hne hnone
  · cases h

section
variable {R : FileTree → FileTree → Prop} (hrefl : ∀ tree, R tree tree)
include hrefl

theorem orDirectory_preserves {made : Except Refusal FileTree}
    (h : ∀ later, made = .ok later → R tree later) : R tree (tree.orDirectory path made).1 := by
  unfold orDirectory
  cases made with
  | ok later => exact h later rfl
  | error refusal =>
    dsimp only
    split <;> exact hrefl tree

/-- What making one directory preserves, making a chain of them preserves, also when it fails
half way. -/
theorem makeChain_preserves (htrans : ∀ {tree middle later}, R tree middle → R middle later →
      R tree later) {chain : List String} (tree : FileTree)
    (hstep : ∀ path ∈ chain, ∀ tree later, tree.makeDirectory path = .ok later → R tree later) :
    R tree (tree.makeChain chain).1 := by
  induction chain generalizing tree with
  | nil => exact hrefl tree
  | cons path above ih =>
    have hpath := hstep path (List.mem_cons_self ..)
    have habove := ih tree fun other hmem => hstep other (List.mem_cons_of_mem _ hmem)
    unfold makeChain
    split
    · split
      · next middle refusal hchain =>
        rw [hchain] at habove
        exact habove
      · next middle hchain =>
        rw [hchain] at habove
        exact htrans habove (orDirectory_preserves hrefl (hpath middle))
    · exact orDirectory_preserves hrefl (hpath tree)

end

theorem makeDirectories_adds (tree : FileTree) (path : String) :
    tree.AddsDirectories (tree.makeDirectories path).1 :=
  makeChain_preserves AddsDirectories.refl AddsDirectories.trans tree
    fun _ _ _ _ h => makeDirectory_ok h

theorem makeRoom_adds (tree : FileTree) (path : String) :
    tree.AddsDirectories (tree.makeRoom path).1 := by
  unfold makeRoom
  split
  · exact AddsDirectories.refl tree
  · next parent hparent =>
    have hadds := tree.makeDirectories_adds parent
    split
    · next middle refusal hmade =>
      rw [hmade] at hadds
      exact hadds
    · next middle hmade =>
      rw [hmade] at hadds
      exact hadds

/-! ### Delivering -/

/-- The location of a file that was delivered, and what has become of all others. -/
theorem deliver_ok {directory : String} {file : SourceFile}
    (h : tree.deliver directory file = (later, .ok path)) :
    path = file.pathIn directory ∧
    ∃ location, tree.Extends later ∧ later.locate path = .ok (.file location (.text file.text)) ∧
      ∀ other content, other ≠ location →
        (later.find? other = some (.file content) ↔ tree.find? other = some (.file content)) := by
  have hroom := tree.makeRoom_adds (file.pathIn directory)
  unfold deliver at h
  dsimp only at h
  split at h
  · cases h
  · next middle hmade =>
    rw [hmade] at hroom
    split at h
    · cases h
    · next hwrite =>
      cases h
      obtain ⟨location, hextends, hlocate, hothers⟩ := writeFile_ok hwrite
      refine ⟨rfl, location, hroom.toExtends.trans hextends, hlocate, ?_⟩
      intro other content hother
      rw [hothers other hother, hroom.file_iff]

end

theorem deliverAll_cons_of_ok {tree middle later : FileTree} {directory path : String}
    {file : SourceFile} {rest : List SourceFile} {paths : List String}
    (h : tree.deliver directory file = (middle, .ok path))
    (hrest : middle.deliverAll directory rest = (later, .ok paths)) :
    tree.deliverAll directory (file :: rest) = (later, .ok (path :: paths)) := by
  rw [deliverAll_cons, h]
  dsimp only
  rw [hrest]

/-- What a tree is once all of some files were delivered into it. -/
structure Delivered (tree : FileTree) (directory : String) (files : List SourceFile)
    (later : FileTree) : Prop where
  grows : tree.Extends later
  /-- Every path holds the text of its file. -/
  holds : ∀ file ∈ files, ∃ location,
    later.locate (file.pathIn directory) = .ok (.file location (.text file.text))
  /-- All other files are what they were, and there are no new ones. -/
  others : ∀ location content,
    (∀ file ∈ files, later.location? (file.pathIn directory) ≠ some location) →
    (later.find? location = some (.file content) ↔ tree.find? location = some (.file content))

section
variable {tree later : FileTree} {directory : String}

/-- Files of distinct names do not lead to the same location. -/
theorem names_eq_of_location {file other : SourceFile} {location : Location}
    {content content' : Content} (hfile : ∀ name ∈ file.names, Path.IsName name)
    (hother : ∀ name ∈ other.names, Path.IsName name)
    (h : tree.locate (file.pathIn directory) = .ok (.file location content))
    (h' : tree.locate (other.pathIn directory) = .ok (.file location content')) :
    file.names = other.names := by
  rw [SourceFile.pathIn, SourceFile.path_eq hfile] at h
  rw [SourceFile.pathIn, SourceFile.path_eq hother] at h'
  obtain ⟨base, hbase, hwalk⟩ := locate_push file.names_ne_nil hfile h
  obtain ⟨base', hbase', hwalk'⟩ := locate_push other.names_ne_nil hother h'
  obtain rfl : base = base' := Option.some.inj (hbase.symm.trans hbase')
  have hlocation := location_of_walk_names hfile hwalk
  have hlocation' := location_of_walk_names hother hwalk'
  exact List.reverse_inj.1 (List.append_cancel_right (hlocation.symm.trans hlocation'))

/-- A file stays delivered while others follow that belong in other places. -/
theorem Delivered.cons {middle : FileTree} {file : SourceFile} {rest : List SourceFile}
    {location : Location} (hnames : ∀ other ∈ file :: rest, ∀ name ∈ other.names, Path.IsName name)
    (hplace : ∀ other ∈ rest, other.place ≠ file.place) (hgrows : tree.Extends middle)
    (hlocate : middle.locate (file.pathIn directory) = .ok (.file location (.text file.text)))
    (hothers : ∀ other content, other ≠ location →
      (middle.find? other = some (.file content) ↔ tree.find? other = some (.file content)))
    (hrest : middle.Delivered directory rest later) :
    tree.Delivered directory (file :: rest) later := by
  have hfile := hnames file (List.mem_cons_self ..)
  have hheld := (standsIn_of_walk (locate_eq_ok_iff.1 hlocate).2.2).2
  obtain ⟨content, hkept⟩ := hrest.grows.file location _ hheld
  have hlater := locate_file_of_extends hrest.grows hlocate trivial hkept
  -- No file of the rest leads to the location, so it holds what it held.
  have hfresh : ∀ other ∈ rest, later.location? (other.pathIn directory) ≠ some location := by
    intro other hmem hsame
    obtain ⟨location', hother⟩ := hrest.holds other hmem
    obtain rfl : location' = location := by
      rw [location?_eq hother] at hsame
      exact Option.some.inj hsame
    exact hplace other hmem (SourceFile.names_inj.1 (names_eq_of_location
      (hnames other (List.mem_cons_of_mem _ hmem)) hfile hother hlater))
  obtain rfl : content = .text file.text := by
    rw [hrest.others location content hfresh, hheld] at hkept
    cases hkept
    rfl
  refine ⟨hgrows.trans hrest.grows, ?_, ?_⟩
  · intro other hmem
    rcases List.mem_cons.1 hmem with rfl | hmem
    · exact ⟨location, hlater⟩
    · exact hrest.holds other hmem
  · intro other content hfree
    have hne : other ≠ location := by
      rintro rfl
      exact hfree file (List.mem_cons_self ..) (location?_eq hlater)
    rw [hrest.others other content fun file hmem => hfree file (List.mem_cons_of_mem _ hmem),
      hothers other content hne]

/-- **A delivery that succeeds has delivered everything**, if no two files belong in the
same place and their paths are made of names. -/
theorem deliverAll_ok {files : List SourceFile} {paths : List String}
    (hnames : ∀ file ∈ files, ∀ name ∈ file.names, Path.IsName name)
    (hplaces : (files.map SourceFile.place).Nodup)
    (h : tree.deliverAll directory files = (later, .ok paths)) :
    paths = files.map (·.pathIn directory) ∧ tree.Delivered directory files later := by
  induction files generalizing tree paths with
  | nil =>
    cases h
    exact ⟨rfl, Extends.refl _, fun _ hmem => absurd hmem List.not_mem_nil,
      fun _ _ _ => Iff.rfl⟩
  | cons file rest ih =>
    rw [List.map_cons, List.nodup_cons] at hplaces
    rw [deliverAll_cons] at h
    split at h
    · cases h
    · next middle path hdeliver =>
      obtain ⟨rfl, location, hgrows, hlocate, hothers⟩ := deliver_ok hdeliver
      split at h
      · cases h
      · next others hall =>
        cases h
        obtain ⟨rfl, hrest⟩ :=
          ih (fun other hmem => hnames other (List.mem_cons_of_mem _ hmem)) hplaces.2 hall
        refine ⟨rfl, Delivered.cons hnames ?_ hgrows hlocate hothers hrest⟩
        intro other hmem hsame
        exact hplaces.1 (List.mem_map.2 ⟨other, hmem, hsame⟩)

/-! ### Refusals -/

/-- A text cannot be delivered at a path: a directory above cannot be made, or the file
cannot be written. -/
def Refuses (tree : FileTree) (path text : String) : Prop :=
  (∃ parent refusal middle, Path.parent? path = some parent ∧
    tree.makeDirectories parent = (middle, .error refusal)) ∨
  ∃ refusal middle, tree.makeRoom path = (middle, .ok ()) ∧
    middle.writeFile path (.text text) = .error refusal

/-- The delivery of some files comes to one that cannot be delivered. -/
def Blocks (tree : FileTree) (directory : String) (files : List SourceFile) : Prop :=
  ∃ before file after paths middle, files = before ++ file :: after ∧
    tree.deliverAll directory before = (middle, .ok paths) ∧
    middle.Refuses (file.pathIn directory) file.text

/-- Making room fails just when the directory above a path cannot be made. -/
theorem makeRoom_error_iff {path : String} :
    (∃ problem, (tree.makeRoom path).2 = .error problem) ↔
      ∃ parent refusal middle, Path.parent? path = some parent ∧
        tree.makeDirectories parent = (middle, .error refusal) := by
  unfold makeRoom
  cases Path.parent? path with
  | none => simp
  | some parent => rcases hmade : tree.makeDirectories parent with ⟨middle, _ | _⟩ <;> simp [hmade]

/-- A delivery fails just when the tree refuses it. -/
theorem deliver_error_iff (file : SourceFile) :
    (∃ problem, (tree.deliver directory file).2 = .error problem) ↔
      tree.Refuses (file.pathIn directory) file.text := by
  unfold Refuses
  rw [← makeRoom_error_iff]
  unfold deliver
  dsimp only
  rcases tree.makeRoom (file.pathIn directory) with ⟨middle, problem | -⟩
  · simp
  · cases hwrite : middle.writeFile (file.pathIn directory) (.text file.text) <;> simp_all

theorem exitCode_of_makeRoom {path : String} {problem : Problem}
    (h : (tree.makeRoom path).2 = .error problem) : problem.exitCode = .inputOutput := by
  unfold makeRoom at h
  cases hparent : Path.parent? path with
  | none => simp [hparent] at h
  | some parent =>
    rcases hmade : tree.makeDirectories parent with ⟨middle, refusal | _⟩
    · simp only [hparent, hmade, Except.error.injEq] at h
      rw [← h]
      rfl
    · simp [hparent, hmade] at h

/-- What goes wrong in a delivery is the doing of the file system. -/
theorem exitCode_of_deliver {file : SourceFile} {problem : Problem}
    (h : (tree.deliver directory file).2 = .error problem) :
    problem.exitCode = .inputOutput := by
  unfold deliver at h
  dsimp only at h
  split at h
  · next hroom =>
    cases h
    exact exitCode_of_makeRoom (congrArg Prod.snd hroom)
  · split at h
    · cases h
      rfl
    · cases h

theorem blocks_nil : ¬tree.Blocks directory [] := by
  rintro ⟨before, file, after, _, _, hsplit, _⟩
  cases before <;> cases hsplit

/-- Either the first file is refused, or it is delivered and then the others block. -/
theorem blocks_cons {file : SourceFile} {rest : List SourceFile} :
    tree.Blocks directory (file :: rest) ↔
      tree.Refuses (file.pathIn directory) file.text ∨
        ∃ middle path, tree.deliver directory file = (middle, .ok path) ∧
          middle.Blocks directory rest := by
  constructor
  · rintro ⟨before, other, after, paths, last, hsplit, hbefore, hrefused⟩
    cases before with
    | nil =>
      obtain ⟨rfl, rfl⟩ := List.cons_eq_cons.1 hsplit
      cases hbefore
      exact .inl hrefused
    | cons first before =>
      obtain ⟨rfl, rfl⟩ := List.cons_eq_cons.1 hsplit
      rw [deliverAll_cons] at hbefore
      split at hbefore
      · cases hbefore
      · next middle path hdeliver =>
        split at hbefore
        · cases hbefore
        · next paths hrest =>
          cases hbefore
          exact .inr ⟨middle, path, hdeliver, before, other, after, paths, _, rfl, hrest, hrefused⟩
  · rintro (hrefused | ⟨middle, path, hdeliver, before, other, after, paths, last, rfl, hbefore,
      hrefused⟩)
    · exact ⟨[], file, rest, [], tree, rfl, rfl, hrefused⟩
    · refine ⟨file :: before, other, after, path :: paths, last, rfl, ?_, hrefused⟩
      rw [deliverAll_cons, hdeliver]
      dsimp only
      rw [hbefore]

/-- A delivery of some files fails just when it comes to one that cannot be delivered. -/
theorem deliverAll_error_iff {files : List SourceFile} :
    (∃ problem, (tree.deliverAll directory files).2 = .error problem) ↔
      tree.Blocks directory files := by
  induction files generalizing tree with
  | nil => simpa [blocks_nil] using fun problem h => by cases h
  | cons file rest ih =>
    rw [blocks_cons, ← deliver_error_iff, deliverAll_cons]
    rcases tree.deliver directory file with ⟨middle, problem | path⟩
    · simp
    · simp only [Prod.mk.injEq, Except.ok.injEq]
      rcases hrest : middle.deliverAll directory rest with ⟨last, problem | paths⟩ <;>
        simp_all [← ih]

theorem exitCode_of_deliverAll {files : List SourceFile} {problem : Problem}
    (h : (tree.deliverAll directory files).2 = .error problem) :
    problem.exitCode = .inputOutput := by
  induction files generalizing tree with
  | nil => cases h
  | cons file rest ih =>
    rw [deliverAll_cons] at h
    split at h
    · next hdeliver =>
      cases h
      exact exitCode_of_deliver (congrArg Prod.snd hdeliver)
    · next middle path _ =>
      split at h
      · next hrest =>
        cases h
        exact ih (congrArg Prod.snd hrest)
      · cases h

end
end FileTree
end FactoryGen
