import FactoryGen.FileTree.Delivery
import FactoryGen.Proofs.Batch

/-! Where files go.

A report keeps its files apart by name and package, while a file system keeps them apart
by path. The two agree because of what the gate lets through: the segments of a package
and the name of a class are names of directory entries (`Path.IsName`), and a path that is
put together from such names falls apart into the same names (`pieces_intercalate`). So a
path tells the package and the class, no file stands where another one needs a directory,
and every file stays below the directory it is delivered into (`paths_apart`). -/
namespace FactoryGen
namespace Path

/-- What can name an entry of a directory. -/
structure IsName (piece : String) : Prop where
  ne_empty : piece ≠ ""
  ne_dot : piece ≠ "."
  ne_dots : piece ≠ ".."
  slash_not_mem : '/' ∉ piece.toList

/-- The components of a path: its pieces, without the ones that name nothing. The first
piece stays whatever it is, since it tells an absolute path from others. -/
def components (path : String) : List String :=
  if path = "" then []
  else
    match FileTree.pieces path with
    | [] => []
    | first :: rest => first :: rest.filter fun piece => !isIdle piece.toList

/-- What stands in front of the pieces of a path when it is pushed onto a directory: the
pieces of the directory, but for the empty one behind a slash at its end. -/
def stem (directory : String) : List String :=
  if directory = "" then []
  else if directory.toList.getLast? = some '/' then (FileTree.pieces directory).dropLast
  else FileTree.pieces directory

/-! ### Names -/

theorem IsName.not_idle {piece : String} (h : IsName piece) : isIdle piece.toList = false := by
  have hdot : piece.toList ≠ ['.'] := fun e => h.ne_dot (String.toList_inj.1 e)
  simp [isIdle, h.ne_empty, hdot]

theorem IsName.head?_ne {piece : String} (h : IsName piece) : piece.toList.head? ≠ some '/' :=
  fun e => h.slash_not_mem (List.mem_of_head? e)

/-- A path without a slash at its edges has no empty piece there. -/
theorem empty_mem_pieces {path : String}
    (h : path = "" ∨ path.toList.head? = some '/' ∨ path.toList.getLast? = some '/') :
    "" ∈ FileTree.pieces path := by
  have hmem : [] ∈ Text.pieces '/' path.toList := by
    rcases h with rfl | h | h
    · exact List.mem_singleton.2 rfl
    · obtain ⟨rest, hrest⟩ := List.head?_eq_some_iff.1 h
      rw [hrest, Text.pieces_cons_separator]
      exact List.mem_cons_self ..
    · obtain ⟨front, hfront⟩ := List.getLast?_eq_some_iff.1 h
      rw [hfront, Text.pieces_append_separator, Text.pieces_nil]
      exact List.mem_append_right _ (List.mem_singleton.2 rfl)
  exact List.mem_map.2 ⟨[], hmem, rfl⟩

theorem pieces_append_slash (front rest : String) :
    FileTree.pieces (front ++ "/" ++ rest) = FileTree.pieces front ++ FileTree.pieces rest := by
  have htext : (front ++ "/" ++ rest).toList = front.toList ++ '/' :: rest.toList := by
    simp [String.toList_append]
  rw [FileTree.pieces, htext, Text.pieces_append_separator, List.map_append]
  rfl

/-! ### Paths of names -/

section
variable {names : List String}

/-- A path of names falls apart into these names. -/
theorem pieces_intercalate (hne : names ≠ []) (h : ∀ name ∈ names, IsName name) :
    FileTree.pieces ("/".intercalate names) = names := by
  have hslash : ∀ piece ∈ names.map String.toList, '/' ∉ piece := by
    intro piece hmem
    obtain ⟨name, hname, rfl⟩ := List.mem_map.1 hmem
    exact (h name hname).slash_not_mem
  have hpieces := Text.pieces_join (by simpa using hne) hslash
  rw [Text.join_eq_intercalate] at hpieces
  rw [FileTree.pieces, String.toList_intercalate]
  exact (congrArg (List.map String.ofList) hpieces).trans (by simp)

/-- A path of names is not empty, and there are no slashes at its edges. -/
theorem intercalate_edges (hne : names ≠ []) (h : ∀ name ∈ names, IsName name) :
    "/".intercalate names ≠ "" ∧ ("/".intercalate names).toList.head? ≠ some '/' ∧
      ("/".intercalate names).toList.getLast? ≠ some '/' := by
  have hempty : "" ∉ FileTree.pieces ("/".intercalate names) := by
    rw [pieces_intercalate hne h]
    exact fun hmem => (h "" hmem).ne_empty rfl
  exact ⟨fun e => hempty (empty_mem_pieces (.inl e)),
    fun e => hempty (empty_mem_pieces (.inr (.inl e))),
    fun e => hempty (empty_mem_pieces (.inr (.inr e)))⟩

/-- Pushing a name onto a path of names puts it behind them. -/
theorem push_intercalate {name : String} (h : ∀ other ∈ names, IsName other)
    (hname : IsName name) :
    push ("/".intercalate names) name = "/".intercalate (names ++ [name]) := by
  rw [push, if_neg hname.head?_ne]
  by_cases hne : names = []
  · rw [hne, List.nil_append, String.intercalate_singleton, String.intercalate_nil,
      if_pos (.inl rfl), String.empty_append]
  · obtain ⟨hempty, _, hslash⟩ := intercalate_edges hne h
    rw [if_neg (not_or.2 ⟨hempty, hslash⟩),
      String.intercalate_append_of_ne_nil hne (List.cons_ne_nil _ _),
      String.intercalate_singleton]

theorem foldl_push {rest : List String} (h : ∀ name ∈ names ++ rest, IsName name) :
    rest.foldl push ("/".intercalate names) = "/".intercalate (names ++ rest) := by
  induction rest generalizing names with
  | nil => rw [List.foldl_nil, List.append_nil]
  | cons name rest ih =>
    rw [List.foldl_cons,
      push_intercalate (fun other hmem => h other (List.mem_append_left _ hmem))
        (h name (List.mem_append_right _ (List.mem_cons_self ..))),
      ih (by simpa using h), List.append_assoc, List.singleton_append]

theorem components_of_pieces {path first : String} {rest : List String} (hne : path ≠ "")
    (h : FileTree.pieces path = first :: rest) :
    components path = first :: rest.filter fun piece => !isIdle piece.toList := by
  rw [components, if_neg hne, h]

theorem filter_names (h : ∀ name ∈ names, IsName name) :
    names.filter (fun piece => !isIdle piece.toList) = names := by
  rw [List.filter_eq_self]
  intro name hmem
  rw [(h name hmem).not_idle]
  rfl

theorem ofSegments_eq (h : ∀ name ∈ names, IsName name) :
    ofSegments names = "/".intercalate names := by
  have hfold := foldl_push (List.nil_append names ▸ h)
  rwa [List.nil_append, String.intercalate_nil] at hfold

/-- The components of a path of names are these names. -/
theorem components_intercalate (hne : names ≠ []) (h : ∀ name ∈ names, IsName name) :
    components ("/".intercalate names) = names := by
  have hpieces := pieces_intercalate hne h
  have hempty := (intercalate_edges hne h).1
  cases names with
  | nil => exact absurd rfl hne
  | cons first rest =>
    rw [components_of_pieces hempty hpieces,
      filter_names fun name hmem => h name (List.mem_cons_of_mem _ hmem)]

/-! ### Below a directory -/

theorem exists_append_slash {directory : String} (h : directory.toList.getLast? = some '/') :
    ∃ front, directory = front ++ "/" := by
  obtain ⟨front, hfront⟩ := List.getLast?_eq_some_iff.1 h
  refine ⟨String.ofList front, ?_⟩
  rw [← String.toList_inj, hfront]
  simp

theorem pieces_append_last_slash (front : String) :
    FileTree.pieces (front ++ "/") = FileTree.pieces front ++ [""] := by
  have hpieces := pieces_append_slash front ""
  rwa [String.append_empty] at hpieces

theorem pieces_ne_nil (path : String) : FileTree.pieces path ≠ [] := by
  simpa [FileTree.pieces] using Text.pieces_ne_nil '/' path.toList

theorem stem_append_slash (front : String) : stem (front ++ "/") = FileTree.pieces front := by
  have hne : front ++ "/" ≠ "" := by
    intro e
    have htext := congrArg String.toList e
    simp at htext
  have hslash : (front ++ "/").toList.getLast? = some '/' := by simp
  rw [stem, if_neg hne, if_pos hslash, pieces_append_last_slash, List.dropLast_concat]

theorem pieces_eq_stem {directory : String} (hne : directory ≠ "") :
    stem directory ≠ [] ∧ (FileTree.pieces directory = stem directory ∨
      FileTree.pieces directory = stem directory ++ [""]) := by
  by_cases hslash : directory.toList.getLast? = some '/'
  · obtain ⟨front, rfl⟩ := exists_append_slash hslash
    rw [stem_append_slash]
    exact ⟨pieces_ne_nil front, .inr (pieces_append_last_slash front)⟩
  · rw [stem, if_neg hne, if_neg hslash]
    exact ⟨pieces_ne_nil directory, .inl rfl⟩

/-- The pieces of a path of names come behind those of the directory it is pushed onto. -/
theorem pieces_push (directory : String) (hne : names ≠ []) (h : ∀ name ∈ names, IsName name) :
    FileTree.pieces (push directory ("/".intercalate names)) = stem directory ++ names := by
  rw [push, if_neg (intercalate_edges hne h).2.1]
  by_cases hdirectory : directory = ""
  · rw [if_pos (.inl hdirectory), hdirectory, String.empty_append, pieces_intercalate hne h]
    rfl
  · by_cases hslash : directory.toList.getLast? = some '/'
    · rw [if_pos (.inr hslash)]
      obtain ⟨front, rfl⟩ := exists_append_slash hslash
      rw [pieces_append_slash, stem_append_slash, pieces_intercalate hne h]
    · rw [if_neg (not_or.2 ⟨hdirectory, hslash⟩), pieces_append_slash, pieces_intercalate hne h,
        stem, if_neg hdirectory, if_neg hslash]

/-- A path of names lies below every directory that it is pushed onto. -/
theorem components_push (directory : String) (hne : names ≠ []) (h : ∀ name ∈ names, IsName name) :
    components (push directory ("/".intercalate names)) = components directory ++ names := by
  by_cases hdirectory : directory = ""
  · rw [push, if_neg (intercalate_edges hne h).2.1, if_pos (.inl hdirectory), hdirectory,
      String.empty_append, components_intercalate hne h]
    rfl
  · obtain ⟨hstem, hpieces⟩ := pieces_eq_stem hdirectory
    obtain ⟨first, rest, hcons⟩ := List.exists_cons_of_ne_nil hstem
    have hpush := pieces_push directory hne h
    rw [hcons, List.cons_append] at hpush
    rw [hcons, List.cons_append] at hpieces
    have hpath : push directory ("/".intercalate names) ≠ "" := by
      intro e
      rw [e] at hpush
      have hempty : rest ++ names = [] := (List.cons.inj hpush).2.symm
      exact hne (List.append_eq_nil_iff.1 hempty).2
    rw [components_of_pieces hpath hpush, List.filter_append, filter_names h]
    rcases hpieces with hpieces | hpieces
    · rw [components_of_pieces hdirectory hpieces, List.cons_append]
    · rw [components_of_pieces hdirectory hpieces, List.filter_append]
      simp [isIdle]

example : components (push "./out//x/" "p/A.kt") = [".", "out", "x", "p", "A.kt"] := by
  decide +kernel

end
end Path

/-! ### The names that the gate lets through -/

namespace Kotlin

/-- An identifier can name a directory. -/
theorem isName_of_isIdentifier {name : String} (h : isIdentifier name = true) :
    Path.IsName name := by
  have hdot : '.' ∉ name.toList := not_mem_of_isIdentifier h (by decide)
  refine ⟨?_, ?_, ?_, not_mem_of_isIdentifier h (by decide)⟩
  · rintro rfl
    cases h
  · rintro rfl
    exact hdot (by decide)
  · rintro rfl
    exact hdot (by decide)

theorem packageSegments_injective {package other : String}
    (h : packageSegments package = packageSegments other) : package = other := by
  rw [← dotted_packageSegments package, h, dotted_packageSegments]

end Kotlin

/-- The names on the path of a file: the segments of its package, then its own with the
extension. -/
def SourceFile.names (file : SourceFile) : List String :=
  Kotlin.packageSegments file.package ++ [file.name ++ "." ++ SourceFile.extension]

namespace SourceFile
variable {file other : SourceFile}

theorem names_ne_nil (file : SourceFile) : file.names ≠ [] := by simp [names]

theorem path_eq (h : ∀ name ∈ file.names, Path.IsName name) :
    file.path = "/".intercalate file.names := by
  have hsegments : ∀ name ∈ Kotlin.packageSegments file.package, Path.IsName name :=
    fun name hmem => h name (List.mem_append_left _ hmem)
  have hname := h _ (List.mem_append_right _ (List.mem_singleton.2 rfl))
  rw [path, directory, Path.ofSegments_eq hsegments, Path.push_intercalate hsegments hname]
  rfl

/-- The names on the path of a file tell its place. -/
theorem names_inj : file.names = other.names ↔ file.place = other.place := by
  constructor
  · intro h
    obtain ⟨hsegments, hname⟩ := List.append_inj' h rfl
    have hname := (String.append_left_inj _).1 (List.singleton_inj.1 hname)
    rw [String.append_left_inj] at hname
    exact Prod.ext hname (Kotlin.packageSegments_injective hsegments)
  · intro h
    obtain ⟨hname, hpackage⟩ := Prod.mk.inj h
    rw [names, names, hname, hpackage]

theorem components_path (h : ∀ name ∈ file.names, Path.IsName name) :
    Path.components file.path = file.names := by
  rw [path_eq h, Path.components_intercalate file.names_ne_nil h]

/-- So does the path. -/
theorem path_inj (h : ∀ name ∈ file.names, Path.IsName name)
    (hother : ∀ name ∈ other.names, Path.IsName name) :
    file.path = other.path ↔ file.place = other.place := by
  rw [← names_inj]
  constructor
  · intro hpath
    rw [← components_path h, hpath, components_path hother]
  · intro hnames
    rw [path_eq h, hnames, path_eq hother]

end SourceFile

namespace Generator
variable {generator : Generator} {symbol : Symbol} {shape : Shape} {file : SourceFile}

theorem Writes.sound (h : generator.Writes symbol shape file) : shape.defect? = none :=
  ((Symbol.shape_eq_ok_iff _ _ _).1 h.passes).2.2.2

theorem Writes.names_eq (h : generator.Writes symbol shape file) :
    file.names = Kotlin.packageSegments shape.package ++ [shape.className ++ "Factory.kt"] := by
  obtain ⟨hname, hpackage⟩ := Prod.mk.inj (generator.place_of_render h.renders)
  rw [SourceFile.names, hname, hpackage, Shape.factoryName, String.append_assoc,
    String.append_assoc]
  rfl

/-- Every name on the path of a rendered file can name a directory entry. -/
theorem Writes.isName (h : generator.Writes symbol shape file) :
    ∀ name ∈ file.names, Path.IsName name := by
  obtain ⟨hclass, _, hpackage, _⟩ := (Shape.defect?_eq_none_iff shape).1 h.sound
  rw [h.names_eq]
  intro name hmem
  rcases List.mem_append.1 hmem with hmem | hmem
  · exact Kotlin.isName_of_isIdentifier (List.all_eq_true.1 hpackage name hmem)
  · rw [List.mem_singleton.1 hmem]
    have hletter : 'F' ∈ (shape.className ++ "Factory.kt").toList := by
      simp [String.toList_append]
    refine ⟨?_, ?_, ?_, ?_⟩
    · intro e
      rw [e] at hletter
      cases hletter
    · intro e
      rw [e] at hletter
      revert hletter
      decide
    · intro e
      rw [e] at hletter
      revert hletter
      decide
    · rw [String.toList_append, List.mem_append, not_or]
      exact ⟨(Kotlin.isName_of_isIdentifier hclass).slash_not_mem, by decide⟩

/-- The name of a file has a dot in it, so no package has a segment of that name. -/
theorem name_not_mem_packageSegments {package : String}
    (hpackage : Kotlin.isPackage package = true) (file : SourceFile) :
    file.name ++ "." ++ SourceFile.extension ∉ Kotlin.packageSegments package := by
  intro hmem
  have hdot : '.' ∈ (file.name ++ "." ++ SourceFile.extension).toList := by
    simp [String.toList_append]
  exact Kotlin.not_mem_of_isIdentifier (List.all_eq_true.1 hpackage _ hmem) (by decide) hdot

theorem Writes.not_prefix (h : generator.Writes symbol shape file) {other : SourceFile}
    (hplace : other.place ≠ file.place) : ¬ other.names <+: file.names := by
  intro hprefix
  have hnames : file.names = Kotlin.packageSegments shape.package ++ _ := h.names_eq
  obtain ⟨_, _, hpackage, _⟩ := (Shape.defect?_eq_none_iff shape).1 h.sound
  rw [hnames, List.prefix_concat_iff, ← hnames] at hprefix
  rcases hprefix with heq | hprefix
  · exact hplace (SourceFile.names_inj.1 heq)
  · have hmem := hprefix.subset (List.mem_append_right _ (List.mem_singleton.2 rfl))
    exact name_not_mem_packageSegments hpackage other hmem

/-- **Files do not get in each other's way.** The paths of a report are distinct, and none
leads through another one, since their components begin no other path. Each path is made of
the segments of the package and the name of the factory, with single slashes in between,
and each of these can name a directory entry; so the path is relative, and stays below any
directory it is pushed onto. Two files, of whatever generators, share a path just if they
share package and class. -/
theorem paths_apart (generator : Generator) (symbols : List Symbol) :
    ((generator.report symbols).files.map SourceFile.path).Nodup ∧
    (generator.report symbols).files.Pairwise (fun file other =>
      ¬ Path.components file.path <+: Path.components other.path ∧
        ¬ Path.components other.path <+: Path.components file.path) ∧
    (∀ file ∈ (generator.report symbols).files, ∃ symbol ∈ symbols, ∃ shape,
      generator.Writes symbol shape file ∧
      ∃ names, names = Kotlin.packageSegments shape.package ++ [shape.className ++ "Factory.kt"] ∧
        file.path = "/".intercalate names ∧ file.path.toList.head? ≠ some '/' ∧
        Path.components file.path = names ∧ (∀ name ∈ names, Path.IsName name) ∧
        ∀ directory, Path.components (file.pathIn directory) =
          Path.components directory ++ names) ∧
    (∀ (other : Generator) symbol symbol' shape shape' file file',
      generator.Writes symbol shape file → other.Writes symbol' shape' file' →
      (file.path = file'.path ↔
        shape.package = shape'.package ∧ shape.className = shape'.className)) := by
  have hwrites : ∀ file ∈ (generator.report symbols).files, ∃ symbol ∈ symbols, ∃ shape,
      generator.Writes symbol shape file := fun file hmem => generator.exists_writes_of_mem hmem
  have hplaces := generator.report_places_nodup symbols
  have hapart : (generator.report symbols).files.Pairwise (fun file other =>
      ¬ Path.components file.path <+: Path.components other.path ∧
        ¬ Path.components other.path <+: Path.components file.path) := by
    rw [List.Nodup, List.pairwise_map] at hplaces
    refine hplaces.imp_of_mem ?_
    intro file other hfile hother hne
    obtain ⟨_, _, _, h⟩ := hwrites file hfile
    obtain ⟨_, _, _, h'⟩ := hwrites other hother
    rw [SourceFile.components_path h.isName, SourceFile.components_path h'.isName]
    exact ⟨h'.not_prefix hne, h.not_prefix (Ne.symm hne)⟩
  refine ⟨?_, hapart, ?_, ?_⟩
  · rw [List.Nodup, List.pairwise_map]
    refine hapart.imp ?_
    rintro file other ⟨hne, _⟩ hpath
    exact hne (hpath ▸ List.prefix_refl _)
  · intro file hmem
    obtain ⟨symbol, hsymbol, shape, h⟩ := hwrites file hmem
    have hpath := SourceFile.path_eq h.isName
    refine ⟨symbol, hsymbol, shape, h, file.names, h.names_eq, hpath, ?_,
      SourceFile.components_path h.isName, h.isName, fun directory => ?_⟩
    · rw [hpath]
      exact (Path.intercalate_edges file.names_ne_nil h.isName).2.1
    · rw [SourceFile.pathIn, hpath, Path.components_push directory file.names_ne_nil h.isName]
  · intro other symbol symbol' shape shape' file file' h h'
    rw [SourceFile.path_inj h.isName h'.isName, generator.place_of_render h.renders,
      other.place_of_render h'.renders, Shape.place, Shape.place, Prod.mk.injEq, Shape.factoryName,
      Shape.factoryName, String.append_left_inj, and_comm]

end Generator
end FactoryGen
