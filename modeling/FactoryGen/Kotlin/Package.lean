import FactoryGen.Kotlin.Name
import FactoryGen.Text.Pieces

/-! Package names: segments with dots between them. The empty name is the default
package, which has no segments. -/
namespace FactoryGen.Kotlin

/-- The segments of a package name. The default package has none; any other name
has one more than it has dots. -/
def packageSegments (package : String) : List String :=
  if package = "" then [] else (Text.pieces '.' package.toList).map String.ofList

/-- Segments with dots between them. -/
def dotted (segments : List String) : String :=
  String.ofList (Text.join ['.'] (segments.map String.toList))

/-- A package name as source text writes it: each segment that is a keyword
between backticks. -/
def escapePackage (package : String) : String :=
  dotted ((packageSegments package).map escape)

/-- The default package, or dots between identifiers. -/
def isPackage (package : String) : Bool := (packageSegments package).all isIdentifier

/-- A package name is its segments with dots between them. -/
theorem dotted_packageSegments (package : String) : dotted (packageSegments package) = package := by
  unfold packageSegments
  split
  · rename_i h; rw [h]; rfl
  · rw [← String.toList_inj]
    simp only [dotted, List.map_map, Function.comp_def, String.toList_ofList, List.map_id']
    exact Text.join_pieces '.' package.toList

theorem dotted_eq_empty_iff (segments : List String) :
    dotted segments = "" ↔ segments = [] ∨ segments = [""] := by
  rw [dotted, ← String.toList_inj, String.toList_ofList, String.toList_empty,
    Text.join_eq_nil_iff (List.cons_ne_nil _ _), List.map_eq_nil_iff, List.map_eq_singleton_iff]
  simp

/-- Segments with dots between them are cut into the same segments, if none is empty or has
a dot of its own. -/
theorem packageSegments_dotted {segments : List String} (hempty : "" ∉ segments)
    (hdot : ∀ segment ∈ segments, '.' ∉ segment.toList) :
    packageSegments (dotted segments) = segments := by
  by_cases hnil : segments = []
  · rw [hnil]
    rfl
  · have hone : segments ≠ [""] := by
      rintro rfl
      exact hempty (List.mem_singleton_self "")
    have hne : dotted segments ≠ "" := fun h =>
      ((dotted_eq_empty_iff segments).1 h).elim hnil hone
    have hpieces := Text.pieces_join (by simpa using hnil) (List.forall_mem_map.2 hdot)
    rw [packageSegments, if_neg hne, dotted, String.toList_ofList, hpieces, List.map_map]
    simp

/-- What a written package name is made of. -/
theorem mem_escapePackage {c : Char} {package : String} (hpackage : isPackage package = true)
    (h : c ∈ (escapePackage package).toList) : c = '.' ∨ c = backtick ∨ isWordChar c = true := by
  simp only [escapePackage, dotted, String.toList_ofList, List.map_map] at h
  rcases Text.mem_join h with h | ⟨part, hmem, h⟩
  · exact .inl (List.mem_singleton.1 h)
  · obtain ⟨segment, hsegment, rfl⟩ := List.mem_map.1 hmem
    have hname : isIdentifier segment = true := List.all_eq_true.1 hpackage segment hsegment
    rcases mem_escape h with h | h
    · exact .inr (.inl h)
    · exact .inr (.inr (isWordChar_of_isIdentifier hname c h))

theorem strip_dotted (segments : List String) :
    strip (dotted segments) = dotted (segments.map strip) := by
  have hdot : ['.'].filter (· != backtick) = ['.'] := by decide
  rw [← String.toList_inj]
  simp only [dotted, toList_strip, String.toList_ofList, Text.filter_join, hdot, List.map_map,
    Function.comp_def]

/-- A package name comes back from its written form. -/
theorem strip_escapePackage {package : String} (h : isPackage package = true) :
    strip (escapePackage package) = package := by
  have hsegments : (packageSegments package).map (strip ∘ escape) = packageSegments package := by
    rw [List.map_congr_left (g := id)]
    · exact List.map_id _
    · intro segment hmem
      exact strip_escape (List.all_eq_true.1 h segment hmem)
  rw [escapePackage, strip_dotted, List.map_map, hsegments, dotted_packageSegments]

/-- A written package name has the segments of the package, each as it is written. -/
theorem packageSegments_escapePackage {package : String} (h : isPackage package = true) :
    packageSegments (escapePackage package) = (packageSegments package).map escape := by
  have hnames : ∀ segment ∈ packageSegments package, isIdentifier segment = true :=
    List.all_eq_true.1 h
  apply packageSegments_dotted
  · intro hempty
    obtain ⟨segment, hmem, hwritten⟩ := List.mem_map.1 hempty
    have hname := hnames segment hmem
    rw [(escape_eq_empty_iff segment).1 hwritten] at hname
    cases hname
  · exact List.forall_mem_map.2 fun segment hmem =>
      not_mem_escape (hnames segment hmem) (by decide) (by decide)

/-- Packages are written apart. -/
theorem escapePackage_inj {package other : String} (h : isPackage package = true)
    (hother : isPackage other = true) :
    escapePackage package = escapePackage other ↔ package = other := by
  constructor
  · intro hwritten
    rw [← strip_escapePackage h, hwritten, strip_escapePackage hother]
  · rintro rfl
    rfl

/-- Only the default package is written as nothing. -/
theorem escapePackage_eq_empty_iff (package : String) : escapePackage package = "" ↔ package = "" := by
  have hone : (packageSegments package).map escape = [""] ↔ packageSegments package = [""] := by
    simp only [List.map_eq_singleton_iff, escape_eq_empty_iff, exists_eq_right]
  rw [escapePackage, dotted_eq_empty_iff, List.map_eq_nil_iff, hone, ← dotted_eq_empty_iff,
    dotted_packageSegments]

end FactoryGen.Kotlin
