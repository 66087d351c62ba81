import FactoryGen.Proofs.Scope
import Mathlib.Data.List.Forall2
import Mathlib.Data.List.Nodup

/-! Names as source text writes them, and what they are read back as.

Rules look at names without backticks, while source text has them: `Written` says how the
one comes from the other, without a word about the function that does it. Every identifier
is written in one way (`written_iff`) and is read back by taking backticks off
(`Written.strip_eq`), so distinct names stay distinct. A written name is never empty and has
no dots, so that writing the segments of a package leaves its dots where they are.
`names_read_back` says what that comes to for a factory: the names of its parameters and its
package tell what they were made from, and no parameter is taken for another. -/
namespace FactoryGen
namespace Kotlin

/-- A name, and the text that stands for it: a hard keyword between one pair of backticks,
any other identifier as it is. -/
inductive Written : String → String → Prop where
  | plain {name : String} (hname : isIdentifier name = true) (hkeyword : name ∉ hardKeywords) :
      Written name name
  | quoted {keyword : String} (hkeyword : keyword ∈ hardKeywords) :
      Written keyword (String.singleton backtick ++ keyword ++ String.singleton backtick)

/-- Hard keywords have the form of names. -/
theorem isIdentifier_of_mem_hardKeywords :
    ∀ keyword ∈ hardKeywords, isIdentifier keyword = true := by
  decide +kernel

/-- Identifiers are written, each in one way. -/
theorem written_iff {name text : String} :
    Written name text ↔ isIdentifier name = true ∧ text = escape name := by
  constructor
  · intro h
    cases h with
    | plain hname hkeyword =>
      have hplain : ¬ isHardKeyword name = true := fun h => hkeyword (List.contains_iff_mem.1 h)
      exact ⟨hname, (if_neg hplain).symm⟩
    | quoted hkeyword =>
      have hquoted : isHardKeyword name = true := List.contains_iff_mem.2 hkeyword
      exact ⟨isIdentifier_of_mem_hardKeywords name hkeyword, (if_pos hquoted).symm⟩
  · rintro ⟨hname, rfl⟩
    unfold escape
    split
    · next hkeyword => exact .quoted (List.contains_iff_mem.1 hkeyword)
    · next hkeyword => exact .plain hname fun hmem => hkeyword (List.contains_iff_mem.2 hmem)

/-- A name is read back from its text. -/
theorem Written.strip_eq {name text : String} (h : Written name text) : strip text = name := by
  obtain ⟨hname, rfl⟩ := written_iff.1 h
  exact strip_escape hname

/-- Writing each of some identifiers. -/
theorem forall₂_written {names : List String} (h : ∀ name ∈ names, isIdentifier name = true) :
    List.Forall₂ Written names (names.map escape) :=
  List.forall₂_map_right_iff.2
    (List.forall₂_same.2 fun name hmem => written_iff.2 ⟨h name hmem, rfl⟩)

/-- Names are read back from their texts, in order. -/
theorem map_strip_of_written {names texts : List String} (h : List.Forall₂ Written names texts) :
    texts.map strip = names := by
  induction h with
  | nil => rfl
  | cons hname _ ih => rw [List.map_cons, hname.strip_eq, ih]

/-- Among names that are told apart, each leads to its own place. -/
theorem idxOf_strip {texts : List String} (hnodup : (texts.map strip).Nodup) {index : Nat}
    {text : String} (h : texts[index]? = some text) :
    (texts.map strip).idxOf (strip text) = index := by
  have hname : (texts.map strip)[index]? = some (strip text) := by
    rw [List.getElem?_map, h, Option.map_some]
  obtain ⟨hindex, hname⟩ := List.getElem?_eq_some_iff.1 hname
  rw [← hname]
  exact hnodup.idxOf_getElem index hindex

/-- A package is written segment by segment. -/
theorem written_package {package : String} (h : isPackage package = true) :
    List.Forall₂ Written (packageSegments package) (packageSegments (escapePackage package)) := by
  rw [packageSegments_escapePackage h]
  exact forall₂_written (List.all_eq_true.1 h)

end Kotlin

/-- If names of fields are told apart without their backticks, the name of a field can denote
something else, but no other field. -/
theorem Body.eq_of_resolve_field (body : Body) {sees : Meaning → Bool}
    (hsees : ∀ index, sees (.field index) = true)
    (hnodup : (body.fields.map fun field => Kotlin.strip field.name).Nodup) {index other : Nat}
    {field : Factory.Parameter} (h : body.fields[index]? = some field) {package : List Binding}
    (hresolve : body.resolve package sees field.name = some (.field other)) : other = index := by
  have hfree : body.Free sees field.name := free_of_resolve hresolve nofun nofun
  rw [(body.resolve_field_iff hsees hnodup h package).2 hfree] at hresolve
  cases hresolve
  rfl

namespace Factory
open Kotlin

variable {shape : Shape}

/-- The names of a factory's parameters are those of the shape, written. -/
theorem written_names (hshape : shape.defect? = none) (settings : Settings) :
    List.Forall₂ Written (shape.parameters.map fun parameter => strip parameter.name)
      ((ofShape settings shape).parameters.map (·.name)) := by
  obtain ⟨_, _, _, hparameters, _⟩ := (Shape.defect?_eq_none_iff shape).1 hshape
  have hnames : (ofShape settings shape).parameters.map (·.name) =
      (shape.parameters.map fun parameter => strip parameter.name).map escape := by
    simp only [ofShape, List.map_map, Function.comp_def]
  rw [hnames]
  exact forall₂_written (List.forall_mem_map.2 fun parameter hmem => (hparameters parameter hmem).1)

/-- **The names of a factory are read back as they were given.** Let a shape break no rule.
Its parameters' names, backticks apart, are written in the factory in their order, each as a
plain identifier or as a hard keyword between backticks, and no two in the same way. So in
the constructor a name leads to its own parameter, and an argument of the call never denotes
the field of another parameter. The package, cut at its dots, has the written segments of
the shape's package; it is read back as that package, is empty only for the default package,
and two packages are never written alike. -/
theorem names_read_back (settings : Settings) (shape : Shape) (hshape : shape.defect? = none) :
    let factory := ofShape settings shape
    let given := shape.parameters.map fun parameter => strip parameter.name
    let written := factory.parameters.map (·.name)
    (List.Forall₂ Written given written ∧ written.map strip = given ∧ written.Nodup ∧
      (∀ index name, written[index]? = some name →
        (written.map strip).idxOf (strip name) = index) ∧
      ∀ (package : List Binding) (sight : Sight) index name other,
        factory.body.arguments[index]? = some name →
        factory.body.resolve package sight.argument name = some (.field other) →
        other = index) ∧
    List.Forall₂ Written (packageSegments shape.package) (packageSegments factory.package) ∧
    strip factory.package = shape.package ∧
    (factory.package = "" ↔ shape.package = "") ∧
    ∀ (settings' : Settings) (other : Shape), other.defect? = none →
      ((ofShape settings' other).package = factory.package ↔ other.package = shape.package) := by
  intro factory given written
  obtain ⟨_, _, hpackage, _, hnodup⟩ := (Shape.defect?_eq_none_iff shape).1 hshape
  have hnames : List.Forall₂ Written given written := written_names hshape settings
  have hback : written.map strip = given := map_strip_of_written hnames
  have hapart : (written.map strip).Nodup := hback ▸ hnodup
  refine ⟨⟨hnames, hback, List.Nodup.of_map strip hapart, fun _ _ => idxOf_strip hapart,
    fun package sight index name other hname hresolve => ?_⟩, written_package hpackage,
    strip_escapePackage hpackage, escapePackage_eq_empty_iff shape.package,
    fun settings' other hother => ?_⟩
  · -- The arguments are the names of the fields.
    have hwritten : (factory.parameters.map (·.name))[index]? = some name := hname
    rw [List.getElem?_map] at hwritten
    obtain ⟨field, hfield, rfl⟩ := Option.map_eq_some_iff.1 hwritten
    rw [List.map_map] at hapart
    exact factory.body.eq_of_resolve_field sight.argument_field hapart hfield hresolve
  · obtain ⟨_, _, hpackage', _⟩ := (Shape.defect?_eq_none_iff other).1 hother
    exact escapePackage_inj hpackage' hpackage

/-- Keywords with backticks around them, within them, or without any are all written in the
same way. -/
theorem names_read_back_of_keywords :
    let settings : Settings := { strategy := .checked }
    let shape : Shape :=
      ⟨"A", "com.in.is", "B", [⟨"`in`", "p.T"⟩, ⟨"x", "K"⟩, ⟨"ob`ject", "`p`.T"⟩, ⟨"is", "K"⟩]⟩
    let other : Shape := ⟨"A", "com.in", "B", []⟩
    let written := ["`in`", "x", "`object`", "`is`"]
    let factory := ofShape settings shape
    shape.defect? = none ∧ other.defect? = none ∧
      factory.parameters.map (·.name) = written ∧ factory.package = "com.`in`.`is`" ∧
      List.Forall₂ Written ["in", "x", "object", "is"] written ∧
      written.map strip = ["in", "x", "object", "is"] ∧ written.Nodup ∧
      (written.map strip).idxOf (strip "`object`") = 2 ∧
      List.Forall₂ Written ["com", "in", "is"] (packageSegments "com.`in`.`is`") ∧
      strip "com.`in`.`is`" = "com.in.is" ∧ (ofShape {} other).package ≠ factory.package := by
  intro settings shape other written factory
  have hshape : shape.defect? = none := by decide +kernel
  have hother : other.defect? = none := by decide +kernel
  have hwritten : factory.parameters.map (·.name) = written := by decide +kernel
  have hpackage : factory.package = "com.`in`.`is`" := by decide +kernel
  have hgiven : (shape.parameters.map fun parameter => strip parameter.name) =
      ["in", "x", "object", "is"] := by decide +kernel
  have hsegments : packageSegments shape.package = ["com", "in", "is"] := by decide +kernel
  obtain ⟨⟨hnames, hback, hnodup, hplace, _⟩, hparts, hread, _, hapart⟩ :=
    names_read_back settings shape hshape
  rw [hwritten, hgiven] at hnames hback
  rw [hwritten] at hnodup hplace
  rw [hpackage, hsegments] at hparts
  rw [hpackage] at hread
  refine ⟨hshape, hother, hwritten, hpackage, hnames, hback, hnodup, hplace 2 _ rfl, hparts, hread,
    fun hsame => ?_⟩
  exact absurd ((hapart {} other hother).1 hsame) (by decide)

end Factory
end FactoryGen
