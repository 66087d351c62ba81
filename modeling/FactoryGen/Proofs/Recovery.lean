import FactoryGen.Proofs.Header

/-! What source text tells of its class.

The text of a factory has the package, the name of the class and its parameters in it,
and each of them can be told: the package ends its line, the name of the class ends
before the parenthesis, and the parameters end where that parenthesis is closed.

Commas do not tell the parameters apart, as types may have them outside of all brackets.
Colons do: outside of all brackets a type has none (`isInert_of_isTypeReference`), so there
is one for each parameter. In front of the next one stands a name, and names have no
blanks, so what is in front of the last blank belongs to the type (`more_inj`). -/
namespace FactoryGen
namespace Kotlin

/-- The text in front of the first colon outside every bracket, and the text behind it. -/
def Nesting.label? (nesting : Nesting) : List Char → Option (List Char × List Char)
  | [] => none
  | c :: rest =>
    if c = ':' ∧ nesting.pending = [] then some ([], rest)
    else (nesting.next? c).bind fun after =>
      (after.label? rest).map fun found => (c :: found.1, found.2)

namespace Nesting

/-- A text that labels nothing belongs to the label that comes next. -/
theorem label?_append {nesting after : Nesting} {front : List Char}
    (hread : nesting.read front = some after) (hfront : nesting.label? front = none)
    (back : List Char) :
    nesting.label? (front ++ back) =
      (after.label? back).map fun found => (front ++ found.1, found.2) := by
  induction front generalizing nesting with
  | nil =>
    cases hread
    simp only [List.nil_append, Option.map_id']
  | cons c front ih =>
    simp only [read] at hread
    obtain ⟨middle, hmiddle, hrest⟩ := Option.bind_eq_some_iff.1 hread
    rw [label?] at hfront
    split at hfront
    · cases hfront
    · next hcolon =>
      rw [hmiddle, Option.bind_some, Option.map_eq_none_iff] at hfront
      rw [List.cons_append, label?, if_neg hcolon, hmiddle, Option.bind_some, ih hrest hfront,
        Option.map_map]
      rfl

theorem label?_of_not_mem {text : List Char} (h : ':' ∉ text) (nesting : Nesting) :
    nesting.label? text = none := by
  induction text generalizing nesting with
  | nil => rfl
  | cons c text ih =>
    rw [List.mem_cons, not_or] at h
    rw [label?, if_neg fun hcolon => h.1 hcolon.1.symm]
    cases nesting.next? c with
    | none => rfl
    | some after => rw [Option.bind_some, ih h.2, Option.map_none]

/-- A text leaves the brackets around it as they are and labels nothing. -/
structure IsInert (text : List Char) : Prop where
  read : Nesting.read {} text = some {}
  label? : Nesting.label? {} text = none

theorem IsInert.append {front back : List Char} (hfront : IsInert front) (hback : IsInert back) :
    IsInert (front ++ back) := by
  constructor
  · rw [read_append, hfront.read]
    exact hback.read
  · rw [label?_append hfront.read hfront.label?, hback.label?]
    rfl

/-- Such a text is a label if a colon stands behind it. -/
theorem IsInert.label?_append {front : List Char} (hfront : IsInert front) (back : List Char) :
    Nesting.label? {} (front ++ ':' :: back) = some (front, back) := by
  have hcolon : Nesting.label? {} (':' :: back) = some ([], back) := rfl
  rw [Nesting.label?_append hfront.read hfront.label?, hcolon, Option.map_some, List.append_nil]

end Nesting

/-- A reader takes colons in parentheses only. -/
theorem TypeReader.Reads.label? {reader after : TypeReader} {cs : List Char}
    (h : Reads reader cs after) : Nesting.label? ⟨reader.pending, false⟩ cs = none := by
  induction h with
  | done reader => rfl
  | @arrow reader after rest haccepts hrest ih =>
    show ((Nesting.label? ⟨reader.pending, false⟩ rest).map _).map _ = none
    have hlabel : Nesting.label? ⟨reader.pending, false⟩ rest = none := ih
    rw [hlabel]
    rfl
  | @mark reader after c mark rest hmark haccepts hrest ih =>
    have hcolon : ¬(c = ':' ∧ reader.pending = []) := by
      rintro ⟨rfl, hpending⟩
      cases hmark
      simp [TypeReader.accepts, hpending] at haccepts
    rw [Nesting.label?, if_neg hcolon, TypeReader.next?_of_accepts hmark haccepts,
      Option.bind_some, ih]
    rfl

theorem isInert_of_isTypeReference {type : String} (h : isTypeReference type = true) :
    Nesting.IsInert type.toList := by
  obtain ⟨after, hreads, _⟩ := reads_of_isTypeReference h
  exact ⟨read_of_isTypeReference h, hreads.label?⟩

theorem isInert_escape {name : String} (hname : isIdentifier name = true) :
    Nesting.IsInert (escape name).toList := by
  refine ⟨Nesting.read_plain (escape_plain hname) [], Nesting.label?_of_not_mem ?_ {}⟩
  exact not_mem_escape hname (by decide) (by decide)

end Kotlin

namespace Parameter
open Kotlin Nesting

/-- A parameter has the name and the type of one, backticks apart. -/
structure IsSound (parameter : Parameter) : Prop where
  name : isIdentifier (Kotlin.strip parameter.name) = true
  type : isTypeReference (Kotlin.strip parameter.type) = true

/-- What the parameters behind another one add to a list. -/
def more : List Parameter → List Char
  | [] => []
  | parameter :: rest => ", ".toList ++ (parameter.declaration.toList ++ more rest)

/-- A list of parameters is what they add to another one, the first comma apart. -/
theorem more_cons (parameter : Parameter) (rest : List Parameter) :
    more (parameter :: rest) =
      ", ".toList ++ (", ".intercalate ((parameter :: rest).map declaration)).toList := by
  induction rest generalizing parameter with
  | nil => rw [List.map_singleton, String.intercalate_singleton, more, more, List.append_nil]
  | cons next rest ih =>
    have hlist : ", ".intercalate ((parameter :: next :: rest).map declaration) =
        parameter.declaration ++ ", " ++ ", ".intercalate ((next :: rest).map declaration) :=
      String.intercalate_cons_of_ne_nil (List.cons_ne_nil _ _)
    rw [more, ih, hlist, String.toList_append, String.toList_append, List.append_assoc]

/-- The label of the next parameter takes in all that was left of the one before. -/
theorem append_more_cons (front : List Char) (parameter : Parameter) (rest : List Parameter) :
    front ++ more (parameter :: rest) =
      (front ++ [','] ++ ' ' :: (escape (Kotlin.strip parameter.name)).toList) ++
        ':' :: ' ' :: ((Kotlin.strip parameter.type).toList ++ more rest) := by
  have hcomma : ", ".toList = [',', ' '] := by decide
  have hcolon : ": ".toList = [':', ' '] := by decide
  simp only [more, declaration, String.toList_append, hcomma, hcolon, List.append_assoc,
    List.cons_append, List.nil_append]

variable {rest others : List Parameter} {front front' : List Char}

theorem label?_more_cons {parameter : Parameter} (hsound : parameter.IsSound)
    (hfront : IsInert front) (rest : List Parameter) :
    label? {} (front ++ more (parameter :: rest)) =
      some (front ++ [','] ++ ' ' :: (escape (Kotlin.strip parameter.name)).toList,
        ' ' :: ((Kotlin.strip parameter.type).toList ++ more rest)) := by
  have hcomma : IsInert [',', ' '] := ⟨rfl, rfl⟩
  have hlabel := hfront.append (hcomma.append (isInert_escape hsound.name))
  rw [append_more_cons, List.append_assoc front]
  exact hlabel.label?_append _

/-- **The text of some parameters tells them**, also behind a text that leaves brackets
alone and labels nothing. -/
theorem more_inj (hrest : ∀ parameter ∈ rest, parameter.IsSound)
    (hothers : ∀ parameter ∈ others, parameter.IsSound) (hfront : IsInert front)
    (hfront' : IsInert front') (h : front ++ more rest = front' ++ more others) :
    front = front' ∧ rest.map strip = others.map strip := by
  -- The fronts are the types of the parameters before, which the next label cuts off.
  induction rest generalizing front front' others with
  | nil =>
    cases others with
    | nil => exact ⟨by simpa [more] using h, rfl⟩
    | cons other others =>
      have hlabel := label?_more_cons (hothers other (List.mem_cons_self ..)) hfront' others
      rw [← h, more, List.append_nil, hfront.label?] at hlabel
      cases hlabel
  | cons parameter rest ih =>
    have hlabel := label?_more_cons (hrest parameter (List.mem_cons_self ..)) hfront rest
    cases others with
    | nil =>
      rw [h, more, List.append_nil, hfront'.label?] at hlabel
      cases hlabel
    | cons other others =>
      have hsound := hrest parameter (List.mem_cons_self ..)
      have hsound' := hothers other (List.mem_cons_self ..)
      rw [h, label?_more_cons hsound' hfront' others, Option.some.injEq, Prod.mk.injEq] at hlabel
      obtain ⟨hlabels, hbehind⟩ := hlabel
      obtain ⟨hcommas, hnames⟩ := Text.append_separator_inj_right
        (not_mem_escape hsound'.name (by decide) (by decide))
        (not_mem_escape hsound.name (by decide) (by decide)) hlabels
      obtain ⟨htypes, hmaps⟩ := ih (fun other hmem => hrest other (List.mem_cons_of_mem _ hmem))
        (fun other hmem => hothers other (List.mem_cons_of_mem _ hmem))
        (isInert_of_isTypeReference hsound.type) (isInert_of_isTypeReference hsound'.type)
        (List.cons_inj_right _ |>.1 hbehind).symm
      refine ⟨(List.append_cancel_right hcommas).symm, ?_⟩
      have hname : Kotlin.strip parameter.name = Kotlin.strip other.name := by
        rw [← strip_escape hsound.name, ← String.toList_inj.1 hnames, strip_escape hsound'.name]
      rw [List.map_cons, List.map_cons, hmaps, strip, strip, hname, String.toList_inj.1 htypes]

theorem intercalate_declaration_ne_empty {parameter : Parameter} (hsound : parameter.IsSound)
    (rest : List Parameter) : ", ".intercalate ((parameter :: rest).map declaration) ≠ "" := by
  intro hempty
  have hlabel := label?_more_cons hsound (⟨rfl, rfl⟩ : IsInert []) rest
  rw [List.nil_append, more_cons, hempty] at hlabel
  cases hlabel

/-- A list of parameters tells them. -/
theorem declarations_inj (hrest : ∀ parameter ∈ rest, parameter.IsSound)
    (hothers : ∀ parameter ∈ others, parameter.IsSound)
    (h : ", ".intercalate (rest.map declaration) = ", ".intercalate (others.map declaration)) :
    rest.map strip = others.map strip := by
  have hmore : more rest = more others := by
    cases rest with
    | nil =>
      cases others with
      | nil => rfl
      | cons other others =>
        have hsound := hothers other (List.mem_cons_self ..)
        exact absurd h.symm (intercalate_declaration_ne_empty hsound others)
    | cons parameter rest =>
      cases others with
      | nil =>
        have hsound := hrest parameter (List.mem_cons_self ..)
        exact absurd h (intercalate_declaration_ne_empty hsound rest)
      | cons other others => rw [more_cons, more_cons, h]
  exact (more_inj hrest hothers ⟨rfl, rfl⟩ ⟨rfl, rfl⟩ (congrArg ([] ++ ·) hmore)).2

end Parameter

namespace Factory
open Kotlin

/-- The lines that tell the package, as text. -/
def packageText (factory : Factory) : List Char :=
  if factory.package = "" then [] else "package ".toList ++ (factory.package.toList ++ "\n\n".toList)

/-- How the text of a factory begins: the marker on its line, the package, then the name. -/
theorem source_eq_front (factory : Factory) :
    ∃ rest, factory.source.toList = ("// " ++ factory.marker).toList ++
      '\n' :: (factory.packageText ++ ("class ".toList ++ (factory.name.toList ++ '(' :: rest))) := by
  have hsource : factory.source = unlines factory.lines := rfl
  rw [hsource, lines, packageText]
  split <;>
  · simp only [List.append_assoc, List.cons_append, List.nil_append, unlines_cons,
      String.toList_append]
    exact ⟨_, rfl⟩

/-- Where the class begins tells whether there is a package, and which. -/
theorem packageText_inj {factory other : Factory} {rest rest' : List Char}
    (hpackage : '\n' ∉ factory.package.toList) (hpackage' : '\n' ∉ other.package.toList)
    (h : factory.packageText ++ ("class ".toList ++ rest) =
      other.packageText ++ ("class ".toList ++ rest')) :
    factory.package = other.package ∧ rest = rest' := by
  unfold packageText at h
  split at h <;> split at h
  · next hnone hnone' => exact ⟨hnone.trans hnone'.symm, List.append_cancel_left h⟩
  · cases h
  · cases h
  · simp only [List.append_assoc] at h
    obtain ⟨hsame, hrest⟩ :=
      Text.append_separator_inj hpackage hpackage' (List.append_cancel_left h)
    exact ⟨String.toList_inj.1 hsame, List.append_cancel_left (List.cons_inj_right _ |>.1 hrest)⟩

section
variable {settings settings' : Settings} {shape shape' : Shape}

theorem parameter_isSound (hshape : shape.defect? = none) :
    ∀ parameter ∈ shape.parameters, parameter.IsSound := by
  obtain ⟨_, _, _, hparameters, _⟩ := (Shape.defect?_eq_none_iff shape).1 hshape
  exact fun parameter hmem => ⟨(hparameters parameter hmem).1, (hparameters parameter hmem).2⟩

/-- The front of a text tells the class and its package. -/
theorem class_inj (hsettings : settings.defect? = none) (hsettings' : settings'.defect? = none)
    (hshape : shape.defect? = none) (hshape' : shape'.defect? = none)
    (h : (ofShape settings shape).source = (ofShape settings' shape').source) :
    shape.className = shape'.className ∧ shape.package = shape'.package := by
  have hmarker {settings : Settings} {shape : Shape} (hsettings : settings.defect? = none) :
      '\n' ∉ ("// " ++ (ofShape settings shape).marker).toList := by
    rw [String.toList_append, List.mem_append, not_or]
    exact ⟨by decide, newline_not_mem_marker hsettings⟩
  obtain ⟨rest, hfront⟩ := (ofShape settings shape).source_eq_front
  obtain ⟨rest', hfront'⟩ := (ofShape settings' shape').source_eq_front
  rw [h, hfront'] at hfront
  obtain ⟨_, hbehind⟩ :=
    Text.append_separator_inj (hmarker hsettings') (hmarker hsettings) hfront
  obtain ⟨hpackage, hheader⟩ := packageText_inj (newline_not_mem_package hshape')
    (newline_not_mem_package hshape) hbehind
  obtain ⟨hname, _⟩ :=
    Text.append_separator_inj (not_mem_name hshape' (by decide)) (not_mem_name hshape (by decide))
      hheader
  constructor
  · have hname : shape'.className ++ "Factory" = shape.className ++ "Factory" :=
      String.toList_inj.1 hname
    exact ((String.append_left_inj _).1 hname).symm
  · obtain ⟨_, _, hsound, _⟩ := (Shape.defect?_eq_none_iff shape).1 hshape
    obtain ⟨_, _, hsound', _⟩ := (Shape.defect?_eq_none_iff shape').1 hshape'
    have hwritten : escapePackage shape'.package = escapePackage shape.package := hpackage
    exact ((escapePackage_inj hsound' hsound).1 hwritten).symm

/-- Its header tells the parameters. -/
theorem parameters_inj (hsettings : settings.defect? = none)
    (hsettings' : settings'.defect? = none) (hshape : shape.defect? = none)
    (hshape' : shape'.defect? = none)
    (h : (ofShape settings shape).source = (ofShape settings' shape').source) :
    shape.parameters.map FactoryGen.Parameter.strip =
      shape'.parameters.map FactoryGen.Parameter.strip := by
  have hread {shape : Shape} (hshape : shape.defect? = none) :
      ∀ parameter ∈ shape.parameters,
        Nesting.read {} parameter.declaration.toList = some {} := fun parameter hmem =>
    FactoryGen.Parameter.read_declaration (parameter_isSound hshape parameter hmem).name
      (parameter_isSound hshape parameter hmem).type
  have hheader := headerText?_ofShape hsettings hshape (hread hshape)
  have hheader' := headerText?_ofShape hsettings' hshape' (hread hshape')
  have hname : shape.factoryName = shape'.factoryName := by
    rw [Shape.factoryName, (class_inj hsettings hsettings' hshape hshape' h).1, Shape.factoryName]
  rw [h, hname, hheader', Option.some.injEq] at hheader
  exact (FactoryGen.Parameter.declarations_inj (parameter_isSound hshape')
    (parameter_isSound hshape) (String.toList_inj.1 hheader)).symm

end

end Factory

/-- **The text of a factory tells the class that it is for**: its name, its package and its
parameters in their order, backticks apart. That holds of any two shapes that break no
rule, even if other settings were in use for the one than for the other. -/
theorem Generator.source_tells_shape (settings settings' : Settings) (shape shape' : Shape)
    (hsettings : settings.defect? = none) (hsettings' : settings'.defect? = none)
    (hshape : shape.defect? = none) (hshape' : shape'.defect? = none) :
    ∃ generator generator' file file', ofSettings settings = .ok generator ∧
      ofSettings settings' = .ok generator' ∧
      generator.generate shape = .ok file ∧ generator'.generate shape' = .ok file' ∧
      (file.text = file'.text →
        shape.className = shape'.className ∧ shape.package = shape'.package ∧
        shape.parameters.map Parameter.strip = shape'.parameters.map Parameter.strip) := by
  obtain ⟨generator, hnew, hgenerate⟩ := exists_generate hsettings hshape
  obtain ⟨generator', hnew', hgenerate'⟩ := exists_generate hsettings' hshape'
  have hclass := Factory.class_inj hsettings hsettings' hshape hshape'
  have hparameters := Factory.parameters_inj hsettings hsettings' hshape hshape'
  -- The texts are kept abstract: all that matters of them was said.
  generalize (Factory.ofShape settings shape).source = source at *
  generalize (Factory.ofShape settings' shape').source = source' at *
  refine ⟨generator, generator', _, _, hnew, hnew', hgenerate, hgenerate', fun h => ?_⟩
  exact ⟨(hclass h).1, (hclass h).2, hparameters h⟩

/-- Two parameters are not taken for one whose type has a comma in it. -/
theorem Generator.source_tells_shape_of_bare_comma :
    let settings : Settings := {}
    let settings' : Settings := { strategy := .checked }
    let shape : Shape := ⟨"A", "p.in", "B", [⟨"x", "K, y"⟩, ⟨"`is`", "L"⟩]⟩
    let shape' : Shape := ⟨"A", "p.in", "B", [⟨"x", "K"⟩, ⟨"y", "M"⟩, ⟨"is", "`L`"⟩]⟩
    settings.defect? = none ∧ settings'.defect? = none ∧ shape.defect? = none ∧
      shape'.defect? = none ∧
      ∃ generator generator' file file', ofSettings settings = .ok generator ∧
        ofSettings settings' = .ok generator' ∧
        generator.generate shape = .ok file ∧ generator'.generate shape' = .ok file' ∧
        file.text ≠ file'.text := by
  intro settings settings' shape shape'
  have hsettings : settings.defect? = none := by decide +kernel
  have hsettings' : settings'.defect? = none := by decide +kernel
  have hshape : shape.defect? = none := by decide +kernel
  have hshape' : shape'.defect? = none := by decide +kernel
  obtain ⟨generator, generator', file, file', hnew, hnew', hgenerate, hgenerate', htells⟩ :=
    source_tells_shape settings settings' shape shape' hsettings hsettings' hshape hshape'
  refine ⟨hsettings, hsettings', hshape, hshape', generator, generator', file, file', hnew, hnew',
    hgenerate, hgenerate', fun htext => ?_⟩
  exact absurd (htells htext).2.2 (by decide)

end FactoryGen
