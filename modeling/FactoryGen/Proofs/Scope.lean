import FactoryGen.Proofs.Source

/-! What the names in a `create` method denote.

The method declares two names of its own, a type parameter and a value parameter, and
stands in a class with a field for each parameter, in a package with the annotated class.
A name denotes the innermost declaration of it that its use can see. The generator means
every argument to be a field and what it calls to be the annotated class; `Hygienic` says
that this is so. `create_hygienic_iff` says when it is: the two names of the method are
taken, and the rules on shapes do not keep them free. -/
namespace FactoryGen

/-- What a name in a `create` method can denote. -/
inductive Meaning where
  | typeParameter
  | valueParameter
  | field (index : Nat)
  | annotatedClass
  | other
deriving DecidableEq, Repr

/-- A declared name, without backticks. -/
structure Binding where
  name : String
  meaning : Meaning
deriving DecidableEq, Repr

/-- Which declarations the arguments of a call, and what is called, can denote. Fields and
classes are among them. -/
structure Sight where
  argument : Meaning → Bool
  callee : Meaning → Bool
  argument_field : ∀ index, argument (.field index) = true
  callee_class : callee .annotatedClass = true

namespace Sight

/-- All names are of one kind. -/
def plain : Sight := ⟨fun _ => true, fun _ => true, fun _ => rfl, rfl⟩

/-- Whether a declaration is one of a value, not of a type. -/
def isValue : Meaning → Bool
  | .valueParameter | .field _ => true
  | _ => false

/-- Arguments are values, and what is called is a type. -/
def kinds : Sight := ⟨isValue, fun meaning => !isValue meaning, fun _ => rfl, rfl⟩

end Sight

/-- The body of a factory, with the names that it declares and uses told apart. -/
structure Body where
  fields : List Factory.Parameter
  typeParameter : String
  valueParameter : String
  /-- The bound of the type parameter. -/
  baseType : String
  /-- The name in the message of the comparison. -/
  factoryName : String
  /-- The class that is compared with, if one is. -/
  receiver? : Option String
  /-- What is called. -/
  callee : String
  arguments : List String

namespace Body

def openingLine (body : Body) : String :=
  "    override fun <" ++ body.typeParameter ++ " : " ++ body.baseType ++ "> create(" ++
    body.valueParameter ++ ": java.lang.Class<" ++ body.typeParameter ++ ">): " ++
    body.typeParameter ++ " \x7b"

def call (body : Body) : String :=
  body.callee ++ "(" ++ ", ".intercalate body.arguments ++ ")"

def methodLines (body : Body) : List String :=
  match body.receiver? with
  | some receiver =>
    [body.openingLine,
     "        require(" ++ body.valueParameter ++ ".isAssignableFrom(" ++ receiver ++
       "::class.java)) \x7b",
     "            \"" ++ body.factoryName ++ " cannot create $\x7b" ++ body.valueParameter ++
       ".name\x7d\"",
     "        \x7d",
     "        return " ++ body.valueParameter ++ ".cast(" ++ body.call ++ ")",
     "    \x7d"]
  | none =>
    ["    @Suppress(\"UNCHECKED_CAST\")",
     body.openingLine,
     "        return " ++ body.call ++ " as " ++ body.typeParameter,
     "    \x7d"]

/-- The lines of the body, up to the end of the class. -/
def lines (body : Body) : List String :=
  (body.fields.map fun field =>
    "    val " ++ field.name ++ ": " ++ field.type ++ " = " ++ field.name) ++
  (if body.fields.isEmpty then [] else [""]) ++ body.methodLines ++ ["\x7d"]

/-- The fields from some index on. -/
def fieldScope : Nat → List Factory.Parameter → List Binding
  | _, [] => []
  | index, field :: rest => ⟨Kotlin.strip field.name, .field index⟩ :: fieldScope (index + 1) rest

/-- All declarations that the method can refer to, the innermost first: its own, then
the fields, then the package. -/
def scope (body : Body) (package : List Binding) : List Binding :=
  [⟨body.typeParameter, .typeParameter⟩, ⟨body.valueParameter, .valueParameter⟩] ++
    fieldScope 0 body.fields ++ package

/-- What a name denotes, for a use that can see some declarations. -/
def resolve (body : Body) (package : List Binding) (sees : Meaning → Bool) (name : String) :
    Option Meaning :=
  ((body.scope package).find? fun binding =>
    binding.name == Kotlin.strip name && sees binding.meaning).map (·.meaning)

/-- Every name of the method denotes what the generator means by it. -/
structure Hygienic (body : Body) (package : List Binding) (sight : Sight) : Prop where
  /-- There is an argument for each field. -/
  length_eq : body.arguments.length = body.fields.length
  argument : ∀ index name, body.arguments[index]? = some name →
    body.resolve package sight.argument name = some (.field index)
  callee : body.resolve package sight.callee body.callee = some .annotatedClass
  receiver : ∀ name, body.receiver? = some name →
    body.resolve package sight.callee name = some .annotatedClass

/-! ### Fields -/

theorem find?_fieldScope {fields : List Factory.Parameter} {sees : Meaning → Bool}
    (hsees : ∀ index, sees (.field index) = true)
    (hnodup : (fields.map fun field => Kotlin.strip field.name).Nodup) {index : Nat}
    {field : Factory.Parameter} (h : fields[index]? = some field) (start : Nat) :
    ((fieldScope start fields).find? fun binding =>
      binding.name == Kotlin.strip field.name && sees binding.meaning) =
      some ⟨Kotlin.strip field.name, .field (start + index)⟩ := by
  induction fields generalizing index start with
  | nil => cases h
  | cons first rest ih =>
    rw [List.map_cons, List.nodup_cons] at hnodup
    cases index with
    | zero =>
      cases h
      simp only [fieldScope, List.find?_cons, beq_self_eq_true, hsees, Bool.and_self, Nat.add_zero]
    | succ index =>
      have hrest : rest[index]? = some field := h
      have hother : Kotlin.strip first.name ≠ Kotlin.strip field.name := fun e =>
        hnodup.1 (e ▸ List.mem_map_of_mem (List.mem_of_getElem? hrest))
      simp only [fieldScope, List.find?_cons, beq_eq_false_iff_ne.2 hother, Bool.false_and]
      rw [ih hnodup.2 hrest (start + 1), Nat.add_right_comm]
      rfl

theorem mem_fieldScope {fields : List Factory.Parameter} {start : Nat} {binding : Binding} :
    binding ∈ fieldScope start fields ↔ ∃ index field, fields[index]? = some field ∧
      binding = ⟨Kotlin.strip field.name, .field (start + index)⟩ := by
  induction fields generalizing start with
  | nil => simp [fieldScope]
  | cons first rest ih =>
    rw [fieldScope, List.mem_cons, ih]
    constructor
    · rintro (rfl | ⟨index, field, h, rfl⟩)
      · exact ⟨0, first, rfl, rfl⟩
      · exact ⟨index + 1, field, h, by rw [Nat.add_right_comm]; rfl⟩
    · rintro ⟨index, field, h, rfl⟩
      cases index with
      | zero =>
        cases h
        exact .inl rfl
      | succ index => exact .inr ⟨index, field, h, by rw [Nat.add_right_comm]; rfl⟩

/-! ### What a name denotes -/

/-- Neither of the method's own names is in the way of a name. -/
def Free (body : Body) (sees : Meaning → Bool) (name : String) : Prop :=
  (sees .typeParameter = true → Kotlin.strip name ≠ body.typeParameter) ∧
    (sees .valueParameter = true → Kotlin.strip name ≠ body.valueParameter)

section
variable {body : Body} {sees : Meaning → Bool}

theorem hides_eq_false {declared name : String} {seen : Bool}
    (h : seen = true → name ≠ declared) : (declared == name && seen) = false := by
  cases seen with
  | false => exact Bool.and_false _
  | true => rw [beq_eq_false_iff_ne.2 (h rfl).symm, Bool.false_and]

theorem resolve_of_free {name : String} (h : body.Free sees name) (package : List Binding) :
    body.resolve package sees name =
      (((fieldScope 0 body.fields ++ package).find? fun binding =>
        binding.name == Kotlin.strip name && sees binding.meaning).map (·.meaning)) := by
  simp only [resolve, scope, List.cons_append, List.nil_append, List.find?_cons,
    hides_eq_false h.1, hides_eq_false h.2]

/-- A name that is not free denotes something of the method's own. -/
theorem resolve_of_not_free {name : String} (h : ¬ body.Free sees name) (package : List Binding) :
    body.resolve package sees name = some .typeParameter ∨
      body.resolve package sees name = some .valueParameter := by
  by_cases htype : (body.typeParameter == Kotlin.strip name && sees .typeParameter) = true
  · left
    simp only [resolve, scope, List.cons_append, List.find?_cons, htype, Option.map_some]
  · by_cases hvalue : (body.valueParameter == Kotlin.strip name && sees .valueParameter) = true
    · right
      simp only [resolve, scope, List.cons_append, List.nil_append, List.find?_cons,
        Bool.eq_false_iff.2 htype, hvalue, Option.map_some]
    · refine absurd ⟨fun hsees e => htype ?_, fun hsees e => hvalue ?_⟩ h
      · rw [e, hsees, beq_self_eq_true]
        rfl
      · rw [e, hsees, beq_self_eq_true]
        rfl

theorem free_of_resolve {name : String} {package : List Binding} {meaning : Meaning}
    (h : body.resolve package sees name = some meaning) (htype : meaning ≠ .typeParameter)
    (hvalue : meaning ≠ .valueParameter) : body.Free sees name := by
  refine Classical.byContradiction fun hfree => ?_
  rcases resolve_of_not_free hfree package with hother | hother
  · rw [h] at hother
    exact htype (Option.some.inj hother)
  · rw [h] at hother
    exact hvalue (Option.some.inj hother)

/-- The name of a field denotes the field just when it is free. -/
theorem resolve_field_iff (body : Body) (hsees : ∀ index, sees (.field index) = true)
    (hnodup : (body.fields.map fun field => Kotlin.strip field.name).Nodup) {index : Nat}
    {field : Factory.Parameter} (h : body.fields[index]? = some field) (package : List Binding) :
    body.resolve package sees field.name = some (.field index) ↔ body.Free sees field.name := by
  constructor
  · intro hresolve
    exact free_of_resolve hresolve nofun nofun
  · intro hfree
    rw [resolve_of_free hfree, List.find?_append, find?_fieldScope hsees hnodup h, Nat.zero_add]
    rfl

/-- The name of the class denotes the class just when it is free and no field has it. -/
theorem resolve_class_iff (body : Body) (hsees : sees .annotatedClass = true) {name : String}
    (hname : Kotlin.strip name = name) (others : List Binding) :
    body.resolve (⟨name, .annotatedClass⟩ :: others) sees name = some .annotatedClass ↔
      body.Free sees name ∧ ∀ index field, body.fields[index]? = some field →
        sees (.field index) = true → Kotlin.strip field.name ≠ name := by
  constructor
  · intro hresolve
    have hfree : body.Free sees name := free_of_resolve hresolve nofun nofun
    refine ⟨hfree, fun index field hfield hseen hsame => ?_⟩
    rw [resolve_of_free hfree, List.find?_append] at hresolve
    cases hfind : (fieldScope 0 body.fields).find? fun binding =>
        binding.name == Kotlin.strip name && sees binding.meaning with
    | none =>
      have hmem : ⟨Kotlin.strip field.name, .field (0 + index)⟩ ∈ fieldScope 0 body.fields :=
        mem_fieldScope.2 ⟨index, field, hfield, rfl⟩
      have hnot := List.find?_eq_none.1 hfind _ hmem
      simp only [hsame, hname, beq_self_eq_true, Nat.zero_add, hseen, Bool.and_self,
        not_true_eq_false] at hnot
    | some binding =>
      obtain ⟨other, _, _, rfl⟩ := mem_fieldScope.1 (List.mem_of_find?_eq_some hfind)
      rw [hfind] at hresolve
      cases hresolve
  · rintro ⟨hfree, hfields⟩
    have hnone : ((fieldScope 0 body.fields).find? fun binding =>
        binding.name == Kotlin.strip name && sees binding.meaning) = none := by
      rw [List.find?_eq_none]
      intro binding hmem hfound
      obtain ⟨index, field, hfield, rfl⟩ := mem_fieldScope.1 hmem
      simp only [Bool.and_eq_true, beq_iff_eq, hname, Nat.zero_add] at hfound
      exact hfields index field hfield hfound.2 hfound.1
    rw [resolve_of_free hfree, List.find?_append, hnone]
    simp only [Option.none_or, List.find?_cons, hname, beq_self_eq_true, hsees, Bool.and_self,
      Option.map_some]

end

end Body

namespace Factory

def body (factory : Factory) : Body where
  fields := factory.parameters
  typeParameter := "T"
  valueParameter := "modelClass"
  baseType := factory.baseType
  factoryName := factory.name
  receiver? := if factory.checked then some factory.className else none
  callee := factory.className
  arguments := factory.parameters.map (·.name)

variable (factory : Factory)

/-! ### The body in its file -/

theorem openingLine_body : factory.body.openingLine = factory.createLine := by
  have hopening : factory.body.openingLine = "    override fun <" ++ "T" ++ " : " ++
      factory.baseType ++ "> create(" ++ "modelClass" ++ ": java.lang.Class<" ++ "T" ++ ">): " ++
      "T" ++ " \x7b" := rfl
  rw [hopening, createLine_eq, ← String.toList_inj]
  simp

theorem methodLines_body : factory.body.methodLines = factory.createLines := by
  have hcall : factory.body.call = factory.className ++ "(" ++ factory.arguments ++ ")" := rfl
  have htype : factory.body.typeParameter = "T" := rfl
  have hvalue : factory.body.valueParameter = "modelClass" := rfl
  have hname : factory.body.factoryName = factory.name := rfl
  cases hchecked : factory.checked with
  | true =>
    have hreceiver : factory.body.receiver? = some factory.className := if_pos hchecked
    simp only [Body.methodLines, hreceiver, openingLine_body, hcall, hvalue, hname, createLines,
      hchecked, if_true, List.cons.injEq, ← String.toList_inj, String.toList_append]
    simp
  | false =>
    have hreceiver : factory.body.receiver? = none := by
      simp only [body, hchecked, Bool.false_eq_true, if_false]
    simp only [Body.methodLines, hreceiver, openingLine_body, hcall, htype, createLines, hchecked,
      Bool.false_eq_true, if_false, List.cons.injEq, ← String.toList_inj, String.toList_append]
    simp

/-- The text of a factory ends with its body. -/
theorem source_eq_body : ∃ front, factory.source = unlines (front ++ factory.body.lines) := by
  refine ⟨["// " ++ factory.marker] ++
    (if factory.package = "" then [] else ["package " ++ factory.package, ""]) ++
    ["class " ++ factory.name ++ "(" ++ factory.signature ++ ") : " ++ factory.interface ++
      " \x7b"], ?_⟩
  have hsource : factory.source = unlines factory.lines := rfl
  rw [hsource, Body.lines, methodLines_body]
  simp only [lines, List.append_assoc]
  rfl

/-! ### Hygiene -/

/-- The generator's meaning is kept just when the names of the method hide no parameter and
not the class, and no field that a call can see has the name of the class. -/
theorem hygienic_iff (sight : Sight)
    (hnodup : (factory.parameters.map fun parameter => Kotlin.strip parameter.name).Nodup)
    (hclass : Kotlin.strip factory.className = factory.className) (others : List Binding) :
    factory.body.Hygienic (⟨factory.className, .annotatedClass⟩ :: others) sight ↔
      (∀ parameter ∈ factory.parameters, factory.body.Free sight.argument parameter.name) ∧
      factory.body.Free sight.callee factory.className ∧
      ∀ index parameter, factory.parameters[index]? = some parameter →
        sight.callee (.field index) = true → Kotlin.strip parameter.name ≠ factory.className := by
  have hargument {index : Nat} {parameter : Factory.Parameter}
      (h : factory.parameters[index]? = some parameter) :=
    factory.body.resolve_field_iff sight.argument_field hnodup h
      (⟨factory.className, .annotatedClass⟩ :: others)
  have hcallee := factory.body.resolve_class_iff sight.callee_class hclass others
  constructor
  · intro h
    refine ⟨fun parameter hmem => ?_, hcallee.1 h.callee⟩
    obtain ⟨index, hparameter⟩ := List.mem_iff_getElem?.1 hmem
    refine (hargument hparameter).1 (h.argument index parameter.name ?_)
    simp only [body, List.getElem?_map, hparameter, Option.map_some]
  · rintro ⟨harguments, hclear⟩
    refine ⟨List.length_map _, fun index name hname => ?_, hcallee.2 hclear, fun name hname => ?_⟩
    · simp only [body, List.getElem?_map] at hname
      obtain ⟨parameter, hparameter, rfl⟩ := Option.map_eq_some_iff.1 hname
      exact (hargument hparameter).2 (harguments parameter (List.mem_of_getElem? hparameter))
    · have hsame : name = factory.className := by
        simp only [body] at hname
        split at hname
        · exact (Option.some.inj hname).symm
        · cases hname
      rw [hsame]
      exact hcallee.2 hclear

/-- For a shape that breaks no rule, the names are those that it was given. -/
theorem hygienic_ofShape_iff {shape : Shape} (hshape : shape.defect? = none) (settings : Settings)
    (sight : Sight) (others : List Binding) :
    (ofShape settings shape).body.Hygienic (⟨shape.className, .annotatedClass⟩ :: others) sight ↔
      (∀ parameter ∈ shape.parameters,
        (sight.argument .typeParameter = true → Kotlin.strip parameter.name ≠ "T") ∧
        (sight.argument .valueParameter = true → Kotlin.strip parameter.name ≠ "modelClass")) ∧
      ((sight.callee .typeParameter = true → shape.className ≠ "T") ∧
        (sight.callee .valueParameter = true → shape.className ≠ "modelClass")) ∧
      ∀ index parameter, shape.parameters[index]? = some parameter →
        sight.callee (.field index) = true → Kotlin.strip parameter.name ≠ shape.className := by
  obtain ⟨hclass, _, _, hparameters, hnodup⟩ := (Shape.defect?_eq_none_iff shape).1 hshape
  have hclass := Kotlin.strip_of_isIdentifier hclass
  have hwritten : ∀ parameter ∈ shape.parameters,
      Kotlin.strip (Kotlin.escape (Kotlin.strip parameter.name)) = Kotlin.strip parameter.name :=
    fun parameter hmem => Kotlin.strip_escape (hparameters parameter hmem).1
  have hnames : (ofShape settings shape).parameters.map (fun parameter => Kotlin.strip parameter.name) =
      shape.parameters.map fun parameter => Kotlin.strip parameter.name := by
    simp only [ofShape, List.map_map]
    exact List.map_congr_left hwritten
  rw [← hnames] at hnodup
  have hiff := (ofShape settings shape).hygienic_iff sight hnodup hclass others
  refine hiff.trans (and_congr ?_ (and_congr ?_ ?_))
  · constructor
    · intro h parameter hmem
      have hfree := h _ (List.mem_map_of_mem hmem)
      simp only [Body.Free, hwritten parameter hmem] at hfree
      exact hfree
    · intro h written hmem
      obtain ⟨parameter, hparameter, rfl⟩ := List.mem_map.1 hmem
      simp only [Body.Free, hwritten parameter hparameter]
      exact h parameter hparameter
  · simp only [Body.Free, ofShape, hclass]
    rfl
  · constructor
    · intro h index parameter hparameter hseen
      have hother := h index _ (by simp only [ofShape, List.getElem?_map, hparameter]; rfl) hseen
      rwa [hwritten parameter (List.mem_of_getElem? hparameter)] at hother
    · intro h index written hindex hseen
      simp only [ofShape, List.getElem?_map] at hindex
      obtain ⟨parameter, hparameter, rfl⟩ := Option.map_eq_some_iff.1 hindex
      rw [hwritten parameter (List.mem_of_getElem? hparameter)]
      exact h index parameter hparameter hseen

end Factory

namespace Generator

/-- **When a `create` method means what it says.** For usable settings and a shape that
breaks no rule, the generated file ends with the body whose names are told apart here. With
names of one kind only, they denote what is meant just when no parameter and not the class
has a name that the method declares, and no parameter has the name of the class. With values
apart from types, what is left is that no parameter has the name of the method's value
parameter, and the class not that of its type parameter. -/
theorem create_hygienic_iff (settings : Settings) (shape : Shape) (others : List Binding)
    (hsettings : settings.defect? = none) (hshape : shape.defect? = none) :
    let body := (Factory.ofShape settings shape).body
    let package := ⟨shape.className, .annotatedClass⟩ :: others
    ∃ generator file front, ofSettings settings = .ok generator ∧
      generator.generate shape = .ok file ∧ file.text = Factory.unlines (front ++ body.lines) ∧
      (body.Hygienic package .plain ↔
        (∀ parameter ∈ shape.parameters,
          Kotlin.strip parameter.name ∉ ["T", "modelClass", shape.className]) ∧
        shape.className ∉ ["T", "modelClass"]) ∧
      (body.Hygienic package .kinds ↔
        (∀ parameter ∈ shape.parameters, Kotlin.strip parameter.name ≠ "modelClass") ∧
        shape.className ≠ "T") := by
  intro body package
  obtain ⟨generator, hnew, hgenerate⟩ := exists_generate hsettings hshape
  obtain ⟨front, hfront⟩ := (Factory.ofShape settings shape).source_eq_body
  have hsight := Factory.hygienic_ofShape_iff hshape settings
  rw [hfront] at hgenerate
  refine ⟨generator, _, front, hnew, hgenerate, rfl, (hsight .plain others).trans ?_,
    (hsight .kinds others).trans ?_⟩
  · simp only [Sight.plain, true_imp_iff, List.mem_cons, List.not_mem_nil, or_false, not_or]
    constructor
    · rintro ⟨hmethod, hclass, hfields⟩
      refine ⟨fun parameter hmem => ?_, hclass⟩
      refine ⟨(hmethod parameter hmem).1, (hmethod parameter hmem).2, ?_⟩
      obtain ⟨index, hparameter⟩ := List.mem_iff_getElem?.1 hmem
      exact hfields index parameter hparameter
    · rintro ⟨hparameters, hclass⟩
      refine ⟨fun parameter hmem => ?_, hclass, fun index parameter hparameter => ?_⟩
      · exact ⟨(hparameters parameter hmem).1, (hparameters parameter hmem).2.1⟩
      · exact (hparameters parameter (List.mem_of_getElem? hparameter)).2.2
  · simp only [Sight.kinds, Sight.isValue, Bool.not_false, Bool.not_true, Bool.false_eq_true,
      false_imp_iff, true_imp_iff, true_and, and_true, implies_true]

/-- A class whose parameters have names that the method leaves alone. -/
theorem create_hygienic_of_keyword :
    let settings : Settings := { strategy := .checked }
    let shape : Shape := ⟨"A", "p", "B", [⟨"`in`", "p.T"⟩, ⟨"x", "kotlin.Int"⟩]⟩
    let body := (Factory.ofShape settings shape).body
    settings.defect? = none ∧ shape.defect? = none ∧
      ∃ generator file front, ofSettings settings = .ok generator ∧
        generator.generate shape = .ok file ∧ file.text = Factory.unlines (front ++ body.lines) ∧
        body.Hygienic [⟨"A", .annotatedClass⟩] .plain ∧
        body.Hygienic [⟨"A", .annotatedClass⟩] .kinds := by
  intro settings shape body
  have hsettings : settings.defect? = none := by decide +kernel
  have hshape : shape.defect? = none := by decide +kernel
  obtain ⟨generator, file, front, hnew, hgenerate, htext, hplain, hkinds⟩ :=
    create_hygienic_iff settings shape [] hsettings hshape
  refine ⟨hsettings, hshape, generator, file, front, hnew, hgenerate, htext, hplain.2 ?_,
    hkinds.2 ?_⟩
  · decide
  · decide

/-- A parameter that is accepted, and is passed on as the class that was asked for. -/
theorem create_captures_modelClass :
    let settings : Settings := {}
    let shape : Shape :=
      ⟨"A", "p", "androidx.lifecycle.ViewModel", [⟨"modelClass", "kotlin.Int"⟩]⟩
    let body := (Factory.ofShape settings shape).body
    let package := [⟨"A", .annotatedClass⟩]
    settings.defect? = none ∧ shape.defect? = none ∧
      ∃ generator file front, ofSettings settings = .ok generator ∧
        generator.generate shape = .ok file ∧ file.text = Factory.unlines (front ++ body.lines) ∧
        body.arguments = ["modelClass"] ∧
        body.resolve package Sight.plain.argument "modelClass" = some .valueParameter ∧
        body.resolve package Sight.kinds.argument "modelClass" = some .valueParameter ∧
        ¬ body.Hygienic package .plain ∧ ¬ body.Hygienic package .kinds := by
  intro settings shape body package
  have hsettings : settings.defect? = none := by decide +kernel
  have hshape : shape.defect? = none := by decide +kernel
  obtain ⟨generator, hnew, hgenerate⟩ := exists_generate hsettings hshape
  obtain ⟨front, hfront⟩ := (Factory.ofShape settings shape).source_eq_body
  rw [hfront] at hgenerate
  have hplain : body.resolve package Sight.plain.argument "modelClass" = some .valueParameter := by
    decide
  have hkinds : body.resolve package Sight.kinds.argument "modelClass" = some .valueParameter := by
    decide
  refine ⟨hsettings, hshape, generator, _, front, hnew, hgenerate, rfl, rfl, hplain, hkinds,
    fun h => ?_, fun h => ?_⟩
  · have hfield := h.argument 0 "modelClass" rfl
    rw [hplain] at hfield
    cases hfield
  · have hfield := h.argument 0 "modelClass" rfl
    rw [hkinds] at hfield
    cases hfield

end Generator
end FactoryGen
