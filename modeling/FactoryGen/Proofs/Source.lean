import FactoryGen.Generator
import FactoryGen.Proofs.Rendering

/-! The text of a factory.

The built-in template is read once (`builtIn_eq_nodes`), and then rendered node by node
with the members of a factory in view. What comes out is the factory written line by
line (`render_builtIn`): white space around the tags is gone where it has to be, commas
stand between parameters, and no reference leads nowhere. `generate_source` says the
same of the generator. -/
namespace FactoryGen
namespace Template.BuiltIn
open Reference

/-- A part for each parameter, with commas between them. -/
def perParameterNode (part : List Node) : Node :=
  .block .each (member "parameters") []
    (part ++ [.block .absent (mark "last") [] [.text ", "] none]) none

def argumentsNode : Node := perParameterNode [.value (member "name")]

/-- The nodes of the `create` method that compares classes. -/
def checkedNodes : List Node :=
  [.text "    override fun <T : ", .value (member "base_type"),
   .text ("> create(modelClass: java.lang.Class<T>): T \x7b" ++ "\n" ++
     "        require(modelClass.isAssignableFrom("),
   .value (member "class_name"),
   .text ("::class.java)) \x7b" ++ "\n" ++ "            \""),
   .value (member "factory_name"),
   .text (" cannot create $\x7bmodelClass.name\x7d\"" ++ "\n" ++ "        \x7d" ++ "\n" ++
     "        return modelClass.cast("),
   .value (member "class_name"), .text "(", argumentsNode,
   .text ("))" ++ "\n" ++ "    \x7d" ++ "\n")]

/-- The nodes of the `create` method that does not. -/
def uncheckedNodes : List Node :=
  [.text ("    @Suppress(\"UNCHECKED_CAST\")" ++ "\n" ++ "    override fun <T : "),
   .value (member "base_type"),
   .text ("> create(modelClass: java.lang.Class<T>): T \x7b" ++ "\n" ++ "        return "),
   .value (member "class_name"), .text "(", argumentsNode,
   .text (") as T" ++ "\n" ++ "    \x7d" ++ "\n")]

def nodes : List Node :=
  [.text "// ", .value (member "marker"), .text "\n",
   .block .given (member "package_name") []
     [.text "package ", .value (member "package_name"), .text ("\n" ++ "\n")] none,
   .text "class ", .value (member "factory_name"), .text "(",
   perParameterNode [.value (member "name"), .text ": ", .value (member "type_name")],
   .text ") : ", .value (member "factory_interface"), .text (" \x7b" ++ "\n"),
   .block .each (member "parameters") []
     [.text "    val ", .value (member "name"), .text ": ", .value (member "type_name"),
      .text " = ", .value (member "name"), .text "\n"] none,
   .block .given (member "parameters") [] [.text "\n"] none,
   .block .given (member "checked") [] checkedNodes (some uncheckedNodes),
   .text ("\x7d" ++ "\n")]

set_option maxRecDepth 100000 in
/-- The template reads as its nodes: tags alone on their lines have left nothing. -/
theorem builtIn_eq_nodes : builtIn = nodes := by
  rfl

end Template.BuiltIn

namespace Factory
open Template Template.BuiltIn Template.Reference

variable (factory : Factory)

/-! ### Values in view -/

/-- What a factory is as an object. -/
def members : List (String × Json) :=
  [("marker", .text factory.marker),
   ("package_name", .text factory.package),
   ("factory_name", .text factory.name),
   ("class_name", .text factory.className),
   ("factory_interface", .text factory.interface),
   ("base_type", .text factory.baseType),
   ("parameters", .list (factory.parameters.map Parameter.toJson)),
   ("checked", .bool factory.checked)]

theorem resolve_top {name : String} {value : Json}
    (h : Json.lookup? name factory.members = some value) :
    (member name).resolve factory.toJson [] = .ok (some value) := by
  rw [← h]
  exact resolve_member rfl (fun _ hmem => absurd hmem List.not_mem_nil) name

theorem renderNodes_top {name value : String} {rest : List Node} {others : List String}
    (h : Json.lookup? name factory.members = some (.text value))
    (hrest : renderNodes factory.toJson [] rest = .ok (String.join others)) :
    renderNodes factory.toJson [] (.value (member name) :: rest) =
      .ok (String.join (value :: others)) :=
  renderNodes_member (factory.resolve_top h) hrest

/-- In a round of a loop, the parameter of the round is in view. -/
theorem renderNodes_part {parameter : Factory.Parameter} {marks : List (String × Json)}
    {name value : String} {rest : List Node} {others : List String}
    (h : Json.lookup? name [("name", .text parameter.name), ("type_name", .text parameter.type)] =
      some (.text value))
    (hrest : renderNodes factory.toJson [⟨parameter.toJson, marks, []⟩] rest =
      .ok (String.join others)) :
    renderNodes factory.toJson [⟨parameter.toJson, marks, []⟩] (.value (member name) :: rest) =
      .ok (String.join (value :: others)) := by
  refine renderNodes_member ?_ hrest
  rw [← h]
  refine resolve_member rfl (fun frame hmem => ?_) name
  rw [List.mem_singleton.1 hmem]

/-! ### Parameters -/

theorem renderNode_perParameter {part : List Node} {text : Factory.Parameter → String}
    (hpart : ∀ parameter marks, renderNodes factory.toJson
      [⟨Parameter.toJson parameter, marks, []⟩] part = .ok (text parameter)) :
    renderNode factory.toJson [] (perParameterNode part) =
      .ok (", ".intercalate (factory.parameters.map text)) := by
  rw [← join_rounds_separated]
  apply renderNode_each factory.parameters (factory.resolve_top rfl)
  intro parameter marks last hlast
  apply renderNodes_append (hpart parameter marks)
  have hmark : (mark "last").resolve factory.toJson [⟨parameter.toJson, marks, []⟩] =
      .ok (some (.bool last)) := by
    rw [resolve_mark, hlast]
  exact renderNodes_singleton (renderNode_absent hmark (renderNodes_singleton rfl))

theorem renderNode_signature :
    renderNode factory.toJson []
        (perParameterNode [.value (member "name"), .text ": ", .value (member "type_name")]) =
      .ok factory.signature := by
  apply factory.renderNode_perParameter
  intro parameter marks
  have htexts : parameter.name ++ ": " ++ parameter.type =
      String.join [parameter.name, ": ", parameter.type] := by
    simp only [String.join_cons, String.join_nil, String.append_empty, String.append_assoc]
  rw [htexts]
  refine factory.renderNodes_part rfl ?_
  refine renderNodes_text ?_
  exact factory.renderNodes_part rfl renderNodes_nil

theorem renderNode_arguments :
    renderNode factory.toJson [] argumentsNode = .ok factory.arguments := by
  apply factory.renderNode_perParameter
  intro parameter marks
  rw [← join_singleton parameter.name]
  exact factory.renderNodes_part rfl renderNodes_nil

theorem renderNode_fields :
    renderNode factory.toJson [] (.block .each (member "parameters") []
      [.text "    val ", .value (member "name"), .text ": ", .value (member "type_name"),
       .text " = ", .value (member "name"), .text "\n"] none) =
      .ok (String.join (factory.parameters.map fun parameter => String.join
        ["    val ", parameter.name, ": ", parameter.type, " = ", parameter.name, "\n"])) := by
  rw [← join_rounds]
  apply renderNode_each factory.parameters (factory.resolve_top rfl)
  intro parameter marks _ _
  refine renderNodes_text ?_
  refine factory.renderNodes_part rfl ?_
  refine renderNodes_text ?_
  refine factory.renderNodes_part rfl ?_
  refine renderNodes_text ?_
  refine factory.renderNodes_part rfl ?_
  exact renderNodes_text renderNodes_nil

/-! ### The file -/

def unlines (lines : List String) : String := String.join (lines.map (· ++ "\n"))

theorem unlines_nil : unlines [] = "" := String.join_nil

theorem unlines_cons (line : String) (lines : List String) :
    unlines (line :: lines) = line ++ ("\n" ++ unlines lines) := by
  simp only [unlines, List.map_cons, String.join_cons, String.append_assoc]

theorem unlines_append (front back : List String) :
    unlines (front ++ back) = unlines front ++ unlines back := by
  simp only [unlines, List.map_append, String.join_append]

theorem createLine_eq :
    factory.createLine = "    override fun <T : " ++ factory.baseType ++
      "> create(modelClass: java.lang.Class<T>): T \x7b" := rfl

theorem renderNodes_checked (h : factory.checked = true) :
    renderNodes factory.toJson [] checkedNodes = .ok (unlines factory.createLines) := by
  have htexts : unlines factory.createLines = String.join
      ["    override fun <T : ", factory.baseType,
       "> create(modelClass: java.lang.Class<T>): T \x7b" ++ "\n" ++
         "        require(modelClass.isAssignableFrom(",
       factory.className, "::class.java)) \x7b" ++ "\n" ++ "            \"", factory.name,
       " cannot create $\x7bmodelClass.name\x7d\"" ++ "\n" ++ "        \x7d" ++ "\n" ++
         "        return modelClass.cast(",
       factory.className, "(", factory.arguments, "))" ++ "\n" ++ "    \x7d" ++ "\n"] := by
    simp only [createLines, h, if_true, createLine_eq, unlines_cons, unlines_nil, String.join_cons,
      String.join_nil, String.append_assoc]
  rw [htexts]
  refine renderNodes_text ?_
  refine factory.renderNodes_top rfl ?_
  refine renderNodes_text ?_
  refine factory.renderNodes_top rfl ?_
  refine renderNodes_text ?_
  refine factory.renderNodes_top rfl ?_
  refine renderNodes_text ?_
  refine factory.renderNodes_top rfl ?_
  refine renderNodes_text ?_
  refine renderNodes_cons factory.renderNode_arguments ?_
  exact renderNodes_text renderNodes_nil

theorem renderNodes_unchecked (h : factory.checked = false) :
    renderNodes factory.toJson [] uncheckedNodes = .ok (unlines factory.createLines) := by
  have htexts : unlines factory.createLines = String.join
      ["    @Suppress(\"UNCHECKED_CAST\")" ++ "\n" ++ "    override fun <T : ",
       factory.baseType,
       "> create(modelClass: java.lang.Class<T>): T \x7b" ++ "\n" ++ "        return ",
       factory.className, "(", factory.arguments, ") as T" ++ "\n" ++ "    \x7d" ++ "\n"] := by
    simp only [createLines, h, Bool.false_eq_true, if_false, createLine_eq, unlines_cons, unlines_nil,
      String.join_cons, String.join_nil, String.append_assoc]
  rw [htexts]
  refine renderNodes_text ?_
  refine factory.renderNodes_top rfl ?_
  refine renderNodes_text ?_
  refine factory.renderNodes_top rfl ?_
  refine renderNodes_text ?_
  refine renderNodes_cons factory.renderNode_arguments ?_
  exact renderNodes_text renderNodes_nil

theorem renderNode_create :
    renderNode factory.toJson []
        (.block .given (member "checked") [] checkedNodes (some uncheckedNodes)) =
      .ok (unlines factory.createLines) :=
  renderNode_given (factory.resolve_top rfl) factory.renderNodes_checked
    factory.renderNodes_unchecked

/-- The package has its line and an empty one, unless there is no package. -/
theorem renderNode_package :
    renderNode factory.toJson [] (.block .given (member "package_name") []
      [.text "package ", .value (member "package_name"), .text ("\n" ++ "\n")] none) =
      .ok (unlines (if factory.package = "" then [] else ["package " ++ factory.package, ""])) := by
  refine renderNode_given (factory.resolve_top rfl) (fun htruthy => ?_) (fun htruthy => ?_)
  · have hpackage : factory.package ≠ "" := bne_iff_ne.1 htruthy
    have htexts : unlines (if factory.package = "" then [] else ["package " ++ factory.package, ""]) =
        String.join ["package ", factory.package, "\n" ++ "\n"] := by
      simp only [hpackage, if_false, unlines_cons, unlines_nil, String.join_cons, String.join_nil,
        String.append_assoc, String.empty_append]
    rw [htexts]
    refine renderNodes_text ?_
    refine factory.renderNodes_top rfl ?_
    exact renderNodes_text renderNodes_nil
  · have hpackage : factory.package = "" := by
      simpa only [Json.isTruthy, bne_eq_false_iff_eq] using htruthy
    rw [if_pos hpackage, unlines_nil]
    rfl

/-- An empty line stands behind the fields, if there are any. -/
theorem renderNode_gap :
    renderNode factory.toJson [] (.block .given (member "parameters") [] [.text "\n"] none) =
      .ok (unlines (if factory.parameters.isEmpty then [] else [""])) := by
  refine renderNode_given (factory.resolve_top rfl) (fun htruthy => ?_) (fun htruthy => ?_)
  · have hempty : factory.parameters.isEmpty = false := by
      simpa only [Json.isTruthy, List.isEmpty_map, Bool.not_eq_true'] using htruthy
    have htexts : unlines (if factory.parameters.isEmpty then [] else [""]) =
        String.join ["\n"] := by
      simp only [hempty, Bool.false_eq_true, if_false, unlines_cons, unlines_nil, String.join_cons,
        String.join_nil, String.empty_append]
    rw [htexts]
    exact renderNodes_text renderNodes_nil
  · have hempty : factory.parameters.isEmpty = true := by
      simpa only [Json.isTruthy, List.isEmpty_map, Bool.not_eq_false'] using htruthy
    rw [if_pos hempty, unlines_nil]
    rfl

/-- **The built-in template writes a factory line by line.** -/
theorem render_builtIn : builtIn.render factory.toJson = .ok factory.source := by
  have htexts : factory.source = String.join
      ["// ", factory.marker, "\n",
       unlines (if factory.package = "" then [] else ["package " ++ factory.package, ""]),
       "class ", factory.name, "(", factory.signature, ") : ", factory.interface,
       " \x7b" ++ "\n",
       String.join (factory.parameters.map fun parameter => String.join
        ["    val ", parameter.name, ": ", parameter.type, " = ", parameter.name, "\n"]),
       unlines (if factory.parameters.isEmpty then [] else [""]),
       unlines factory.createLines, "\x7d" ++ "\n"] := by
    show unlines factory.lines = _
    have hfields : unlines (factory.parameters.map fun parameter =>
        "    val " ++ parameter.name ++ ": " ++ parameter.type ++ " = " ++ parameter.name) =
        String.join (factory.parameters.map fun parameter => String.join
          ["    val ", parameter.name, ": ", parameter.type, " = ", parameter.name, "\n"]) := by
      simp only [unlines, List.map_map, Function.comp_def, String.join_cons, String.join_nil,
        String.append_assoc, String.append_empty]
    simp only [lines, unlines_append, hfields]
    simp only [unlines_cons, unlines_nil, String.join_cons, String.join_nil, String.append_assoc,
      String.empty_append]
  rw [builtIn_eq_nodes, htexts]
  refine renderNodes_text ?_
  refine factory.renderNodes_top rfl ?_
  refine renderNodes_text ?_
  refine renderNodes_cons factory.renderNode_package ?_
  refine renderNodes_text ?_
  refine factory.renderNodes_top rfl ?_
  refine renderNodes_text ?_
  refine renderNodes_cons factory.renderNode_signature ?_
  refine renderNodes_text ?_
  refine factory.renderNodes_top rfl ?_
  refine renderNodes_text ?_
  refine renderNodes_cons factory.renderNode_fields ?_
  refine renderNodes_cons factory.renderNode_gap ?_
  refine renderNodes_cons factory.renderNode_create ?_
  exact renderNodes_text renderNodes_nil

end Factory

namespace Generator

/-- Usable settings make a generator with the built-in template. -/
theorem ofSettings_of_sound {settings : Settings} (hsettings : settings.defect? = none)
    (library : Library) : ofSettings settings library = .ok ⟨settings, library, hsettings⟩ := by
  unfold ofSettings
  split
  · rfl
  · next defect hdefect =>
    rw [hsettings] at hdefect
    cases hdefect

/-- With the built-in template, every shape is rendered as its factory written out. -/
theorem render_standard (generator : Generator) (hlibrary : generator.library = Library.standard)
    (shape : Shape) :
    generator.render shape =
      .ok ⟨shape.factoryName, shape.package,
        (Factory.ofShape generator.settings shape).source⟩ := by
  have hfind : generator.library.find? Library.factoryName = some Template.builtIn.render := by
    simp only [hlibrary, Library.find?, Library.standard, List.find?_cons, beq_self_eq_true,
      Option.map_some]
  have htext : generator.library.render Library.factoryName
      (Factory.ofShape generator.settings shape).toJson =
      .ok (Factory.ofShape generator.settings shape).source := by
    simp only [Library.render, hfind, Factory.render_builtIn]
    rfl
  rw [render_eq, htext]
  rfl

/-- Usable settings and a shape that breaks no rule give a file, whose text is the
factory written out. -/
theorem exists_generate {settings : Settings} {shape : Shape} (hsettings : settings.defect? = none)
    (hshape : shape.defect? = none) :
    ∃ generator, ofSettings settings = .ok generator ∧
      generator.generate shape =
        .ok ⟨shape.factoryName, shape.package, (Factory.ofShape settings shape).source⟩ := by
  refine ⟨⟨settings, Library.standard, hsettings⟩, ofSettings_of_sound hsettings _, ?_⟩
  rw [generate_of_sound _ hshape]
  exact render_standard _ rfl shape

end Generator
end FactoryGen
