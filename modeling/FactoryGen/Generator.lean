import FactoryGen.Factory
import FactoryGen.SourceFile
import FactoryGen.Template.Library

/-! The generator: settings that can be used, together with the templates.

`generate` writes the factory for a shape that someone made up, so it checks the
shape first; `render` is for shapes that came through the gate. -/
namespace FactoryGen

/-- What it takes to write factories. -/
structure Generator where
  settings : Settings
  library : Library
  /-- The settings break no rule. -/
  usable : settings.defect? = none

namespace Generator

/-- The generator with some settings and templates. -/
def ofSettings (settings : Settings) (library : Library := Library.standard) :
    Except Problem Generator :=
  match usable : settings.defect? with
  | none => .ok ⟨settings, library, usable⟩
  | some defect => .error (.configuration defect.message)

/-- The factory for a class, written out. -/
def render (generator : Generator) (shape : Shape) : Except Problem SourceFile := do
  let factory := Factory.ofShape generator.settings shape
  let text ← generator.library.render Library.factoryName factory.toJson
  return ⟨shape.factoryName, shape.package, text⟩

/-- The factory for a class that may break rules. -/
def generate (generator : Generator) (shape : Shape) : Except Problem SourceFile := do
  shape.check
  generator.render shape

/-- Rendering a shape is rendering its factory; the file has the name of the one and the
package of the other. -/
theorem render_eq (generator : Generator) (shape : Shape) :
    generator.render shape =
      (generator.library.render Library.factoryName
        (Factory.ofShape generator.settings shape).toJson).map
          fun text => ⟨shape.factoryName, shape.package, text⟩ := by
  simp only [render, bind, Except.bind, pure, Except.pure]
  cases generator.library.render Library.factoryName
    (Factory.ofShape generator.settings shape).toJson <;> rfl

/-- A shape that breaks no rule is generated as it is rendered. -/
theorem generate_of_sound (generator : Generator) {shape : Shape} (h : shape.defect? = none) :
    generator.generate shape = generator.render shape := by
  have hcheck : shape.check = .ok () := by simp only [Shape.check, h]
  simp only [generate, hcheck, bind, Except.bind]

end Generator
end FactoryGen
