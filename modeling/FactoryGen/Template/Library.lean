import FactoryGen.Problem
import FactoryGen.Template.BuiltIn
import FactoryGen.Template.Rendering

/-! Templates by name. The template of factories is always among them; another one
may take its name.

A library holds templates as the functions that fill values into them. How a template
is written matters to `register` alone, which reads it. -/
namespace FactoryGen

/-- Renderings with the names of their templates, of two with one name the first counts. -/
structure Library where
  renderings : List (String × Template.Rendering)
deriving Inhabited

namespace Library
variable (library : Library) (name : String)

/-- The name of the template of factories. -/
def factoryName : String := "factory/kotlin"

/-- The library that is there from the start. -/
def standard : Library := ⟨[(factoryName, Template.builtIn.render)]⟩

def find? : Option Template.Rendering :=
  (library.renderings.find? (·.1 == name)).map (·.2)

def has : Bool := (library.find? name).isSome

/-- The library with a rendering under a name, in place of the one that had it. -/
def insert (rendering : Template.Rendering) : Library :=
  ⟨(name, rendering) :: library.renderings⟩

/-- The library with the template that a text stands for. -/
def register (text : String) : Except Problem Library :=
  match Template.read text with
  | some template => .ok (library.insert name template.render)
  | none =>
    .error (.template ("Failed to register template '" ++ name ++ "': <parse>") (some "<parse>"))

/-- The problem of a rendering that came to nothing. -/
def failure (detail : String) : Problem :=
  .template ("Template rendering failed: " ++ detail) (some detail)

/-- The text of the template with a name, with a value filled in. -/
def render (value : Json) : Except Problem String :=
  match library.find? name with
  | none => .error (failure ("Template not found " ++ name))
  | some rendering => (rendering value).mapError fun fault => failure fault.message

end Library
end FactoryGen
