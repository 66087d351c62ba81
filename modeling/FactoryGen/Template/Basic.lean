import FactoryGen.Json.Basic

/-! Templates: text with places that values are filled into.

A template is a list of nodes. References name the values; a block shows its body
once, several times or not at all, which depends on its helper and on the value
of its subject, and may have an alternative for the case that there is nothing to
show. -/
namespace FactoryGen.Template

/-- Where a reference starts. -/
inductive Origin where
  /-- At the value in view, or the one that was in view some levels further out. -/
  | view (up : Nat)
  /-- At the value that the whole template is rendered with. -/
  | root
  /-- At the marks of the loop some levels further out. -/
  | loop (up : Nat)
deriving DecidableEq, Repr, Inhabited

/-- A way to a value. -/
structure Reference where
  /-- The reference as the template has it, for messages. -/
  written : String
  origin : Origin
  /-- The names of the steps from there. -/
  names : List String
deriving DecidableEq, Repr, Inhabited

/-- The helpers that open blocks. -/
inductive Helper where
  /-- Shows the body if the subject counts as something. -/
  | given
  /-- Shows the body if it does not. -/
  | absent
  /-- Shows the body for each part of the subject. -/
  | each
  /-- Shows the body with the subject in view. -/
  | within
deriving DecidableEq, Repr, Inhabited

namespace Helper

def name : Helper → String
  | .given => "if"
  | .absent => "unless"
  | .each => "each"
  | .within => "with"

def all : List Helper := [.given, .absent, .each, .within]

def named? (name : String) : Option Helper := all.find? (·.name == name)

end Helper

/-- A part of a template. -/
inductive Node where
  /-- Text as it is. -/
  | text (text : String)
  /-- The value that a reference leads to. -/
  | value (reference : Reference)
  /-- The body, which has names for the parts of the subject, or the alternative. -/
  | block (helper : Helper) (subject : Reference) (names : List String)
      (body : List Node) (alternative : Option (List Node))
  /-- A call that cannot succeed: there is no such helper, or it lacks its
  subject. -/
  | call (helper : String)
deriving Repr, Inhabited

end FactoryGen.Template

/-- A template is the list of its parts. -/
abbrev FactoryGen.Template := List FactoryGen.Template.Node
