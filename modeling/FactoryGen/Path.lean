import FactoryGen.Text.Pieces

/-! Paths as text.

A path is the text a user sees. `push` appends a segment the way a shell user
would: one slash in between, none after a slash that is there already, and an
absolute segment starts over. `parent` and `extension?` look at the components,
which are the pieces between slashes that name something: empty pieces and single
dots name nothing, except a dot in front. -/
namespace FactoryGen.Path

/-- A path that starts from the root. -/
abbrev IsAbsolute (path : String) : Prop := path.toList.head? = some '/'

/-- The path with one more segment. Pushing the empty segment ends it in a slash. -/
def push (path segment : String) : String :=
  if IsAbsolute segment then segment
  else if path = "" ∨ path.toList.getLast? = some '/' then path ++ segment
  else path ++ "/" ++ segment

def ofSegments (segments : List String) : String := segments.foldl push ""

/-- Pieces that name nothing where they stand, at the end of a path. -/
def isIdle (piece : List Char) : Bool := piece == [] || piece == ['.']

/-- The pieces of a path, the last one first, without idle pieces in front. The
first piece of a path stays: it tells whether the path is absolute, and a dot
there is a component. -/
def settle : List (List Char) → List (List Char)
  | [] => []
  | [piece] => [piece]
  | piece :: next :: others =>
    if isIdle piece then settle (next :: others) else piece :: next :: others

/-- The pieces of a path, the last component first. -/
def backwards (path : String) : List (List Char) :=
  settle (Text.pieces '/' path.toList).reverse

/-- The path of some pieces, the last one first. A lone empty piece is the root of
an absolute path, and the start of nothing otherwise. -/
def ofBackwards (absolute : Bool) (parts : List (List Char)) : String :=
  match parts with
  | [[]] => if absolute then "/" else ""
  | parts => String.ofList (Text.join ['/'] parts.reverse)

/-- The path without its last component; nothing for the root and for the empty
path, which have none. -/
def parent? (path : String) : Option String :=
  match backwards path with
  | [] | [[]] => none
  | [_] => some ""
  | _ :: others => some (ofBackwards (IsAbsolute path) (settle others))

/-- The name of the file or directory that a path leads to, unless it ends in a
step that names none. -/
def fileName? (path : String) : Option (List Char) :=
  match backwards path with
  | piece :: _ => if isIdle piece || piece == ['.', '.'] then none else some piece
  | [] => none

/-- What follows the last dot of the file name. A name that starts with its only
dot, or has none, has no extension. -/
def extension? (path : String) : Option (List Char) := do
  let name ← fileName? path
  let after := name.reverse.takeWhile (· != '.')
  match name.reverse.drop (after.length + 1) with
  | [] => none
  | _ => some after.reverse

example : push "com/example" "app" = "com/example/app" ∧ push "a/" "b" = "a/b" := by decide +kernel
example : push "a" "" = "a/" ∧ push "a" "/b" = "/b" ∧ push "" "b" = "b" := by decide +kernel
example : parent? "a//b/./c.kt" = some "a//b" ∧ parent? "./a" = some "." ∧
    parent? "a" = some "" ∧ parent? "/a" = some "/" ∧ parent? "/" = none ∧ parent? "" = none := by
  decide +kernel
example : extension? "d.x/m.json" = some "json".toList ∧ extension? ".json" = none ∧
    extension? "m." = some [] ∧ extension? "d.json/m" = none := by decide +kernel

end FactoryGen.Path
