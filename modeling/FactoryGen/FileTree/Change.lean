import FactoryGen.FileTree.Basic
import FactoryGen.Path

/-! Changing file trees.

A single change is made or refused. Making a directory together with those above
it takes several changes, so it may be refused half way; the tree that comes with
the answer has what was made until then. -/
namespace FactoryGen.FileTree

/-- The tree with a directory where a path leads, which must be vacant. -/
def makeDirectory (tree : FileTree) (path : String) : Except Refusal FileTree :=
  match tree.locate path with
  | .error refusal => .error refusal
  | .ok (.vacant location _) => .ok (tree.put location .directory)
  | .ok _ => .error .exists

/-- The tree with a content in the file that a path leads to. -/
def writeFile (tree : FileTree) (path : String) (content : Content) : Except Refusal FileTree :=
  match tree.locate path with
  | .error refusal => .error refusal
  | .ok (.directory _) => .error .isADirectory
  | .ok (.vacant location slashed) =>
    if slashed then .error .isADirectory else .ok (tree.put location (.file content))
  | .ok (.file location _) => .ok (tree.put location (.file content))

/-- A path and those above it, as long as they name something. Each is shorter than
the one before. -/
def ancestors : Nat → String → List String
  | 0, _ => []
  | fuel + 1, path =>
    if path = "" then []
    else
      match Path.parent? path with
      | none => []
      | some parent => path :: ancestors fuel parent

/-- A directory in the place of a refusal that only says that it is there. -/
def orDirectory (tree : FileTree) (path : String) (made : Except Refusal FileTree) :
    FileTree × Except Refusal Unit :=
  match made with
  | .ok tree => (tree, .ok ())
  | .error refusal =>
    if refusal = .exists ∧ tree.isDirectory path then (tree, .ok ()) else (tree, .error refusal)

/-- Makes the first of some paths a directory. If there is nothing to put it into, the
others are made first. -/
def makeChain (tree : FileTree) : List String → FileTree × Except Refusal Unit
  | [] => (tree, .ok ())
  | path :: above =>
    match tree.makeDirectory path with
    | .error .notFound =>
      match makeChain tree above with
      | (tree, .error refusal) => (tree, .error refusal)
      | (tree, .ok ()) => tree.orDirectory path (tree.makeDirectory path)
    | made => tree.orDirectory path made

/-- Makes a path a directory, together with those above it. -/
def makeDirectories (tree : FileTree) (path : String) : FileTree × Except Refusal Unit :=
  tree.makeChain (ancestors (path.length + 1) path)

end FactoryGen.FileTree
