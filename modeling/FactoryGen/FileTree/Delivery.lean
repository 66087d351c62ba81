import FactoryGen.FileTree.Change
import FactoryGen.Problem
import FactoryGen.SourceFile

/-! Delivering source files into a file tree: one after the other, each together with
the directories it needs. The first refusal ends it, and what was delivered before
stays. -/
namespace FactoryGen

/-- Where a source file goes below a directory. -/
def SourceFile.pathIn (file : SourceFile) (directory : String) : String :=
  Path.push directory file.path

namespace FileTree

/-- Makes the directory that a path needs, if it needs one. -/
def makeRoom (tree : FileTree) (path : String) : FileTree × Except Problem Unit :=
  match Path.parent? path with
  | none => (tree, .ok ())
  | some parent =>
    match tree.makeDirectories parent with
    | (tree, .error refusal) => (tree, .error (.input parent refusal.message))
    | (tree, .ok ()) => (tree, .ok ())

/-- Delivers a file, and tells where it went. -/
def deliver (tree : FileTree) (directory : String) (file : SourceFile) :
    FileTree × Except Problem String :=
  let path := file.pathIn directory
  match tree.makeRoom path with
  | (tree, .error problem) => (tree, .error problem)
  | (tree, .ok ()) =>
    match tree.writeFile path (.text file.text) with
    | .error refusal => (tree, .error (.input path refusal.message))
    | .ok tree => (tree, .ok path)

/-- Delivers some files, and tells where they went. -/
def deliverAll (tree : FileTree) (directory : String) :
    List SourceFile → FileTree × Except Problem (List String)
  | [] => (tree, .ok [])
  | file :: rest =>
    match tree.deliver directory file with
    | (tree, .error problem) => (tree, .error problem)
    | (tree, .ok path) =>
      match deliverAll tree directory rest with
      | (tree, .error problem) => (tree, .error problem)
      | (tree, .ok paths) => (tree, .ok (path :: paths))

section
-- A delivery is a step here: without this, Lean computes with paths to unfold the run.
attribute [local irreducible] deliver

theorem deliverAll_cons (tree : FileTree) (directory : String) (file : SourceFile)
    (rest : List SourceFile) :
    tree.deliverAll directory (file :: rest) =
      match tree.deliver directory file with
      | (tree, .error problem) => (tree, .error problem)
      | (tree, .ok path) =>
        match deliverAll tree directory rest with
        | (tree, .error problem) => (tree, .error problem)
        | (tree, .ok paths) => (tree, .ok (path :: paths)) := rfl

end

end FileTree
end FactoryGen
