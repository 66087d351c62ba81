import FactoryGen.FileTree.Basic
import FactoryGen.Manifest
import FactoryGen.Path
import FactoryGen.Report

/-! Loading a manifest and processing its symbols, which every run begins with. -/
namespace FactoryGen

namespace Manifest

/-- The format of the manifest at a path: JSON if the extension says so, in whatever
case, and TOML otherwise. -/
def formatAt (path : String) : Format :=
  if (Path.extension? path).map (·.map Char.toLower) = some ['j', 's', 'o', 'n'] then .json
  else .toml

/-- The manifest at a path, given what reading the path gave. -/
def ofReading (path : String) (reading : Except String String) : Except Problem Manifest :=
  match reading with
  | .error refusal => .error (.input path refusal)
  | .ok text => Manifest.read (formatAt path) text

def load (tree : FileTree) (path : String) : Except Problem Manifest :=
  ofReading path (tree.reading path)

end Manifest

namespace Run

/-- A manifest and the report on its symbols. -/
structure Processed where
  manifest : Manifest
  report : Report
deriving Inhabited

/-- Processes the manifest at a path, given what reading the path gave. -/
def process (path : String) (reading : Except String String) : Except Failure Processed :=
  match Manifest.ofReading path reading with
  | .error problem => .error ⟨["failed to load manifest " ++ path], problem⟩
  | .ok manifest =>
    match Generator.ofSettings manifest.settings with
    | .error problem => .error ⟨["failed to initialize factory generator"], problem⟩
    | .ok generator => .ok ⟨manifest, generator.report manifest.symbols⟩

end Run
end FactoryGen
