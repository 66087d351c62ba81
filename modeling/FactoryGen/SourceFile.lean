import FactoryGen.Document.Decoding
import FactoryGen.Kotlin.Package
import FactoryGen.Path

/-! Generated source files: a name, a package, and a text. Where a file belongs
follows from the first two: one directory per segment of the package, and the name
with the extension of Kotlin sources. -/
namespace FactoryGen

structure SourceFile where
  /-- The name, without extension. -/
  name : String
  package : String
  text : String
deriving DecidableEq, Repr, Inhabited

namespace SourceFile

def extension : String := "kt"

/-- The directory of a package, below the root of the sources. -/
def directory (package : String) : String := Path.ofSegments (Kotlin.packageSegments package)

/-- The path of a file, below the root of the sources. -/
def path (file : SourceFile) : String :=
  Path.push (directory file.package) (file.name ++ "." ++ extension)

def toJson (file : SourceFile) : Json :=
  .object
    [("file_name", .text file.name),
     ("package_name", .text file.package),
     ("source_text", .text file.text)]

/-- A file in a document. Every field is required. -/
def record : Record SourceFile where
  type := "GeneratedFileDescriptor"
  blank := ⟨"", "", ""⟩
  fields :=
    [.of "file_name" true Decoder.text fun name file => { file with name },
     .of "package_name" true Decoder.text fun package file => { file with package },
     .of "source_text" true Decoder.text fun text file => { file with text }]

end SourceFile
end FactoryGen
