import FactoryGen.Path

/-! File trees.

A file tree is what stands below the root: directories and files. A location lists
names from the innermost outwards, so that the parent of a location is its tail, and
the root is the empty location. The tree comes with a working directory, which is
where a path starts that is not absolute.

Paths are walked piece by piece, as an operating system does it: what a path
passes through has to be a directory, and a name has at most 255 bytes. The root is
its own parent. -/
namespace FactoryGen

/-- What a file holds: a text, or bytes that are none. -/
inductive Content where
  | text (text : String)
  | bytes (bytes : ByteArray)
deriving Inhabited

instance : DecidableEq Content
  | .text a, .text b => decidable_of_decidable_of_iff (p := a = b) (by rw [Content.text.injEq])
  | .bytes a, .bytes b =>
    decidable_of_decidable_of_iff (p := a.data = b.data)
      (by rw [Content.bytes.injEq, ByteArray.ext_iff])
  | .text _, .bytes _ => isFalse nofun
  | .bytes _, .text _ => isFalse nofun

def Content.ofBytes (bytes : ByteArray) : Content :=
  match String.fromUTF8? bytes with
  | some value => .text value
  | none => .bytes bytes

/-- What can be found in a file tree. -/
inductive Entry where
  | directory
  | file (content : Content)
deriving DecidableEq, Inhabited

/-- Names from the innermost outwards. -/
abbrev Location := List String

/-- Directories and files at their locations, and the working directory. -/
structure FileTree where
  entries : List (Location × Entry) := []
  workplace : Location := []
deriving DecidableEq, Inhabited

/-- Why something cannot be done to a file tree. -/
inductive Refusal where
  | notFound
  | exists
  | notADirectory
  | isADirectory
  | nameTooLong
  | notText
  | nulInPath
deriving DecidableEq, Repr

def Refusal.message : Refusal → String
  | .notFound => "No such file or directory (os error 2)"
  | .exists => "File exists (os error 17)"
  | .notADirectory => "Not a directory (os error 20)"
  | .isADirectory => "Is a directory (os error 21)"
  | .nameTooLong => "File name too long (os error 36)"
  | .notText => "stream did not contain valid UTF-8"
  | .nulInPath => "file name contained an unexpected NUL byte"

namespace FileTree

/-- The greatest number of bytes in a name. -/
def nameLimit : Nat := 255

/-- What stands at a location below the root. -/
def lookup (location : Location) : List (Location × Entry) → Option Entry
  | [] => none
  | (l, entry) :: rest => if l = location then some entry else lookup location rest

def find? (tree : FileTree) : Location → Option Entry
  | [] => some .directory
  | location => lookup location tree.entries

/-- Entries with one of them changed, or one more at the end. -/
def set (location : Location) (entry : Entry) :
    List (Location × Entry) → List (Location × Entry)
  | [] => [(location, entry)]
  | (l, e) :: rest => if l = location then (l, entry) :: rest else (l, e) :: set location entry rest

/-- The tree with something at a location. -/
def put (tree : FileTree) (location : Location) (entry : Entry) : FileTree :=
  { tree with entries := set location entry tree.entries }

theorem lookup_set (location other : Location) (entry : Entry)
    (entries : List (Location × Entry)) :
    lookup other (set location entry entries) =
      if location = other then some entry else lookup other entries := by
  induction entries with
  | nil => rfl
  | cons first rest ih =>
    obtain ⟨l, e⟩ := first
    by_cases h : l = location
    · subst h
      by_cases ho : l = other <;> simp [set, lookup, ho]
    · by_cases ho : l = other
      · subst ho
        have hs : ¬location = l := fun e => h e.symm
        simp [set, lookup, h, hs]
      · simp [set, lookup, h, ho, ih]

/-- Putting something at a location changes that location and no other. -/
theorem find?_put (tree : FileTree) (location other : Location) (entry : Entry)
    (h : other ≠ []) :
    (tree.put location entry).find? other =
      if location = other then some entry else tree.find? other := by
  cases other with
  | nil => exact absurd rfl h
  | cons name parent => exact lookup_set location (name :: parent) entry tree.entries

/-- Where a path leads. -/
inductive Target where
  | directory (location : Location)
  | file (location : Location) (content : Content)
  /-- There is nothing yet, but its parent is a directory. `slashed` tells whether the
  path ends in a slash. -/
  | vacant (location : Location) (slashed : Bool)
deriving DecidableEq

/-- Where some pieces of a path lead from a directory. -/
def walk (tree : FileTree) : Location → List String → Except Refusal Target
  | here, [] => .ok (.directory here)
  | here, piece :: rest =>
    if piece = "" ∨ piece = "." then walk tree here rest
    else if piece = ".." then walk tree here.tail rest
    else if nameLimit < piece.utf8ByteSize then .error .nameTooLong
    else
      match tree.find? (piece :: here) with
      | some .directory => walk tree (piece :: here) rest
      | some (.file content) =>
        if rest.isEmpty then .ok (.file (piece :: here) content) else .error .notADirectory
      | none =>
        if rest.all (· = "") then .ok (.vacant (piece :: here) (!rest.isEmpty))
        else .error .notFound

section
variable {tree : FileTree} {here : Location} {piece : String} {rest : List String}

theorem walk_idle (h : piece = "" ∨ piece = ".") :
    tree.walk here (piece :: rest) = tree.walk here rest := by
  rw [walk.eq_def]
  exact if_pos h

theorem walk_up : tree.walk here (".." :: rest) = tree.walk here.tail rest := by
  rw [walk.eq_def]
  rfl

/-- A name leads to what has that name. -/
theorem walk_name (hidle : ¬(piece = "" ∨ piece = ".")) (hup : piece ≠ "..") :
    tree.walk here (piece :: rest) =
      if nameLimit < piece.utf8ByteSize then .error .nameTooLong
      else
        match tree.find? (piece :: here) with
        | some .directory => tree.walk (piece :: here) rest
        | some (.file content) =>
          if rest.isEmpty then .ok (.file (piece :: here) content) else .error .notADirectory
        | none =>
          if rest.all (· = "") then .ok (.vacant (piece :: here) (!rest.isEmpty))
          else .error .notFound := by
  rw [walk.eq_def]
  simp only [hidle, hup, if_false]

end

def pieces (path : String) : List String := (Text.pieces '/' path.toList).map String.ofList

/-- Where the walk along a path starts. -/
def origin (tree : FileTree) (path : String) : Location :=
  if Path.IsAbsolute path then [] else tree.workplace

/-- Where a path leads. -/
def locate (tree : FileTree) (path : String) : Except Refusal Target :=
  if path.toList.contains '\x00' then .error .nulInPath
  else if path = "" then .error .notFound
  else tree.walk (tree.origin path) (pieces path)

def isDirectory (tree : FileTree) (path : String) : Bool :=
  match tree.locate path with
  | .ok (.directory _) => true
  | _ => false

/-- The text of the file that a path leads to. -/
def readText (tree : FileTree) (path : String) : Except Refusal String :=
  match tree.locate path with
  | .error refusal => .error refusal
  | .ok (.directory _) => .error .isADirectory
  | .ok (.vacant ..) => .error .notFound
  | .ok (.file _ (.text text)) => .ok text
  | .ok (.file _ (.bytes _)) => .error .notText

/-- What reading a path gives: the text, or the wording of the refusal. -/
def reading (tree : FileTree) (path : String) : Except String String :=
  (tree.readText path).mapError Refusal.message

end FileTree
end FactoryGen
