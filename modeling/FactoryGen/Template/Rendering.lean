import FactoryGen.Template.Basic
import FactoryGen.Text.Quoted

/-! Rendering templates.

Rendering is strict: a reference to a value that is not there is a fault. What a
block does is decided by `Helper.plan` from its subject alone; `render` carries
the plan out. The values that are in view are kept in frames, the innermost
first; only blocks that put a value in view open one. -/
namespace FactoryGen.Template

/-- Why a template cannot be rendered. -/
inductive Fault where
  /-- There is no value where a reference leads. -/
  | missingValue (written : String)
  /-- A step into a list is no index. -/
  | badIndex (name : String)
  /-- There is no such helper, or it lacks its subject. -/
  | badCall (helper : String)
deriving DecidableEq, Repr

/-- The wording of a fault. Only missing values are told apart. -/
def Fault.message : Fault → String
  | .missingValue written =>
    "Failed to access variable in strict mode Some(" ++ Text.quoted written ++ ")"
  | _ => "<render>"

/-- What a block has put in view. -/
structure Frame where
  value : Json
  /-- The marks of a loop, such as the index. -/
  marks : List (String × Json) := []
  /-- The values that the block has given names to. -/
  named : List (String × Json) := []
deriving Repr, Inhabited

/-- The index that a name stands for. -/
def index? (name : String) : Option Nat :=
  let digits := match name.toList with
    | '+' :: rest => rest
    | input => input
  if digits.isEmpty || !digits.all Char.isDigit then none
  else
    let index := digits.foldl (fun n c => n * 10 + (c.toNat - 48)) 0
    if index < Nat.pow 2 64 then some index else none

/-- The value that some steps lead to, if there is one. -/
def follow : Json → List String → Except Fault (Option Json)
  | value, [] => .ok (some value)
  | .list items, name :: rest =>
    match index? name with
    | none => .error (.badIndex name)
    | some index =>
      match items[index]? with
      | some item => follow item rest
      | none => .ok none
  | .object members, name :: rest =>
    match Json.lookup? name members with
    | some value => follow value rest
    | none => .ok none
  | _, _ :: _ => .ok none

/-- The value in view some levels further out. Whoever goes out too far is where
they started. -/
def inView (root : Json) (frames : List Frame) (up : Nat) : Json :=
  let levels := frames.map (·.value) ++ [root]
  (levels[up]?).getD (levels.headD root)

/-- The value that a reference leads to, if there is one. Names that blocks have
given come before the members of the value in view. -/
def Reference.resolve (root : Json) (frames : List Frame) (reference : Reference) :
    Except Fault (Option Json) :=
  match reference.origin, reference.names with
  | .loop up, name :: _ =>
    .ok ((frames[up]?).bind fun frame => Json.lookup? name frame.marks)
  | .loop _, [] => .ok none
  | .root, names => follow root names
  | .view up, [] => follow (inView root frames up) []
  | .view up, name :: rest =>
    match frames.findSome? fun frame => Json.lookup? name frame.named with
    | some value => follow value rest
    | none => follow (inView root frames up) (name :: rest)

mutual

/-- A value inside text. -/
def shown : Json → String
  | .null => ""
  | .bool value => if value then "true" else "false"
  | .number value => value.text
  | .text value => value
  | .list items => "[" ++ ", ".intercalate (shownItems items) ++ "]"
  | .object _ => "[object]"

def shownItems : List Json → List String
  | [] => []
  | item :: rest => shown item :: shownItems rest

end

/-- What a block does. -/
inductive Plan where
  /-- It shows its body once for each of these, with what is put in view. -/
  | body (added : List (List Frame))
  /-- It shows its alternative, which must be there if the subject is `required`. -/
  | alternative (required : Bool)
deriving Repr, Inhabited

/-- The values under the names of a block, of which there are two at most. -/
def bind (names : List String) (value key : Json) : List (String × Json) :=
  match names with
  | [name] => [(name, value)]
  | [name, second] => [(name, value), (second, key)]
  | _ => []

/-- The frames of a loop over values with their keys, from the given index on. -/
def loopFrames (names : List String) (keyed : Bool) (count : Nat) :
    Nat → List (Json × Json) → List (List Frame)
  | _, [] => []
  | index, (key, value) :: rest =>
    let marks :=
      [("first", .bool (index == 0)), ("last", .bool (index + 1 == count)),
       ("index", Json.ofNat index)] ++ (if keyed then [("key", key)] else [])
    [⟨value, marks, bind names value key⟩] :: loopFrames names keyed count (index + 1) rest

/-- The keys and values that a loop goes through, if there is anything to go
through. -/
def loopEntries : Json → List (Json × Json)
  | .list items => items.mapIdx fun index item => (Json.ofNat index, item)
  | .object members => (Json.sortMembers members).map fun (key, value) => (.text key, value)
  | _ => []

/-- Whether a value has parts, even if there are none of them. -/
def isCollection : Json → Bool
  | .list _ | .object _ => true
  | _ => false

def isObject : Json → Bool
  | .object _ => true
  | _ => false

/-- What a block does with its subject. -/
def Helper.plan (helper : Helper) (names : List String) (subject : Option Json) : Plan :=
  let truthy := subject.any Json.isTruthy
  match helper with
  | .given => if truthy then .body [[]] else .alternative false
  | .absent => if truthy then .alternative false else .body [[]]
  | .each =>
    let value := subject.getD .null
    let entries := loopEntries value
    if entries.isEmpty then .alternative (!isCollection value)
    else .body (loopFrames names (isObject value) entries.length 0 entries)
  | .within =>
    let value := subject.getD .null
    if truthy then .body [[⟨value, [], bind names value .null⟩]] else .alternative true

mutual

def renderNode (root : Json) (frames : List Frame) : Node → Except Fault String
  | .text text => .ok text
  | .value reference =>
    match reference.resolve root frames with
    | .ok (some value) => .ok (shown value)
    | .ok none => .error (.missingValue reference.written)
    | .error fault => .error fault
  | .call helper => .error (.badCall helper)
  | .block helper subject names body alternative =>
    match subject.resolve root frames with
    | .error fault => .error fault
    | .ok value =>
      match helper.plan names value with
      | .body added =>
        (added.mapM fun inner => renderNodes root (inner ++ frames) body).map String.join
      | .alternative required =>
        renderAlternative root frames required subject.written alternative

def renderNodes (root : Json) (frames : List Frame) : List Node → Except Fault String
  | [] => .ok ""
  | node :: rest =>
    match renderNode root frames node with
    | .error fault => .error fault
    | .ok text => (renderNodes root frames rest).map (text ++ ·)

def renderAlternative (root : Json) (frames : List Frame) (required : Bool) (written : String) :
    Option (List Node) → Except Fault String
  | some nodes => renderNodes root frames nodes
  | none => if required then .error (.missingValue written) else .ok ""

end

/-- What fills values into a template, however it is written. -/
abbrev Rendering := Json → Except Fault String

/-- The text of a template with a value filled in. -/
def render (template : Template) : Rendering := fun value => renderNodes value [] template

end FactoryGen.Template
