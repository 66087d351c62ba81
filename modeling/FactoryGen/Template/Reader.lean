import FactoryGen.Template.Layout

/-! Reading templates.

The pieces of a template go one by one through a machine that keeps the blocks
still open. A block that an `else` opens ends together with the block it belongs
to, so one closing tag may close several. -/
namespace FactoryGen.Template

/-- A block still open. -/
structure OpenBlock where
  call : Call
  /-- The nodes before the block, the last one first. -/
  before : List Node
  /-- The body, once the alternative has begun. -/
  body : Option (List Node) := none
  /-- Whether the block is the alternative of the block around it. -/
  chained : Bool := false

namespace OpenBlock

/-- The node of a block that ends with the given nodes, the last one first. -/
def node (block : OpenBlock) (nodes : List Node) : Node :=
  match Helper.named? block.call.helper, block.call.subject with
  | some helper, some subject =>
    match block.body with
    | none => .block helper subject block.call.names nodes.reverse none
    | some body => .block helper subject block.call.names body (some nodes.reverse)
  | _, _ => .call block.call.helper

end OpenBlock

/-- What the reader has seen: the nodes of the innermost open block, the last one
first, and the open blocks, the innermost first. -/
structure Progress where
  nodes : List Node := []
  blocks : List OpenBlock := []

namespace Progress

def push (progress : Progress) (node : Node) : Progress :=
  { progress with nodes := node :: progress.nodes }

def enter (progress : Progress) (call : Call) (chained : Bool) : Progress :=
  ⟨[], { call, before := progress.nodes, chained } :: progress.blocks⟩

/-- The alternative of the innermost block begins. -/
def turn (progress : Progress) : Option Progress :=
  match progress.blocks with
  | block :: blocks =>
    if block.body.isSome then none
    else some ⟨[], { block with body := some progress.nodes.reverse } :: blocks⟩
  | [] => none

/-- A block ends, and with it the one it is chained to. -/
def leave (helper : String) (nodes : List Node) : List OpenBlock → Option Progress
  | [] => none
  | block :: blocks =>
    let nodes := block.node nodes :: block.before
    if block.chained then leave helper nodes blocks
    else if block.call.helper = helper then some ⟨nodes, blocks⟩
    else none

/-- What the reader has seen after one more piece; nothing if it does not belong
there. -/
def step (progress : Progress) : Piece → Option Progress
  | .text text => some (progress.push (.text text))
  | .tag .comment => some progress
  | .tag (.value reference) => some (progress.push (.value reference))
  | .tag (.call helper) => some (progress.push (.call helper))
  | .tag (.opening call) => some (progress.enter call false)
  | .tag (.otherwise none) => progress.turn
  | .tag (.otherwise (some call)) => progress.turn.map fun progress => progress.enter call true
  | .tag (.closing helper) => leave helper progress.nodes progress.blocks

def run (progress : Progress) : List Piece → Option Progress
  | [] => some progress
  | piece :: rest => (progress.step piece).bind (run · rest)

end Progress

/-- The template of some pieces, if every block is closed. -/
def ofPieces (pieces : List Piece) : Option Template := do
  let progress ← Progress.run {} pieces
  if progress.blocks.isEmpty then some progress.nodes.reverse else none

/-- The template that some characters stand for. -/
def ofChars (input : List Char) : Option Template :=
  (Layout.read input).bind fun layout => ofPieces layout.pieces

def read (text : String) : Option Template := ofChars text.toList

end FactoryGen.Template
