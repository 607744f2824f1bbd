import Interception.Yaml.Lexer
import Interception.Yaml.Node

/-!
# From tokens to documents

The collections that are still open are kept on a stack, innermost first. A token
first settles what was left empty before it and what it ends without saying so;
then it is taken in itself.
-/

set_option autoImplicit false

namespace Interception.Yaml

/-- The pairs of a mapping, last one first, and a key that waits for its value. -/
structure Pairs where
  held : Option Node := none
  pairs : List (Node × Node) := []

/-- Takes in a key or, when a key waits, its value. A node without value is no key:
the next node takes its place. -/
def Pairs.take (p : Pairs) (n : Node) : Except Fault Pairs :=
  match p.held with
  | none => .ok { p with held := if n.isInvalid then none else some n }
  | some key =>
    if p.pairs.any fun pair => pair.1.same key then .error .duplicateKey
    else .ok { pairs := (key, n) :: p.pairs }

def Pairs.node (p : Pairs) : Node :=
  .mapping p.pairs.reverse

/-- An `unindented` sequence is the key or value of a block mapping and stands in
its column. -/
inductive SequenceForm where
  | block
  | unindented
  | flow
  deriving DecidableEq

/-- A `single` pair stands in a flow sequence without braces. -/
inductive MappingForm where
  | block
  | flow
  | single
  deriving DecidableEq

/-- Where reading stands in a mapping: before an entry, behind the mark of a key, in
a key without mark, before the mark of a value, behind it, or behind an entry of a
flow mapping. -/
inductive PairState where
  | opening
  | key
  | bareKey
  | value
  | content
  | closing
  deriving DecidableEq

inductive Frame where
  | root (content : Option Node)
  | sequence (form : SequenceForm) (awaiting : Bool) (items : List Node)
  | mapping (form : MappingForm) (state : PairState) (pairs : Pairs)

/-- What precedes the content of a node. -/
structure NodeProperties where
  anchor : Option Nat := none
  tag : Option Node.Tag := none

def NodeProperties.isEmpty (p : NodeProperties) : Bool :=
  p.anchor.isNone && p.tag.isNone

/-- Every anchor has a number of its own; a name stands for the last anchor it was
given to in the document. -/
structure Anchors where
  names : List (String × Nat) := []
  nodes : List (Nat × Node) := []
  count : Nat := 0

/-- Documents read so far, last one first, and the one that is being read. Each open
collection comes with its anchor. -/
structure Builder where
  documents : List Node := []
  stack : List (Option Nat × Frame) := []
  properties : NodeProperties := {}
  anchors : Anchors := {}
  expansions : List (String × String) := []
  inDirectives : Bool := false
  versionGiven : Bool := false
  markRequired : Bool := false

namespace Frame

/-- Whether the next node goes into this frame. -/
def awaitsNode : Frame → Bool
  | root content => content.isNone
  | sequence _ awaiting _ => awaiting
  | mapping _ state _ => state == .key || state == .bareKey || state == .content

/-- Whether a block may begin here. -/
def allowsBlock : Frame → Bool
  | root _ => true
  | sequence form _ _ => form != .flow
  | mapping form _ _ => form == .block

/-- Whether a sequence may begin here without indentation. -/
def allowsUnindented : Frame → Bool
  | mapping form _ _ => form == .block
  | _ => false

/-- Whether the awaited node is left empty when `t` follows. -/
def emptyBefore (t : Token) : Frame → Bool
  | root _ => match t with
    | .versionDirective | .tagDirective .. | .documentStart | .documentEnd | .streamEnd => true
    | _ => false
  | sequence form _ _ => match form, t with
    | .block, .blockEntry | .block, .blockEnd => true
    | .unindented, .blockEntry | .unindented, .key | .unindented, .value
    | .unindented, .blockEnd => true
    | _, _ => false
  | mapping form state _ => match form, state, t with
    | .block, _, .key | .block, _, .value | .block, _, .blockEnd => true
    | .flow, .key, .value => true
    | .flow, .key, .flowEntry | .flow, .key, .flowMappingEnd => true
    | .flow, .content, .flowEntry | .flow, .content, .flowMappingEnd => true
    | .single, .content, .flowEntry | .single, .content, .flowSequenceEnd => true
    | _, _, _ => false

/-- Takes in the awaited node. A key without mark has no value either. -/
def take (n : Node) : Frame → Except Fault Frame
  | root _ => .ok (root (some n))
  | sequence form _ items => .ok (sequence form false (n :: items))
  | mapping form state pairs => do
    let pairs ← pairs.take n
    match state with
    | .bareKey => return mapping form .closing (← pairs.take .null)
    | .content => return mapping form (if form == .block then .opening else .closing) pairs
    | _ => return mapping form .value pairs

end Frame

namespace Anchors

/-- Gives `name` to the node that follows. -/
def add (a : Anchors) (name : String) : Nat × Anchors :=
  let id := a.count + 1
  (id, { a with names := (name, id) :: a.names, count := id })

def complete (a : Anchors) (id : Option Nat) (n : Node) : Anchors :=
  match id with
  | some id => { a with nodes := (id, n) :: a.nodes }
  | none => a

/-- A node that is not complete yet has no value. -/
def find? (a : Anchors) (name : String) : Option Node :=
  (a.names.lookup name).map fun id => (a.nodes.lookup id).getD .invalid

end Anchors

namespace Builder

/-- Puts a complete node where it is awaited. A single pair is complete with its value. -/
def deliver (b : Builder) (anchor : Option Nat) (n : Node) : Except Fault Builder := do
  let b := { b with anchors := b.anchors.complete anchor n, properties := {} }
  match b.stack with
  | [] => .error .unexpectedToken
  | (id, frame) :: rest =>
    match ← frame.take n, rest with
    | .mapping .single .closing pairs, (parentId, parent) :: outer =>
      return { b with stack := (parentId, ← parent.take pairs.node) :: outer }
    | frame, rest => return { b with stack := (id, frame) :: rest }

def deliverEmpty (b : Builder) : Except Fault Builder :=
  b.deliver none .null

/-- Closes the innermost collection, which is `n`. -/
def close (b : Builder) (n : Node) : Except Fault Builder :=
  match b.stack with
  | [] => .error .unexpectedToken
  | (anchor, _) :: rest => { b with stack := rest }.deliver anchor n

def enter (b : Builder) (frame : Frame) : Builder :=
  { b with stack := (b.properties.anchor, frame) :: b.stack, properties := {} }

def setTop (b : Builder) (frame : Frame) : Builder :=
  match b.stack with
  | [] => b
  | (anchor, _) :: rest => { b with stack := (anchor, frame) :: rest }

/-! ## Nodes -/

/-- Whether `t` goes on with the node that is awaited in `frame`. -/
def continues (p : NodeProperties) (frame : Frame) : Token → Bool
  | .alias _ => p.isEmpty
  | .anchor _ => p.anchor.isNone
  | .tag .. => p.tag.isNone
  | .scalar .. | .flowSequenceStart | .flowMappingStart => true
  | .blockSequenceStart | .blockMappingStart => frame.allowsBlock
  | .blockEntry => frame.allowsUnindented
  | _ => false

/-- A handle between two marks has to be declared. -/
def resolveTag (b : Builder) (handle suffix : String) : Except Fault Node.Tag :=
  match b.expansions.lookup handle with
  | some expansion => .ok ⟨expansion, suffix⟩
  | none =>
    if handle = "!!" then .ok ⟨Node.coreExpansion, suffix⟩
    else if 2 ≤ handle.length && handle.startsWith "!" && handle.endsWith "!" then .error .badTag
    else .ok ⟨handle, suffix⟩

/-- Takes in a token of the awaited node. -/
def takeNode (b : Builder) (frame : Frame) (t : Token) : Except Fault Builder :=
  let p := b.properties
  if !continues p frame t then .error .unexpectedToken
  else match t with
    | .alias name => match b.anchors.find? name with
      | some n => b.deliver none n
      | none => .error .unknownAlias
    | .anchor name =>
      let (id, anchors) := b.anchors.add name
      .ok { b with anchors, properties := { p with anchor := some id } }
    | .tag handle suffix => do
      let tag ← b.resolveTag handle suffix
      .ok { b with properties := { p with tag := some tag } }
    | .scalar style text => b.deliver p.anchor (.ofScalar style p.tag text)
    | .flowSequenceStart => .ok (b.enter (.sequence .flow true []))
    | .flowMappingStart => .ok (b.enter (.mapping .flow .opening {}))
    | .blockSequenceStart => .ok (b.enter (.sequence .block false []))
    | .blockMappingStart => .ok (b.enter (.mapping .block .opening {}))
    | .blockEntry => .ok (b.enter (.sequence .unindented true []))
    | _ => .error .unexpectedToken

/-! ## What a token settles -/

/-- Leaves the awaited node empty if `t` cannot belong to it. A node of which only
properties were read is empty text. -/
def settleNode (b : Builder) (t : Token) : Except Fault Builder :=
  match b.stack with
  | [] => .ok b
  | (_, frame) :: _ =>
    if !frame.awaitsNode then .ok b
    else if b.properties.isEmpty then
      if frame.emptyBefore t then b.deliverEmpty else .ok b
    else if continues b.properties frame t then .ok b
    else b.deliver b.properties.anchor (.ofScalar .plain b.properties.tag "")

/-- Completes the pair that is being read and ends what ends without a token. -/
def settlePairs (t : Token) (b : Builder) : Except Fault Builder :=
  match _ : b.stack with
  | (anchor, .mapping form .opening pairs) :: rest =>
    if t = .value then do
      let pairs ← pairs.take .null
      .ok { b with stack := (anchor, .mapping form .value pairs) :: rest }
    else .ok b
  | (anchor, .mapping form .value pairs) :: rest =>
    if t = .value then .ok b
    else { b with stack := (anchor, .mapping form .content pairs) :: rest }.deliverEmpty
  | (anchor, .sequence .unindented false items) :: (parentAnchor, parent) :: rest =>
    if t = .blockEntry then .ok b
    else
      let n : Node := .sequence items.reverse
      match parent.take n with
      | .error e => .error e
      | .ok parent =>
        settlePairs t
          { b with
            anchors := b.anchors.complete anchor n
            stack := (parentAnchor, parent) :: rest }
  | _ => .ok b
termination_by b.stack.length
decreasing_by simp_all

/-! ## Taking in a token -/

def takeInSequence (b : Builder) (form : SequenceForm) (awaiting : Bool) (items : List Node)
    (t : Token) : Except Fault Builder :=
  match form, awaiting, t with
  | .flow, true, .flowSequenceEnd | .flow, false, .flowSequenceEnd | .block, false, .blockEnd =>
    b.close (.sequence items.reverse)
  | .flow, true, .key => .ok { b with stack := (none, .mapping .single .key {}) :: b.stack }
  | .flow, false, .flowEntry | .block, false, .blockEntry | .unindented, false, .blockEntry =>
    .ok (b.setTop (.sequence form true items))
  | form, true, t => b.takeNode (.sequence form true items) t
  | _, _, _ => .error .unexpectedToken

def takeInMapping (b : Builder) (form : MappingForm) (state : PairState) (pairs : Pairs)
    (t : Token) : Except Fault Builder :=
  match form, state, t with
  | .block, .opening, .blockEnd | .flow, .opening, .flowMappingEnd
  | .flow, .closing, .flowMappingEnd => b.close pairs.node
  | .block, .opening, .key | .flow, .opening, .key => .ok (b.setTop (.mapping form .key pairs))
  | .flow, .closing, .flowEntry => .ok (b.setTop (.mapping form .opening pairs))
  | _, .value, .value => .ok (b.setTop (.mapping form .content pairs))
  | .single, .key, .value | .single, .key, .flowEntry | .single, .key, .flowSequenceEnd =>
    b.deliverEmpty
  | .flow, .opening, t =>
    let frame : Frame := .mapping .flow .bareKey pairs
    (b.setTop frame).takeNode frame t
  | form, .key, t => b.takeNode (.mapping form .key pairs) t
  | form, .bareKey, t => b.takeNode (.mapping form .bareKey pairs) t
  | form, .content, t => b.takeNode (.mapping form .content pairs) t
  | _, _, _ => .error .unexpectedToken

/-- Takes in a token before which everything is settled. -/
def takeSettled (b : Builder) (t : Token) : Except Fault Builder :=
  match b.stack with
  | [] => .error .unexpectedToken
  | (_, .root content) :: _ => b.takeNode (.root content) t
  | (_, .sequence form awaiting items) :: _ => b.takeInSequence form awaiting items t
  | (_, .mapping form state pairs) :: _ => b.takeInMapping form state pairs t

def beginDocument (b : Builder) : Builder :=
  { b with
    stack := [(none, .root none)]
    inDirectives := false
    versionGiven := false
    anchors := { b.anchors with names := [] } }

/-- Of several expansions before a document the last one is in force. -/
def takeBetween (b : Builder) (t : Token) : Except Fault Builder :=
  match t with
  | .documentEnd | .streamEnd => if b.inDirectives then .error .unexpectedToken else .ok b
  | .versionDirective =>
    if b.versionGiven then .error .badDirective
    else .ok { b with inDirectives := true, versionGiven := true, expansions := [] }
  | .tagDirective handle expansion =>
    .ok { b with inDirectives := true, expansions := [(handle, expansion)] }
  | .documentStart => .ok b.beginDocument
  | t =>
    if b.inDirectives || b.markRequired then .error .unexpectedToken
    else b.beginDocument.takeSettled t

/-- Without a mark for its end a document has to be followed by one with a mark for
its start, and not by directives. -/
def finishDocument (b : Builder) (n : Node) (t : Token) : Except Fault Builder :=
  let b := { b with documents := n :: b.documents, stack := [], expansions := [] }
  match t with
  | .documentEnd => .ok { b with markRequired := false }
  | .versionDirective | .tagDirective .. => .error .unexpectedToken
  | t => { b with markRequired := true }.takeBetween t

def take (b : Builder) (t : Token) : Except Fault Builder := do
  if b.stack.isEmpty then b.takeBetween t
  else
    let b ← b.settleNode t
    let b ← b.settlePairs t
    match b.stack with
    | [(_, .root (some n))] => b.finishDocument n t
    | _ => b.takeSettled t

end Builder

def documentsOfTokens (tokens : List Token) : Except Fault (List Node) :=
  (tokens.foldlM Builder.take {}).map (·.documents.reverse)

/-- The documents that a text consists of. -/
def documents (text : String) : Except Fault (List Node) := do
  documentsOfTokens (← tokensOf text)

end Interception.Yaml
