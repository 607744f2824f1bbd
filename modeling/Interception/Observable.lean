import Interception.Interceptor

/-!
# Observables

A target and the layers around it. Each layer shows only those interfaces of
what lies below it that its interceptor declared, and hands the declared methods
to the interceptor; other methods of these interfaces go straight through.
-/

set_option autoImplicit false

namespace Interception

structure Target (σ : Type) (κ : Type := Kind) [Kinds κ] where
  descriptor : TypeDescriptor
  serve : Method → Args κ → σ → Outcome κ × σ

structure Layer (σ : Type) (κ : Type := Kind) [Kinds κ] where
  interceptor : Interceptor σ κ
  signatures : SignatureMap

/-- The outermost layer comes first. -/
structure Observable (σ : Type) (κ : Type := Kind) [Kinds κ] where
  target : Target σ κ
  layers : List (Layer σ κ) := []

/-- The interfaces of `d` that something was declared under. -/
def SignatureMap.covered (map : SignatureMap) (d : TypeDescriptor) : List Interface :=
  d.allInterfaces.filter (map.covers ·.name)

def wrapperName (inner : String) : String :=
  "Plugin<" ++ inner ++ ">"

/-- What becomes of a call that reaches a layer. -/
inductive Route where
  | refused
  | intercepted
  | passed
  deriving DecidableEq

namespace Layer

variable {σ κ : Type} [Kinds κ]

/-- What the layer shows of something described by `below`. -/
def describe (l : Layer σ κ) (below : TypeDescriptor) : TypeDescriptor where
  name := wrapperName below.name
  interfaces := l.signatures.covered below

def exposes (l : Layer σ κ) (below : TypeDescriptor) (m : Method) : Bool :=
  (l.signatures.covered below).any (·.isOrExtends m.interface)

def intercepts (l : Layer σ κ) (below : TypeDescriptor) (m : Method) : Bool :=
  (l.signatures.covered below).any fun i => l.signatures.intercepts i.name m

/-- A method that is not exposed is refused even if it is declared. -/
def route (l : Layer σ κ) (below : TypeDescriptor) (m : Method) : Route :=
  if !l.exposes below m then .refused
  else if l.intercepts below m then .intercepted
  else .passed

end Layer

namespace Target

variable {σ κ : Type} [Kinds κ]

def describeUnder (t : Target σ κ) : List (Layer σ κ) → TypeDescriptor
  | [] => t.descriptor
  | l :: below => l.describe (t.describeUnder below)

/-- Sends a call through the layers, outermost first, and to the target behind them. -/
def serveUnder (t : Target σ κ) : List (Layer σ κ) → Method → Args κ → σ → Reply σ κ
  | [], m, args, s =>
    let (outcome, state) := t.serve m args s
    ⟨outcome, state, [.target m args]⟩
  | l :: below, m, args, s =>
    let receiver := t.describeUnder below
    match l.route receiver m with
    | .refused =>
      ⟨.error (.dispatch (.notExposed (wrapperName receiver.name) m.interface m.name)), s,
        [.refused below.length m args]⟩
    | .intercepted =>
      let reply := (l.interceptor.intercept ⟨receiver, m, args⟩).run (t.serveUnder below) s
      { reply with visits := .layer below.length m args :: reply.visits }
    | .passed => t.serveUnder below m args s

end Target

namespace Observable

variable {σ κ : Type} [Kinds κ]

def ofTarget (t : Target σ κ) : Observable σ κ :=
  ⟨t, []⟩

def descriptor (o : Observable σ κ) : TypeDescriptor :=
  o.target.describeUnder o.layers

def depth (o : Observable σ κ) : Nat :=
  o.layers.length

def invoke (o : Observable σ κ) (m : Method) (args : Args κ) (s : σ) : Reply σ κ :=
  o.target.serveUnder o.layers m args s

/-- A call whose result has to be of kind `k`. -/
def call (o : Observable σ κ) (m : Method) (args : Args κ) (k : κ) (s : σ) : Reply σ κ :=
  let reply := o.invoke m args s
  { reply with outcome := reply.outcome.expect k }

/-- Adds a layer, unless it would show nothing. -/
def wrapResolved (o : Observable σ κ) (i : Interceptor σ κ) (map : SignatureMap) : Observable σ κ :=
  if (map.covered o.descriptor).isEmpty then o else { o with layers := ⟨i, map⟩ :: o.layers }

/-- A declaration that does not resolve is an error, also when nothing would be covered. -/
def wrap (o : Observable σ κ) (i : Interceptor σ κ) : Except PluginError (Observable σ κ) :=
  i.resolve.map (o.wrapResolved i)

end Observable

end Interception
