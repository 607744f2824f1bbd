import Interception.Number.Integer
import Interception.Registry
import Interception.Script.World

/-!
# Scripted interceptors

A routine says what is done before a call is passed on, how it is passed on or
answered, and what is done with the outcome. A step before the call that fails ends
the routine at once.
-/

set_option autoImplicit false

namespace Interception.Script

inductive Before where
  | log (text : String)
  | trace (text : String)
  | describe
  | require (index : Nat) (kind : Kind)
  | edit (index : Nat) (e : Edit)
  | limitBy (index : Nat) (key : String)
  | appendProperty (index : Nat) (key : String)
  | replace (index : Nat) (v : Value)
  | push (v : Value)
  | sideCall (m : Method) (args : Args)

inductive Turn where
  | proceed
  | give (v : Value)
  | fail (kind message : String)
  | redirect (m : Method)

inductive After where
  | log (text : String)
  | upper
  | addResult (n : Int64)
  | expect (kind : Kind)
  | recover (kind : Option String) (v : Value)
  | rewrap (kind lead : String)

structure Routine where
  before : List Before := []
  turn : Turn := .proceed
  after : List After := []

/-- How an outcome is logged. -/
def outcomeText : Outcome → String
  | .ok _ => "ok"
  | .error e => e.kind ++ ": " ++ e.message

/-- The content of a result of kind `k`, changed by `f`. -/
def mapResult (k : Kind) (f : k.Carrier → k.Carrier) (v : Value) : Outcome :=
  match v.downcast k with
  | .ok x => .ok ⟨k, f x⟩
  | .error e => .error (.dispatch e)

def upperAscii (s : String) : String :=
  String.ofList (s.toList.map Char.toUpper)

/-- The outcome that a step after the call makes of one, or the error that ends the
routine. A step that works on a result ends the routine if there is none. Of these only
`expect` leaves the complaint about a wrong kind to the steps behind it. -/
def After.apply (a : After) (o : Outcome) : Except CallError Outcome :=
  match a with
  | log _ => return o
  | upper => return .ok (← mapResult .text upperAscii (← o))
  | addResult n => return .ok (← mapResult .signed (fun (x : Int64) => x + n) (← o))
  | expect kind => return Outcome.expect (.ok (← o)) kind
  | recover kind v =>
    match o with
    | .ok _ => return o
    | .error e => return if kind.all (· == e.kind) then .ok v else o
  | rewrap kind lead =>
    match o with
    | .ok _ => return o
    | .error e => return .error (.failure kind (lead ++ e.message))

def After.line? (a : After) (o : Outcome) : Option String :=
  match a with
  | log text => some (text ++ "<" ++ outcomeText o)
  | _ => none

def finishWith : List After → Outcome → Activity World
  | [], o => .finish o
  | a :: rest, o =>
    match a.apply o with
    | .error e => .finish (.error e)
    | .ok changed =>
      let next := finishWith rest changed
      match a.line? o with
      | some line => .modify (World.say line) next
      | none => next

def Turn.activity (t : Turn) (i : Invocation) (next : Outcome → Activity World) :
    Activity World :=
  match t with
  | proceed => .call i.method i.args next
  | give v => next (.ok v)
  | fail kind message => next (.error (.failure kind message))
  | redirect m => .call m i.args next

/-- The smaller of a number and the one that a property writes. -/
def limit (text : String) (x : Int64) : Int64 :=
  match Number.readDecimal text with
  | .ok n => if n < x.toInt then Int64.ofInt n else x
  | .error _ => x

/-- What a step does to the arguments. -/
def Before.amend (b : Before) (properties : Properties) (args : Args) :
    Except DispatchError Args :=
  match b with
  | require index kind => (args.get index kind).map fun _ => args
  | edit index e => args.amend index e
  | limitBy index key =>
    match properties.get? key with
    | some text => args.edit index .signed (limit text)
    | none => .ok args
  | appendProperty index key =>
    match properties.get? key with
    | some text => args.amend index (.append text)
    | none => .ok args
  | replace index v => (args.replace index v).map (·.2)
  | push v => .ok (args.push v)
  | log _ | trace _ | describe | sideCall .. => .ok args

def Before.line? (b : Before) (i : Invocation) : Option String :=
  match b with
  | log text => some (text ++ ">" ++ i.method.display)
  | trace text => some (text ++ " " ++ i.receiver.name ++ " " ++ toString i.args.size)
  | describe => some i.describe
  | _ => none

def startWith (properties : Properties) : List Before → Invocation →
    (Invocation → Activity World) → Activity World
  | [], i, next => next i
  | b :: rest, i, next =>
    match b.amend properties i.args with
    | .error e => .finish (.error (.dispatch e))
    | .ok args =>
      let further := startWith properties rest { i with args } next
      match b with
      | .sideCall m args =>
        .call m args fun o => .modify (World.say ("side " ++ outcomeText o)) further
      | b => match b.line? i with
        | some line => .modify (World.say line) further
        | none => further

def Routine.activity (r : Routine) (properties : Properties) (i : Invocation) : Activity World :=
  startWith properties r.before i fun i => r.turn.activity i (finishWith r.after)

/-- Without a name of its own a definition has the name of its type, and configuring it
does nothing. -/
structure InterceptorDefinition where
  id : String
  name : Option String
  signatures : List Signature
  routine : Routine
  integerProperties : List String

namespace InterceptorDefinition

def anonymousName : String := "weave_driver::Anonymous"

def displayName (d : InterceptorDefinition) : String :=
  d.name.getD anonymousName

def interceptor (d : InterceptorDefinition) (properties : Properties) : Interceptor World where
  name := d.displayName
  signatures := d.signatures
  intercept i := .modify (World.countCall d.id) (d.routine.activity properties i)
  origin := d.id

/-- Properties that have to be integers, in order. -/
def checkIntegers (name : String) (properties : Properties) :
    List String → Except PluginError Unit
  | [] => .ok ()
  | key :: rest =>
    match (properties.get? key).map Number.readDecimal with
    | some (.error fault) => .error (.invalidProperty name key fault.message)
    | _ => checkIntegers name properties rest

def draft (d : InterceptorDefinition) : Draft World where
  configure properties w :=
    match d.name with
    | none => (.ok (d.interceptor {}), w)
    | some name =>
      ((checkIntegers name properties d.integerProperties).map fun _ => d.interceptor properties,
        w.countConfigured d.id)

def factory (d : InterceptorDefinition) : Factory World := fun w =>
  (d.draft, w.countCreated d.id)

end InterceptorDefinition

end Interception.Script
