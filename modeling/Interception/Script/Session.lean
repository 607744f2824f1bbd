import Interception.Configuration.Load
import Interception.Script.Cast
import Interception.Script.Step

/-!
# Sessions

A session keeps what its steps make under handles and performs one step after the
other. A step that asks for a handle nobody bound, or that is refused, binds nothing
and leaves an older binding as it is.
-/

set_option autoImplicit false

namespace Interception.Script

/-- Two observables are one object when their identities agree, not when they look alike. -/
structure Held where
  observable : Observable World
  identity : Nat

structure Session where
  cast : Cast
  world : World := {}
  observables : Table Held := {}
  interceptors : Table (Interceptor World) := {}
  maps : Table SignatureMap := {}
  chains : Table (Chain World) := {}
  registries : Table (Registry World) := {}
  identities : Nat := 0

/-- The answer to a step, what the session is afterwards and which events it reported. -/
structure Report where
  answer : Answer
  session : Session
  events : List Event := []

/-- What is kept under a handle, or the handle itself. -/
def held {α : Type} (table : Table α) (handle : String) : Except String α :=
  match table.get? handle with
  | some x => .ok x
  | none => .error handle

namespace Session

/-- Keeps an object that was not there before. -/
def keep (s : Session) (handle : String) (o : Observable World) : Session :=
  { s with
    observables := Table.set handle ⟨o, s.identities⟩ s.observables
    identities := s.identities + 1 }

/-- Every target and every interceptor of the cast is held under its id. -/
def ofCast (c : Cast) : Session :=
  let start : Session :=
    { cast := c
      interceptors := c.interceptors.map (·.interceptor {}) }
  c.targets.entries.foldl (fun s (id, d) => s.keep id (.ofTarget d.target)) start

/-- Counts one look at the declarations of each definition named. -/
def countReadings (s : Session) (origins : List String) : Session :=
  { s with world := origins.foldl (fun w id => w.countResolution id) s.world }

def setChain (s : Session) (handle : String) (c : Chain World) : Session :=
  { s with chains := Table.set handle c s.chains }

/-- Keeps what wrapping made of `input`. Without a new layer it is the same object. -/
def keepWrapped (s : Session) (input : Held) (handle : String) :
    Except PluginError (Observable World) → Answer × Session
  | .error e => (.refused e, s)
  | .ok o =>
    let same := o.depth == input.observable.depth
    let s := if same then { s with observables := Table.set handle input s.observables }
      else s.keep handle o
    (.wrapped (.of o.descriptor) same, s)

/-- The answer of a call, with the world as the call left it. -/
def replied (s : Session) (r : Reply World) : Report :=
  ⟨.outcome r.outcome, { s with world := r.state }, []⟩

def answered (s : Session) (a : Answer) : Report :=
  ⟨a, s, []⟩

/-- What a walk along a chain leaves: the chain with what it learnt, counted readings. -/
def walked {α : Type} (s : Session) (handle : String) (r : ChainResult World α) : Session :=
  (s.setChain handle r.chain).countReadings r.journal.origins

def appendTimes (c : Chain World) (i : Interceptor World) : Nat → Chain World × Journal
  | 0 => (c, {})
  | n + 1 =>
    let (c, journal) := c.append i
    let (c, more) := appendTimes c i n
    (c, journal ++ more)

def namesOf (c : Chain World) : List String :=
  c.interceptors.map (·.name)

def Plan.configuration : Plan → Except PluginError Configuration
  | .given config => .ok config
  | .text text => (Configuration.ofText text).mapError .config

/-- Builds the chain of a plan. A plan that cannot be read is refused before anything
is made. -/
def buildChain (s : Session) (r : Registry World) (chain : String) (plan : Plan) : Report :=
  match Plan.configuration plan with
  | .error e => s.answered (.refused e)
  | .ok config =>
    let built := r.build config s.world
    let counted := { s with world := built.state }.countReadings built.journal.origins
    match built.answer with
    | .error e => ⟨.refused e, counted, built.journal.events⟩
    | .ok c => ⟨.names (namesOf c), counted.setChain chain c, built.journal.events⟩

/-- Writes down the call, adds to its arguments and makes it. -/
def makeInvocation (s : Session) (o : Observable World) (i : Invocation) (pushed : List Value) :
    Report :=
  let w := (s.world.say i.describe).say (i.method.display ++ " " ++ toString i.args.size)
  let i := pushed.foldl Invocation.push i
  s.replied (o.invoke i.method i.args w)

/-- Performs a step, or fails with the first handle that is not bound. -/
def perform? (s : Session) : Step → Except String Report
  | .wrap target interceptor result => do
    let input ← held s.observables target
    let i ← held s.interceptors interceptor
    let (answer, s) := (s.countReadings [i.origin]).keepWrapped input result
      (input.observable.wrap i)
    return s.answered answer
  | .resolve interceptor result => do
    let i ← held s.interceptors interceptor
    let s := s.countReadings [i.origin]
    match i.resolve with
    | .error e => return s.answered (.refused e)
    | .ok map =>
      return { s with maps := Table.set result map s.maps }.answered (.resolved map.isEmpty)
  | .wrapResolved target interceptor map result => do
    let input ← held s.observables target
    let i ← held s.interceptors interceptor
    let map ← held s.maps map
    let (answer, s) := s.keepWrapped input result (.ok (input.observable.wrapResolved i map))
    return s.answered answer
  | .showMap map interface => do
    let map ← held s.maps map
    return s.answered (.routes ((map.methods? interface).map displays))
  | .intercepts map interface m => do
    let map ← held s.maps map
    return s.answered (.truth (map.intercepts interface m))
  | .newChain chain => return (s.setChain chain {}).answered .done
  | .append interceptor chain times => do
    let i ← held s.interceptors interceptor
    let c ← held s.chains chain
    let (c, journal) := appendTimes c i times
    return ⟨.length c.length, s.setChain chain c, journal.events⟩
  | .apply target chain result => do
    let input ← held s.observables target
    let c ← held s.chains chain
    let applied := c.applyAll input.observable
    let (answer, s) := (s.walked chain applied).keepWrapped input result applied.answer
    return ⟨answer, s, applied.journal.events⟩
  | .validate chain => do
    let c ← held s.chains chain
    let checked := c.validate
    let answer := match checked.answer with
      | .error e => Answer.refused e
      | .ok () => .done
    return ⟨answer, s.walked chain checked, checked.journal.events⟩
  | .list chain => do
    let c ← held s.chains chain
    return s.answered (.listed (namesOf c))
  | .invoke target m args => do
    let h ← held s.observables target
    return s.replied (h.observable.invoke m args s.world)
  | .call target m args kind => do
    let h ← held s.observables target
    return s.replied (h.observable.call m args kind s.world)
  | .invocation target m args pushed => do
    let h ← held s.observables target
    return s.makeInvocation h.observable ⟨h.observable.descriptor, m, args⟩ pushed
  | .describe target => do
    let h ← held s.observables target
    return s.answered (.described (.of h.observable.descriptor))
  | .realizes target interface => do
    let h ← held s.observables target
    return s.answered (.truth (h.observable.descriptor.realizes interface))
  | .same a b => do
    let a ← held s.observables a
    let b ← held s.observables b
    return s.answered (.truth (a.identity == b.identity))
  | .findMethod interface name params => do
    let i ← held s.cast.interfaces interface
    return s.answered (.method (i.findMethod? name params))
  | .isOrExtends interface name => do
    let i ← held s.cast.interfaces interface
    return s.answered (.truth (i.isOrExtends name))
  | .sameInterface a b => do
    let a ← held s.cast.interfaces a
    let b ← held s.cast.interfaces b
    return s.answered (.truth (a.same b))
  | .sameMethod a b => return s.answered (.truth (a == b))
  | .calls target => do
    let d ← held s.cast.targets target
    return s.answered (.calls (s.world.target d.id).calls)
  | .stats interceptor => do
    let d ← held s.cast.interceptors interceptor
    return s.answered (.counts (s.world.countsOf d.id))
  | .newRegistry registry =>
    return { s with registries := Table.set registry {} s.registries }.answered .done
  | .register interceptor registry name => do
    let d ← held s.cast.interceptors interceptor
    let r ← held s.registries registry
    return { s with registries := Table.set registry (r.register name d.factory) s.registries
      }.answered .done
  | .contains registry name => do
    let r ← held s.registries registry
    return s.answered (.truth (r.contains name))
  | .create registry interceptor properties result => do
    let r ← held s.registries registry
    let (answer, w) := r.create interceptor properties s.world
    let s := { s with world := w }
    match answer with
    | .error e => return s.answered (.refused e)
    | .ok i =>
      return { s with interceptors := Table.set result i s.interceptors }.answered (.named i.name)
  | .buildChain registry chain plan => do
    let r ← held s.registries registry
    return s.buildChain r chain plan

def perform (s : Session) (step : Step) : Report :=
  match s.perform? step with
  | .ok report => report
  | .error handle => s.answered (.unbound handle)

/-- What is told of a step: its answer, the lines logged during it and its events. -/
structure Account where
  answer : Answer
  log : List String
  events : List Event

/-- Performs steps in order. The log of each step starts empty. -/
def performAll (s : Session) : List Step → List Account
  | [] => []
  | step :: rest =>
    let report := { s with world.log := #[] }.perform step
    ⟨report.answer, report.session.world.log.toList, report.events⟩
      :: report.session.performAll rest

end Session

end Interception.Script
