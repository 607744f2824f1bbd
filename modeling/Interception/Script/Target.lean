import Interception.Observable
import Interception.Script.World

/-!
# Scripted targets

A target with one action for each of its methods. It counts every call and logs it
before it acts.
-/

set_option autoImplicit false

namespace Interception.Script

inductive Action where
  | give (v : Value)
  | argument (index : Nat) (kind : Kind)
  | take (index : Nat)
  | rows
  | count
  | isEmpty
  | describeArgs
  | typeName
  | fail (kind message : String)
  | failWith (index : Nat) (kind : String)
  | store
  | load
  | calls

structure TargetDefinition where
  id : String
  descriptor : TypeDescriptor
  actions : List (Method × Action)

/-- Numbered rows of `name`, none for a count below one. -/
def rowsOf (name : String) (count : Int64) : List String :=
  (List.range count.toInt.toNat).map fun i => name ++ "#" ++ toString i

/-- What an action comes to and what it leaves stored, for a target that has the type
`name` and was called as often as `state` says. -/
def Action.perform (a : Action) (name : String) (args : Args) (state : TargetState) :
    Except CallError Value × Option String :=
  let keep (o : Outcome) := (o, state.stored)
  match a with
  | give v => keep (.ok v)
  | argument index kind => keep (((args.get index kind).map (⟨kind, ·⟩)).mapError .dispatch)
  | take index => keep ((args.slot index).mapError .dispatch)
  | rows => keep <| Except.mapError .dispatch do
      let name ← args.get 0 .text
      let count ← args.get 1 .signed
      return .ofTexts (rowsOf name count)
  | count => keep (.ok (.ofSize (.ofNat args.size)))
  | isEmpty => keep (.ok (.ofFlag args.isEmpty))
  | describeArgs => keep (.ok (.ofText args.describe))
  | typeName => keep (.ok (.ofText name))
  | fail kind message => keep (.error (.failure kind message))
  | failWith index kind =>
    match args.get index .text with
    | .ok message => keep (.error (.failure kind message))
    | .error e => keep (.error (.dispatch e))
  | store =>
    match args.get 0 .text with
    | .ok text => (.ok ((state.stored.map Value.ofText).getD .ofUnit), some text)
    | .error e => keep (.error (.dispatch e))
  | load =>
    match state.stored with
    | some text => keep (.ok (.ofText text))
    | none => keep (.error (.failure "Empty" "nothing stored"))
  | calls => keep (.ok (.ofUnsigned (.ofNat state.calls)))

namespace TargetDefinition

def serve (d : TargetDefinition) (m : Method) (args : Args) (w : World) : Outcome × World :=
  let counted := w.updateTarget d.id fun s => { s with calls := s.calls + 1 }
  let logged := counted.say (d.id ++ ":" ++ m.display)
  match d.actions.lookup m with
  | none => (.error (.dispatch (.unsupported d.descriptor.name m.interface m.name)), logged)
  | some action =>
    let (outcome, stored) := action.perform d.descriptor.name args (logged.target d.id)
    (outcome, logged.updateTarget d.id fun s => { s with stored })

def target (d : TargetDefinition) : Target World where
  descriptor := d.descriptor
  serve := d.serve

end TargetDefinition

end Interception.Script
