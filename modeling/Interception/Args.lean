import Interception.Error
import Interception.Value

/-!
# Argument lists

The arguments of one call. Reading and editing ask for a kind; replacing does
not, and may change the kind of a place. An operation that fails changes nothing.
-/

set_option autoImplicit false

namespace Interception

structure Args (κ : Type := Kind) [Kinds κ] where
  values : List (Value κ) := []
  deriving Inhabited

section

variable {κ : Type} [Kinds κ]

namespace Args

instance [DecidableEq (Value κ)] : DecidableEq (Args κ)
  | ⟨vs⟩, ⟨ws⟩ =>
    if same : vs = ws then isTrue (congrArg Args.mk same)
    else isFalse fun equal => same (congrArg values equal)

def size (a : Args κ) : Nat :=
  a.values.length

def isEmpty (a : Args κ) : Bool :=
  a.values.isEmpty

def push (a : Args κ) (v : Value κ) : Args κ :=
  ⟨a.values ++ [v]⟩

/-- The value at `index`, whatever its kind. -/
def slot (a : Args κ) (index : Nat) : Except DispatchError (Value κ) :=
  match a.values[index]? with
  | some v => .ok v
  | none => .error (.missingArgument index)

/-- A place that does not exist is reported before a kind that does not fit. -/
def get (a : Args κ) (index : Nat) (k : κ) :
    Except DispatchError (Kinds.Carrier k) := do
  let v ← a.slot index
  match v.as? k with
  | some x => .ok x
  | none => .error (.argumentType index (Kinds.typeName k))

/-- Changes the place at `index`, which has to hold a value of kind `k`. -/
def edit (a : Args κ) (index : Nat) (k : κ)
    (f : Kinds.Carrier k → Kinds.Carrier k) : Except DispatchError (Args κ) := do
  let x ← a.get index k
  .ok ⟨a.values.set index ⟨k, f x⟩⟩

/-- Puts `v` into the place at `index` and hands back what was there. -/
def replace (a : Args κ) (index : Nat) (v : Value κ) :
    Except DispatchError (Value κ × Args κ) := do
  let previous ← a.slot index
  .ok (previous, ⟨a.values.set index v⟩)

def describe (a : Args κ) : String :=
  "Args \x7b len: " ++ toString a.size ++ " \x7d"

@[simp] theorem values_push (a : Args κ) (v : Value κ) : (a.push v).values = a.values ++ [v] := rfl

@[simp] theorem size_push (a : Args κ) (v : Value κ) : (a.push v).size = a.size + 1 := by
  simp [size]

end Args

/-- A change to a value that keeps its kind. -/
structure Edit (κ : Type := Kind) [Kinds κ] where
  kind : κ
  apply : Kinds.Carrier kind → Kinds.Carrier kind

namespace Edit

/-- Sums that leave the range come back in at its other end. -/
def add (n : Int64) : Edit :=
  ⟨.signed, fun (x : Int64) => x + n⟩

def append (text : String) : Edit :=
  ⟨.text, fun (s : String) => s ++ text⟩

def pushItem (item : String) : Edit :=
  ⟨.texts, fun (items : List String) => items ++ [item]⟩

end Edit

/-- Makes an edit at `index`. -/
def Args.amend (a : Args κ) (index : Nat) (e : Edit κ) : Except DispatchError (Args κ) :=
  a.edit index e.kind e.apply

/-- Reads a result back as a value of kind `k`. -/
def Value.downcast (v : Value κ) (k : κ) :
    Except DispatchError (Kinds.Carrier k) :=
  match v.as? k with
  | some x => .ok x
  | none => .error (.returnType (Kinds.typeName k))

/-- What a call comes to. -/
abbrev Outcome (κ : Type := Kind) [Kinds κ] := Except CallError (Value κ)

/-- The result of a call, which has to be of kind `k`. -/
def Outcome.expect (o : Outcome κ) (k : κ) : Outcome κ :=
  match o with
  | .ok v => match v.downcast k with
    | .ok _ => .ok v
    | .error e => .error (.dispatch e)
  | .error e => .error e

end

end Interception
