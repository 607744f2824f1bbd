import Interception.Args
import Interception.Signature
import Interception.TypeDescriptor

/-!
# Interceptors

What an interceptor does with a call is a program: it may read and change the
state, call the receiver, and go on with what that call came to, until it
finishes with an outcome. A program knows its receiver by its description only,
so every call it makes can be seen.
-/

set_option autoImplicit false

namespace Interception

/-- A call on its way: whom it is for, which method, which arguments. -/
structure Invocation (κ : Type := Kind) [Kinds κ] where
  receiver : TypeDescriptor
  method : Method
  args : Args κ

/-- How a method is written inside a description. -/
def Method.describe (m : Method) : String :=
  "Method \x7b interface: " ++ Text.quote m.interface ++ ", name: " ++ Text.quote m.name
    ++ ", params: [" ++ ", ".intercalate (m.params.map Text.quote) ++ "] \x7d"

section

variable {κ : Type} [Kinds κ]

namespace Invocation

def describe (i : Invocation κ) : String :=
  "Invocation \x7b target: " ++ Text.quote i.receiver.name ++ ", method: " ++ i.method.describe
    ++ ", args: " ++ i.args.describe ++ " \x7d"

def push (i : Invocation κ) (v : Value κ) : Invocation κ :=
  { i with args := i.args.push v }

end Invocation

/-- What happened during a call, in order of begin: an interceptor ran or a layer
refused, with how many layers still below its own, or the target was reached. -/
inductive Visit (κ : Type := Kind) [Kinds κ] where
  | layer (below : Nat) (method : Method) (args : Args κ)
  | refused (below : Nat) (method : Method) (args : Args κ)
  | target (method : Method) (args : Args κ)

instance [DecidableEq (Args κ)] : DecidableEq (Visit κ)
  | .layer below m args, .layer below' m' args' =>
    decidable_of_decidable_of_iff (p := below = below' ∧ m = m' ∧ args = args') (by simp)
  | .refused below m args, .refused below' m' args' =>
    decidable_of_decidable_of_iff (p := below = below' ∧ m = m' ∧ args = args') (by simp)
  | .target m args, .target m' args' =>
    decidable_of_decidable_of_iff (p := m = m' ∧ args = args') (by simp)
  | .layer .., .refused .. | .layer .., .target .. | .refused .., .layer ..
  | .refused .., .target .. | .target .., .layer .. | .target .., .refused .. => isFalse nofun

/-- What a call leaves behind. -/
structure Reply (σ : Type) (κ : Type := Kind) [Kinds κ] where
  outcome : Outcome κ
  state : σ
  visits : List (Visit κ) := []

inductive Activity (σ : Type) (κ : Type := Kind) [Kinds κ] where
  | finish (outcome : Outcome κ)
  | read (next : σ → Activity σ κ)
  | write (state : σ) (next : Activity σ κ)
  | call (method : Method) (args : Args κ) (next : Outcome κ → Activity σ κ)

namespace Activity

variable {σ : Type}

/-- Runs a program against a receiver. -/
def run (receiver : Method → Args κ → σ → Reply σ κ) : Activity σ κ → σ → Reply σ κ
  | finish outcome, s => ⟨outcome, s, []⟩
  | read next, s => (next s).run receiver s
  | write state next, _ => next.run receiver state
  | call method args next, s =>
    let answer := receiver method args s
    let rest := (next answer.outcome).run receiver answer.state
    { rest with visits := answer.visits ++ rest.visits }

/-- Changes the state and goes on. -/
def modify (f : σ → σ) (next : Activity σ κ) : Activity σ κ :=
  read fun s => write (f s) next

/-- Makes the captured call and finishes with what it comes to. -/
def proceed (i : Invocation κ) : Activity σ κ :=
  call i.method i.args finish

@[simp] theorem run_finish (receiver : Method → Args κ → σ → Reply σ κ) (o : Outcome κ) (s : σ) :
    (finish o).run receiver s = ⟨o, s, []⟩ := rfl

@[simp] theorem run_read (receiver : Method → Args κ → σ → Reply σ κ) (next : σ → Activity σ κ)
    (s : σ) : (read next).run receiver s = (next s).run receiver s := rfl

@[simp] theorem run_write (receiver : Method → Args κ → σ → Reply σ κ) (t : σ) (next : Activity σ κ)
    (s : σ) : (write t next).run receiver s = next.run receiver t := rfl

@[simp] theorem run_modify (receiver : Method → Args κ → σ → Reply σ κ) (f : σ → σ)
    (next : Activity σ κ) (s : σ) : (modify f next).run receiver s = next.run receiver (f s) := rfl

@[simp] theorem run_proceed (receiver : Method → Args κ → σ → Reply σ κ) (i : Invocation κ)
    (s : σ) : (proceed i).run receiver s = receiver i.method i.args s := by
  simp [proceed, run]

end Activity

/-- `origin` tells which definition an instance was made from; no rule looks at it. -/
structure Interceptor (σ : Type) (κ : Type := Kind) [Kinds κ] where
  name : String
  signatures : List Signature
  intercept : Invocation κ → Activity σ κ
  origin : String := ""

def Interceptor.resolve {σ : Type} (i : Interceptor σ κ) : Except PluginError SignatureMap :=
  SignatureMap.resolve i.name i.signatures

end

end Interception
