import Interception.Args

/-!
# Operations on argument lists

What can be done to an argument list, as data, and what each of it answers.
-/

set_option autoImplicit false

namespace Interception.Args

inductive Operation (κ : Type := Kind) [Kinds κ] where
  | get (index : Nat) (kind : κ)
  | edit (index : Nat) (e : Edit κ)
  | replace (index : Nat) (v : Value κ)
  | push (v : Value κ)
  | count
  | describe
  | drain
  | downcast (v : Value κ) (kind : κ)

inductive Answer (κ : Type := Kind) [Kinds κ] where
  | outcome (o : Except DispatchError (Value κ))
  | size (n : Nat)
  | count (n : Nat) (isEmpty : Bool)
  | text (s : String)
  | values (vs : List (Value κ))

variable {κ : Type} [Kinds κ]

/-- The answer of an operation and the list after it. -/
def perform (a : Args κ) : Operation κ → Answer κ × Args κ
  | .get index kind => (.outcome ((a.get index kind).map (⟨kind, ·⟩)), a)
  | .edit index e =>
    match a.amend index e with
    | .ok b => (.outcome (b.slot index), b)
    | .error err => (.outcome (.error err), a)
  | .replace index v =>
    match a.replace index v with
    | .ok (previous, b) => (.outcome (.ok previous), b)
    | .error err => (.outcome (.error err), a)
  | .push v => (.size (a.push v).size, a.push v)
  | .count => (.count a.size a.isEmpty, a)
  | .describe => (.text a.describe, a)
  | .drain => (.values a.values, {})
  | .downcast v kind => (.outcome ((v.downcast kind).map (⟨kind, ·⟩)), a)

/-- The answers of operations that follow one another. -/
def performAll : Args κ → List (Operation κ) → List (Answer κ)
  | _, [] => []
  | a, op :: rest => (a.perform op).1 :: performAll (a.perform op).2 rest

end Interception.Args
