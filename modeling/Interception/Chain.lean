import Interception.Event
import Interception.Observable

/-!
# Chains

Interceptors in the order of their registration. The first one is wrapped around
a target directly, the last one ends up outermost. What an interceptor declares
is resolved when it is first needed; success is kept with the entry, failure is
not, so it comes up again every time.
-/

set_option autoImplicit false

namespace Interception

structure ChainEntry (σ : Type) (κ : Type := Kind) [Kinds κ] where
  interceptor : Interceptor σ κ
  resolved : Option SignatureMap := none

structure Chain (σ : Type) (κ : Type := Kind) [Kinds κ] where
  entries : List (ChainEntry σ κ) := []

/-- The answer of a chain, the chain with what it has learnt, and its report. -/
structure ChainResult (σ α : Type) (κ : Type := Kind) [Kinds κ] where
  answer : Except PluginError α
  chain : Chain σ κ
  journal : Journal

namespace ChainEntry

variable {σ κ : Type} [Kinds κ]

/-- The resolved signatures of the entry at `position`, and the entry that keeps them. -/
def resolve (e : ChainEntry σ κ) (position : Nat) :
    Except PluginError SignatureMap × ChainEntry σ κ × Journal :=
  match e.resolved with
  | some map => (.ok map, e, {})
  | none =>
    let reading : Reading := ⟨position, e.interceptor.origin⟩
    match e.interceptor.resolve with
    | .ok map =>
      (.ok map, { e with resolved := some map }, ⟨[.resolved e.interceptor.name], [reading]⟩)
    | .error err =>
      (.error err, e, ⟨[.resolutionFailed e.interceptor.name err], [reading]⟩)

end ChainEntry

namespace Chain

variable {σ α κ : Type} [Kinds κ]

def interceptors (c : Chain σ κ) : List (Interceptor σ κ) :=
  c.entries.map (·.interceptor)

def length (c : Chain σ κ) : Nat :=
  c.entries.length

def isEmpty (c : Chain σ κ) : Bool :=
  c.entries.isEmpty

/-- The same interceptor may be appended again and counts again. -/
def append (c : Chain σ κ) (i : Interceptor σ κ) : Chain σ κ × Journal :=
  (⟨c.entries ++ [{ interceptor := i }]⟩, .event (.appending i.name c.length))

/-- Goes through entries in order and lets each resolved one act on `x`. The first
entry that does not resolve ends the walk; the entries behind it are not looked at. -/
def walk (act : Interceptor σ κ → SignatureMap → α → α) :
    Nat → List (ChainEntry σ κ) → α → Except PluginError α × List (ChainEntry σ κ) × Journal
  | _, [], x => (.ok x, [], {})
  | position, e :: rest, x =>
    match e.resolve position with
    | (.error err, e', journal) => (.error err, e' :: rest, journal)
    | (.ok map, e', journal) =>
      let (answer, rest', more) := walk act (position + 1) rest (act e'.interceptor map x)
      (answer, e' :: rest', journal ++ more)

def walked (c : Chain σ κ) (act : Interceptor σ κ → SignatureMap → α → α) (x : α) :
    ChainResult σ α κ :=
  let (answer, entries, journal) := walk act 0 c.entries x
  ⟨answer, ⟨entries⟩, journal⟩

/-- Wraps every interceptor around `o`, in order. -/
def applyAll (c : Chain σ κ) (o : Observable σ κ) : ChainResult σ (Observable σ κ) κ :=
  c.walked (fun i map o => o.wrapResolved i map) o

/-- Resolves every entry now. -/
def validate (c : Chain σ κ) : ChainResult σ Unit κ :=
  c.walked (fun _ _ x => x) ()

@[simp] theorem entries_append (c : Chain σ κ) (i : Interceptor σ κ) :
    (c.append i).1.entries = c.entries ++ [{ interceptor := i }] := rfl

@[simp] theorem length_append (c : Chain σ κ) (i : Interceptor σ κ) :
    (c.append i).1.length = c.length + 1 := by
  simp [length]

end Chain

end Interception
