import Interception.Proofs.ChainRun

/-!
# Recasting

Interceptors and targets are replaced by others that declare and describe the same but do
with a call whatever they like, over a state of another kind. Wrapping and everything that is
done with a chain take no notice: what comes out is what came out before, recast. So none of
it rests on what an interceptor or a target does.
-/

set_option autoImplicit false

namespace Interception

variable {σ τ α β κ : Type} [Kinds κ]

/-- What each interceptor and each target is to do instead. -/
structure Recasting (σ τ : Type) (κ : Type := Kind) [Kinds κ] where
  intercept : Interceptor σ κ → Invocation κ → Activity τ κ
  serve : Target σ κ → Method → Args κ → τ → Outcome κ × τ

namespace Recasting

variable (f : Recasting σ τ κ)

def interceptor (i : Interceptor σ κ) : Interceptor τ κ where
  name := i.name
  signatures := i.signatures
  intercept := f.intercept i
  origin := i.origin

def target (t : Target σ κ) : Target τ κ where
  descriptor := t.descriptor
  serve := f.serve t

def layer (l : Layer σ κ) : Layer τ κ where
  interceptor := f.interceptor l.interceptor
  signatures := l.signatures

def observable (o : Observable σ κ) : Observable τ κ where
  target := f.target o.target
  layers := o.layers.map f.layer

def entry (e : ChainEntry σ κ) : ChainEntry τ κ where
  interceptor := f.interceptor e.interceptor
  resolved := e.resolved

def chain (c : Chain σ κ) : Chain τ κ where
  entries := c.entries.map f.entry

def move : Move σ κ → Move τ κ
  | .append i => .append (f.interceptor i)
  | .validate => .validate
  | .apply o => .apply (f.observable o)

/-- The result for recast objects, `g` being what becomes of the value. -/
def result (g : α → β) (r : ChainResult σ α κ) : ChainResult τ β κ where
  answer := r.answer.map g
  chain := f.chain r.chain
  journal := r.journal

@[simp] theorem resolve_interceptor (i : Interceptor σ κ) :
    (f.interceptor i).resolve = i.resolve := rfl

@[simp] theorem observable_wear (o : Observable σ κ) (l : Layer σ κ) :
    f.observable (o.wear l) = (f.observable o).wear (f.layer l) := rfl

@[simp] theorem descriptor_observable (o : Observable σ κ) :
    (f.observable o).descriptor = o.descriptor := by
  induction o using Observable.induction_layers with
  | bare t => rfl
  | worn o l ih =>
    rw [observable_wear, Observable.descriptor_wear, Observable.descriptor_wear, ih]
    rfl

theorem wrapResolved_observable (o : Observable σ κ) (i : Interceptor σ κ) (map : SignatureMap) :
    (f.observable o).wrapResolved (f.interceptor i) map = f.observable (o.wrapResolved i map) := by
  rw [Observable.wrapResolved, Observable.wrapResolved, descriptor_observable]
  split <;> rfl

theorem wrap_observable (o : Observable σ κ) (i : Interceptor σ κ) :
    (f.observable o).wrap (f.interceptor i) = (o.wrap i).map f.observable := by
  rw [Observable.wrap, Observable.wrap, resolve_interceptor]
  cases i.resolve with
  | error e => rfl
  | ok map => exact congrArg Except.ok (f.wrapResolved_observable o i map)

theorem resolve_entry (e : ChainEntry σ κ) (position : Nat) :
    (f.entry e).resolve position =
      ((e.resolve position).1, f.entry (e.resolve position).2.1, (e.resolve position).2.2) := by
  cases kept : e.resolved with
  | some map => simp only [ChainEntry.resolve, entry, kept]
  | none =>
    cases fresh : e.interceptor.resolve <;>
      simp only [ChainEntry.resolve, entry, kept, resolve_interceptor, fresh] <;> rfl

/-- A walk along recast entries acts as the walk along the entries did. -/
theorem walk_entries (act : Interceptor σ κ → SignatureMap → α → α)
    (act' : Interceptor τ κ → SignatureMap → β → β) (g : α → β)
    (acts : ∀ i map x, act' (f.interceptor i) map (g x) = g (act i map x))
    (position : Nat) (entries : List (ChainEntry σ κ)) (x : α) :
    Chain.walk act' position (entries.map f.entry) (g x) =
      ((Chain.walk act position entries x).1.map g,
        (Chain.walk act position entries x).2.1.map f.entry,
        (Chain.walk act position entries x).2.2) := by
  induction entries generalizing position x with
  | nil => rfl
  | cons e rest ih =>
    have recast := f.resolve_entry e position
    rcases resolved : e.resolve position with ⟨err | map, e', journal⟩
    · rw [resolved] at recast
      rw [List.map_cons, Chain.walk_cons_of_error recast, Chain.walk_cons_of_error resolved]
      rfl
    · rw [resolved] at recast
      have acted : act' (f.entry e').interceptor map (g x) = g (act e'.interceptor map x) :=
        acts e'.interceptor map x
      rw [List.map_cons, Chain.walk_cons_of_ok recast, Chain.walk_cons_of_ok resolved, acted, ih]
      rfl

theorem applyAll_chain (c : Chain σ κ) (o : Observable σ κ) :
    (f.chain c).applyAll (f.observable o) = f.result f.observable (c.applyAll o) := by
  have walked := f.walk_entries (fun i map o => o.wrapResolved i map)
    (fun i map o => o.wrapResolved i map) f.observable
    (fun i map o => f.wrapResolved_observable o i map) 0 c.entries o
  rw [Chain.applyAll, Chain.walked, chain, walked]
  rfl

theorem validate_chain (c : Chain σ κ) : (f.chain c).validate = f.result id c.validate := by
  have walked := f.walk_entries (fun _ _ x => x) (fun _ _ x => x) (fun x : Unit => x)
    (fun _ _ _ => rfl) 0 c.entries ()
  rw [Chain.validate, Chain.walked, chain, walked]
  rfl

theorem append_chain (c : Chain σ κ) (i : Interceptor σ κ) :
    (f.chain c).append (f.interceptor i) = (f.chain (c.append i).1, (c.append i).2) := by
  simp only [Chain.append, chain, Chain.length, List.length_map, List.map_append, List.map_cons,
    List.map_nil]
  rfl

theorem move_chain (c : Chain σ κ) (x : Move σ κ) :
    (f.chain c).move (f.move x) = (f.chain (c.move x).1, (c.move x).2) := by
  cases x with
  | append i => exact f.append_chain c i
  | validate =>
    simp only [Chain.move, move, validate_chain]
    rfl
  | apply o =>
    simp only [Chain.move, move, applyAll_chain]
    rfl

theorem run_chain (c : Chain σ κ) (moves : List (Move σ κ)) :
    (f.chain c).run (moves.map f.move) = (f.chain (c.run moves).1, (c.run moves).2) := by
  induction moves generalizing c with
  | nil => rfl
  | cons x rest ih =>
    simp only [List.map_cons, Chain.run, move_chain, ih]

end Recasting

end Interception
