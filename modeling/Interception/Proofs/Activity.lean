import Interception.Interceptor

/-!
# What a program can do to its receiver

A program touches its receiver by calls only. A bound on the methods it calls
therefore bounds everything that can come to pass below it, whatever the receiver
answers and whatever the state is.
-/

set_option autoImplicit false

namespace Interception

variable {σ κ : Type} [Kinds κ]

/-- How far up a visit took place: a target stands at the bottom. -/
def Visit.height : Visit κ → Nat
  | layer below _ _ => below + 1
  | refused below _ _ => below + 1
  | target _ _ => 0

def Visit.isRefusal : Visit κ → Bool
  | refused _ _ _ => true
  | layer _ _ _ | target _ _ => false

def Visit.isTarget : Visit κ → Bool
  | target _ _ => true
  | layer _ _ _ | refused _ _ _ => false

namespace Activity

/-- Every call of the program is of a method that `p` admits. -/
def CallsOnly (p : Method → Prop) : Activity σ κ → Prop
  | finish _ => True
  | read next => ∀ s, (next s).CallsOnly p
  | write _ next => next.CallsOnly p
  | call m _ next => p m ∧ ∀ o, (next o).CallsOnly p

/-- The program makes at most one call, whatever the method. -/
def CallsAtMostOnce : Activity σ κ → Prop
  | finish _ => True
  | read next => ∀ s, (next s).CallsAtMostOnce
  | write _ next => next.CallsAtMostOnce
  | call _ _ next => ∀ o, (next o).CallsOnly fun _ => False

theorem callsOnly_true (a : Activity σ κ) : a.CallsOnly fun _ => True := by
  induction a with
  | finish _ => exact trivial
  | read _ ih => exact ih
  | write _ _ ih => exact ih
  | call _ _ _ ih => exact ⟨trivial, ih⟩

/-- Receivers that agree on the methods that are called make no difference. -/
theorem run_congr {p : Method → Prop} {receiver receiver' : Method → Args κ → σ → Reply σ κ}
    {a : Activity σ κ} (calls : a.CallsOnly p) (same : ∀ m, p m → receiver m = receiver' m)
    (s : σ) : a.run receiver s = a.run receiver' s := by
  induction a generalizing s with
  | finish outcome => rfl
  | read next ih => exact ih s (calls s) s
  | write t next ih => exact ih calls t
  | call m args next ih =>
    obtain ⟨admitted, later⟩ := calls
    simp only [run, same m admitted, ih _ (later _)]

/-- What holds of all visits below holds of all visits of a run. -/
theorem forall_visits_run {p : Method → Prop} {good : Visit κ → Prop}
    {receiver : Method → Args κ → σ → Reply σ κ} {a : Activity σ κ} (calls : a.CallsOnly p)
    (below : ∀ m, p m → ∀ args s, ∀ v ∈ (receiver m args s).visits, good v) (s : σ) :
    ∀ v ∈ (a.run receiver s).visits, good v := by
  induction a generalizing s with
  | finish outcome =>
    intro v membership
    cases membership
  | read next ih => exact ih s (calls s) s
  | write t next ih => exact ih calls t
  | call m args next ih =>
    intro v membership
    obtain ⟨admitted, later⟩ := calls
    rcases List.mem_append.mp membership with during | after
    · exact below m admitted args s v during
    · exact ih _ (later _) _ v after

end Activity

end Interception
