import Interception.Proofs.Hierarchy
import Interception.Proofs.Stack

/-!
# Exposure through a stack

A layer lists interfaces that it finds in the description of what lies below, and
that description is itself a list made by a layer. A listed interface is always
reached from one listed below (`reaches_of_mem_allInterfaces`), so what the outermost
layer exposes is exposed all the way down, for any hierarchy and also where names
clash.
-/

set_option autoImplicit false

namespace Interception

variable {σ κ : Type} [Kinds κ]

theorem Layer.exposes_iff {l : Layer σ κ} {d : TypeDescriptor} {m : Method} :
    l.exposes d m = true ↔ ∃ j ∈ l.signatures.covered d, j.isOrExtends m.interface = true :=
  List.any_eq_true

theorem Layer.declared_describe (l : Layer σ κ) (d : TypeDescriptor) :
    (l.describe d).declared = l.signatures.covered d := by
  simp [TypeDescriptor.declared, TypeDescriptor.levels, describe]

theorem Layer.exposes_below {upper lower : Layer σ κ} {d : TypeDescriptor} {m : Method}
    (shown : upper.exposes (lower.describe d) m = true) : lower.exposes d m = true := by
  obtain ⟨j, covered, found⟩ := exposes_iff.mp shown
  have listed : j ∈ (lower.describe d).allInterfaces := (List.mem_filter.mp covered).1
  obtain ⟨i, declared, reached⟩ := TypeDescriptor.reaches_of_mem_allInterfaces listed
  rw [declared_describe] at declared
  exact exposes_iff.mpr ⟨i, declared, Interface.isOrExtends_of_reaches reached found⟩

namespace Observable

/-- Whether a call of `m` gets past the outermost layer. Without layers there is
nothing in its way. -/
def admits (o : Observable σ κ) (m : Method) : Bool :=
  match o.layers with
  | [] => true
  | l :: below => l.exposes (o.target.describeUnder below) m

@[simp] theorem admits_ofTarget (t : Target σ κ) (m : Method) : (ofTarget t).admits m = true := rfl

@[simp] theorem admits_wear (o : Observable σ κ) (l : Layer σ κ) (m : Method) :
    (o.wear l).admits m = l.exposes o.descriptor m := rfl

theorem admits_of_admits_wear {o : Observable σ κ} {l : Layer σ κ} {m : Method}
    (admitted : (o.wear l).admits m = true) : o.admits m = true := by
  induction o using induction_layers with
  | bare t => rfl
  | worn o lower _ => exact Layer.exposes_below admitted

theorem admits_of_admits_wearing {o : Observable σ κ} {layers : List (Layer σ κ)} {m : Method}
    (admitted : (o.wearing layers).admits m = true) : o.admits m = true := by
  induction layers with
  | nil => exact admitted
  | cons l layers ih => exact ih (admits_of_admits_wear admitted)

theorem invoke_of_not_admits {o : Observable σ κ} {m : Method} (refused : o.admits m = false)
    (args : Args κ) (s : σ) :
    o.invoke m args s =
      ⟨.error (.dispatch (.notExposed o.descriptor.name m.interface m.name)), s,
        [.refused (o.depth - 1) m args]⟩ := by
  induction o using induction_layers with
  | bare t => cases refused
  | worn o l _ => exact invoke_wear_of_not_exposes refused

/-- Every interceptor of the stack calls its receiver by making the captured call only. -/
def ProceedsOnly (o : Observable σ κ) : Prop :=
  ∀ l ∈ o.layers, ∀ i : Invocation κ, (l.interceptor.intercept i).CallsOnly (· = i.method)

theorem not_isRefusal_of_admits {o : Observable σ κ} {m : Method} (proceeds : o.ProceedsOnly)
    (admitted : o.admits m = true) (args : Args κ) (s : σ) :
    ∀ v ∈ (o.invoke m args s).visits, v.isRefusal = false := by
  induction o using induction_layers generalizing args s with
  | bare t =>
    intro v membership
    rw [visits_invoke_ofTarget, List.mem_singleton] at membership
    rw [membership]
    rfl
  | worn o l ih =>
    have below : ∀ args s, ∀ v ∈ (o.invoke m args s).visits, v.isRefusal = false :=
      ih (fun k inside => proceeds k (List.mem_cons_of_mem l inside))
        (admits_of_admits_wear admitted)
    have shown : l.exposes o.descriptor m = true := admitted
    cases declared : l.intercepts o.descriptor m with
    | false =>
      rw [invoke_wear_of_not_intercepts shown declared]
      exact below args s
    | true =>
      rw [invoke_wear_of_intercepts shown declared]
      intro v membership
      rcases List.mem_cons.mp membership with rfl | during
      · rfl
      · -- The interceptor may call its receiver often, but always with the captured method.
        have calls := proceeds l List.mem_cons_self ⟨o.descriptor, m, args⟩
        have captured : ∀ m', m' = m → ∀ args s, ∀ v ∈ (o.invoke m' args s).visits,
            v.isRefusal = false := by
          rintro m' rfl
          exact below
        exact Activity.forall_visits_run calls captured s v during

/-- Exposure only narrows towards the outside. A method that gets past the outermost
layer is refused by none below; if interceptors do nothing to their receivers but
proceed, the only refusal there can be is that of the outermost layer, and then it is
all that happens. -/
theorem exposure_monotone (o : Observable σ κ) (m : Method) :
    (o.admits m = true → ∀ (p : Observable σ κ) layers, o = p.wearing layers → p.admits m = true) ∧
    (o.admits m = false → ∀ args s, o.invoke m args s =
      ⟨.error (.dispatch (.notExposed o.descriptor.name m.interface m.name)), s,
        [.refused (o.depth - 1) m args]⟩) ∧
    (o.ProceedsOnly → ∀ args s, ∀ v ∈ (o.invoke m args s).visits, v.isRefusal = true →
      o.admits m = false ∧ v = .refused (o.depth - 1) m args ∧
      (o.invoke m args s).visits = [v]) := by
  refine ⟨?_, invoke_of_not_admits, ?_⟩
  · rintro admitted p layers rfl
    exact admits_of_admits_wearing admitted
  · intro proceeds args s v membership refusal
    have refused : o.admits m = false := by
      rw [← Bool.not_eq_true]
      intro admitted
      rw [not_isRefusal_of_admits proceeds admitted args s v membership] at refusal
      cases refusal
    have visits := congrArg Reply.visits (invoke_of_not_admits refused args s)
    rw [visits, List.mem_singleton] at membership
    subst membership
    exact ⟨refused, rfl, visits⟩

end Observable

end Interception
