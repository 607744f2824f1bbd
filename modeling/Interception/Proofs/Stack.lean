import Interception.Observable
import Interception.Proofs.Activity

/-!
# Stacks of layers

An observable is a target under layers that were put on one at a time. A call that
reaches a layer is refused, intercepted or passed; each of the three is one equation
about the observable below, and no later proof looks at how calls are sent through.
-/

set_option autoImplicit false

namespace Interception

variable {σ κ : Type} [Kinds κ]

namespace Layer

variable {l : Layer σ κ} {d : TypeDescriptor} {m : Method}

theorem route_of_not_exposes (hidden : l.exposes d m = false) : l.route d m = .refused := by
  simp [route, hidden]

theorem route_of_intercepts (shown : l.exposes d m = true) (declared : l.intercepts d m = true) :
    l.route d m = .intercepted := by
  simp [route, shown, declared]

theorem route_of_not_intercepts (shown : l.exposes d m = true)
    (undeclared : l.intercepts d m = false) : l.route d m = .passed := by
  simp [route, shown, undeclared]

end Layer

namespace Observable

def wear (o : Observable σ κ) (l : Layer σ κ) : Observable σ κ :=
  { o with layers := l :: o.layers }

/-- More layers around an observable, the outermost first. -/
def wearing (o : Observable σ κ) (layers : List (Layer σ κ)) : Observable σ κ :=
  { o with layers := layers ++ o.layers }

@[simp] theorem wearing_nil (o : Observable σ κ) : o.wearing [] = o := rfl

@[simp] theorem wearing_cons (o : Observable σ κ) (l : Layer σ κ) (layers : List (Layer σ κ)) :
    o.wearing (l :: layers) = (o.wearing layers).wear l := rfl

@[simp] theorem depth_wear (o : Observable σ κ) (l : Layer σ κ) :
    (o.wear l).depth = o.depth + 1 := rfl

@[simp] theorem descriptor_wear (o : Observable σ κ) (l : Layer σ κ) :
    (o.wear l).descriptor = l.describe o.descriptor := rfl

/-- Every observable comes about by putting layers on a target. -/
@[elab_as_elim]
theorem induction_layers {P : Observable σ κ → Prop} (bare : ∀ t, P (ofTarget t))
    (worn : ∀ o l, P o → P (o.wear l)) (o : Observable σ κ) : P o := by
  obtain ⟨t, layers⟩ := o
  induction layers with
  | nil => exact bare t
  | cons l layers ih => exact worn ⟨t, layers⟩ l ih

theorem wear_ne_self (o : Observable σ κ) (l : Layer σ κ) : o.wear l ≠ o := by
  intro same
  have depths := congrArg depth same
  rw [depth_wear] at depths
  exact Nat.succ_ne_self _ depths

variable {o : Observable σ κ} {l : Layer σ κ} {m : Method} {args : Args κ} {s : σ}

theorem visits_invoke_ofTarget (t : Target σ κ) (m : Method) (args : Args κ) (s : σ) :
    ((ofTarget t).invoke m args s).visits = [.target m args] := rfl

theorem invoke_wear_of_not_exposes (hidden : l.exposes o.descriptor m = false) :
    (o.wear l).invoke m args s =
      ⟨.error (.dispatch (.notExposed (o.wear l).descriptor.name m.interface m.name)), s,
        [.refused o.depth m args]⟩ := by
  have route : l.route (o.target.describeUnder o.layers) m = .refused :=
    Layer.route_of_not_exposes hidden
  simp only [invoke, wear, Target.serveUnder, route]
  rfl

theorem invoke_wear_of_intercepts (shown : l.exposes o.descriptor m = true)
    (declared : l.intercepts o.descriptor m = true) :
    (o.wear l).invoke m args s =
      { (l.interceptor.intercept ⟨o.descriptor, m, args⟩).run o.invoke s with
        visits := .layer o.depth m args ::
          ((l.interceptor.intercept ⟨o.descriptor, m, args⟩).run o.invoke s).visits } := by
  have route : l.route (o.target.describeUnder o.layers) m = .intercepted :=
    Layer.route_of_intercepts shown declared
  simp only [invoke, wear, Target.serveUnder, route]
  rfl

theorem invoke_wear_of_not_intercepts (shown : l.exposes o.descriptor m = true)
    (undeclared : l.intercepts o.descriptor m = false) :
    (o.wear l).invoke m args s = o.invoke m args s := by
  have route : l.route (o.target.describeUnder o.layers) m = .passed :=
    Layer.route_of_not_intercepts shown undeclared
  simp only [invoke, wear, Target.serveUnder, route]

theorem height_le_depth (o : Observable σ κ) (m : Method) (args : Args κ) (s : σ) :
    ∀ v ∈ (o.invoke m args s).visits, v.height ≤ o.depth := by
  induction o using induction_layers generalizing m args s with
  | bare t =>
    intro v membership
    rw [visits_invoke_ofTarget, List.mem_singleton] at membership
    subst membership
    exact Nat.le_refl _
  | worn o l below =>
    intro v membership
    cases shown : l.exposes o.descriptor m with
    | false =>
      rw [invoke_wear_of_not_exposes shown, List.mem_singleton] at membership
      subst membership
      exact Nat.le_refl _
    | true =>
      cases declared : l.intercepts o.descriptor m with
      | false =>
        rw [invoke_wear_of_not_intercepts shown declared] at membership
        exact Nat.le_succ_of_le (below m args s v membership)
      | true =>
        rw [invoke_wear_of_intercepts shown declared] at membership
        rcases List.mem_cons.mp membership with rfl | during
        · exact Nat.le_refl _
        · have inside := Activity.forall_visits_run (Activity.callsOnly_true _)
            (fun m _ args s => below m args s) s v during
          exact Nat.le_succ_of_le inside

end Observable

end Interception
