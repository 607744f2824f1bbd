import Interception.Proofs.ChainRun
import Interception.Proofs.Exposure
import Interception.Proofs.Resolution
import Interception.Proofs.Tracing

/-!
# What one layer does with a call

The decision is read off the signatures of the interceptor and the description of what
it is wrapped around. The map of resolved signatures and the list of covered interfaces
that a layer works with do not occur in it.
-/

set_option autoImplicit false

namespace Interception

variable {σ κ : Type} [Kinds κ]

namespace Interceptor

/-- Some interface that `d` realizes and that is declared is, or extends, the one that
declares `m`. -/
def Exposes (i : Interceptor σ κ) (d : TypeDescriptor) (m : Method) : Prop :=
  ∃ j ∈ d.allInterfaces, (∃ s ∈ i.signatures, s.interface.name = j.name) ∧
    ∃ k, Interface.Reaches j k ∧ k.name = m.interface

/-- Some signature for an interface that `d` realizes finds `m`. -/
def Declares (i : Interceptor σ κ) (d : TypeDescriptor) (m : Method) : Prop :=
  ∃ s ∈ i.signatures, d.realizes s.interface.name = true ∧
    s.interface.findMethod? s.method s.params = some m

instance (i : Interceptor σ κ) (d : TypeDescriptor) (m : Method) : Decidable (i.Exposes d m) :=
  decidable_of_iff (∃ j ∈ d.allInterfaces, (∃ s ∈ i.signatures, s.interface.name = j.name) ∧
    j.isOrExtends m.interface = true) (by simp only [Exposes, Interface.isOrExtends_iff])

instance (i : Interceptor σ κ) (d : TypeDescriptor) (m : Method) : Decidable (i.Declares d m) :=
  inferInstanceAs (Decidable (∃ s ∈ i.signatures, d.realizes s.interface.name = true ∧
    s.interface.findMethod? s.method s.params = some m))

end Interceptor

section

variable {i : Interceptor σ κ} {map : SignatureMap} {d : TypeDescriptor} {m : Method}

theorem SignatureMap.mem_covered_iff (resolved : i.resolve = .ok map) {j : Interface} :
    j ∈ map.covered d ↔ j ∈ d.allInterfaces ∧ ∃ s ∈ i.signatures, s.interface.name = j.name := by
  rw [covered, List.mem_filter, covers_iff resolved]

theorem SignatureMap.covered_isEmpty_iff (resolved : i.resolve = .ok map) :
    (map.covered d).isEmpty = true ↔
      ∀ s ∈ i.signatures, d.realizes s.interface.name = false := by
  rw [List.isEmpty_iff, List.eq_nil_iff_forall_not_mem]
  simp only [mem_covered_iff resolved, ← Bool.not_eq_true, TypeDescriptor.realizes_iff]
  constructor
  · rintro nothing s declared ⟨j, listed, named⟩
    exact nothing j ⟨listed, s, declared, named.symm⟩
  · rintro nothing j ⟨listed, s, declared, named⟩
    exact nothing s declared ⟨j, listed, named.symm⟩

theorem Layer.exposes_iff_exposes (resolved : i.resolve = .ok map) :
    Layer.exposes ⟨i, map⟩ d m = true ↔ i.Exposes d m := by
  simp only [Layer.exposes_iff, SignatureMap.mem_covered_iff resolved, Interceptor.Exposes,
    Interface.isOrExtends_iff, and_assoc]

theorem Layer.intercepts_iff_declares (resolved : i.resolve = .ok map) :
    Layer.intercepts ⟨i, map⟩ d m = true ↔ i.Declares d m := by
  simp only [Layer.intercepts, List.any_eq_true, SignatureMap.mem_covered_iff resolved,
    SignatureMap.intercepts_iff resolved, Interceptor.Declares, TypeDescriptor.realizes_iff]
  constructor
  · rintro ⟨j, ⟨listed, _⟩, s, declared, named, found⟩
    exact ⟨s, declared, ⟨j, listed, named.symm⟩, found⟩
  · rintro ⟨s, declared, ⟨j, listed, named⟩, found⟩
    exact ⟨j, ⟨listed, s, declared, named.symm⟩, s, declared, named.symm, found⟩

end

namespace Observable

theorem wrap_of_resolve {o : Observable σ κ} {i : Interceptor σ κ} {map : SignatureMap}
    (resolved : i.resolve = .ok map) : o.wrap i = .ok (o.wrapResolved i map) := by
  rw [wrap, resolved]
  rfl

theorem wrapResolved_eq_self_iff {o : Observable σ κ} {i : Interceptor σ κ} {map : SignatureMap} :
    o.wrapResolved i map = o ↔ (map.covered o.descriptor).isEmpty = true := by
  unfold wrapResolved
  split
  · next nothing => exact iff_of_true rfl nothing
  · next something => exact iff_of_false (wear_ne_self o ⟨i, map⟩) something

theorem descriptor_wrapResolved (o : Observable σ κ) (i : Interceptor σ κ) (map : SignatureMap) :
    (o.wrapResolved i map).descriptor =
      if (map.covered o.descriptor).isEmpty then o.descriptor
      else Layer.describe ⟨i, map⟩ o.descriptor := by
  unfold wrapResolved
  split <;> rfl

theorem wrap_of_realizes {o : Observable σ κ} {i : Interceptor σ κ} {map : SignatureMap}
    (resolved : i.resolve = .ok map) {s : Signature} (declared : s ∈ i.signatures)
    (realized : o.descriptor.realizes s.interface.name = true) :
    o.wrap i = .ok (o.wear ⟨i, map⟩) := by
  rw [wrap_of_resolve resolved]
  refine congrArg Except.ok (if_neg ?_)
  intro nothing
  rw [SignatureMap.covered_isEmpty_iff resolved] at nothing
  rw [nothing s declared] at realized
  cases realized

/-- The decision of one layer. Wrapping adds no layer exactly if nothing declared is
realized. The layer refuses what is not exposed, runs the interceptor once on what is
declared, with the wrapped observable as receiver and the call as it came, and passes
everything else on; all further visits are below it. -/
theorem wrap_dispatch (o : Observable σ κ) (i : Interceptor σ κ)
    (found : ∀ s ∈ i.signatures, ∃ m, s.interface.findMethod? s.method s.params = some m) :
    ∃ w, o.wrap i = .ok w ∧
      (w = o ↔ ∀ s ∈ i.signatures, o.descriptor.realizes s.interface.name = false) ∧
      (w ≠ o → w.descriptor.name = wrapperName o.descriptor.name ∧ ∀ m args s,
        (¬i.Exposes o.descriptor m →
          w.invoke m args s =
            ⟨.error (.dispatch (.notExposed w.descriptor.name m.interface m.name)), s,
              [.refused o.depth m args]⟩) ∧
        (i.Exposes o.descriptor m → i.Declares o.descriptor m →
          ∃ reply, (i.intercept ⟨o.descriptor, m, args⟩).run o.invoke s = reply ∧
            w.invoke m args s =
              ⟨reply.outcome, reply.state, .layer o.depth m args :: reply.visits⟩ ∧
            ∀ v ∈ reply.visits, v.height ≤ o.depth) ∧
        (i.Exposes o.descriptor m → ¬i.Declares o.descriptor m →
          w.invoke m args s = o.invoke m args s ∧
            ∀ v ∈ (o.invoke m args s).visits, v.height ≤ o.depth)) := by
  obtain ⟨map, resolved⟩ : ∃ map, i.resolve = .ok map :=
    SignatureMap.exists_resolve_eq_ok_iff.mpr found
  refine ⟨o.wrapResolved i map, wrap_of_resolve resolved, ?_⟩
  rw [← SignatureMap.covered_isEmpty_iff resolved]
  by_cases nothing : (map.covered o.descriptor).isEmpty = true
  · have same : o.wrapResolved i map = o := if_pos nothing
    refine ⟨iff_of_true same nothing, ?_⟩
    intro different
    exact absurd same different
  · have worn : o.wrapResolved i map = o.wear ⟨i, map⟩ := if_neg nothing
    rw [worn]
    refine ⟨iff_of_false (wear_ne_self o _) nothing, ?_⟩
    intro _
    refine ⟨rfl, fun m args s => ⟨?_, ?_, ?_⟩⟩
    · intro hidden
      rw [← Layer.exposes_iff_exposes resolved, Bool.not_eq_true] at hidden
      exact invoke_wear_of_not_exposes hidden
    · intro shown declared
      rw [← Layer.exposes_iff_exposes resolved] at shown
      rw [← Layer.intercepts_iff_declares resolved] at declared
      refine ⟨_, rfl, invoke_wear_of_intercepts shown declared, ?_⟩
      exact Activity.forall_visits_run (Activity.callsOnly_true _)
        (fun m _ args s => o.height_le_depth m args s) s
    · intro shown undeclared
      rw [← Layer.exposes_iff_exposes resolved] at shown
      rw [← Layer.intercepts_iff_declares resolved, Bool.not_eq_true] at undeclared
      exact ⟨invoke_wear_of_not_intercepts shown undeclared, o.height_le_depth m args s⟩

open Tracing in
/-- An inherited method is intercepted where its heir is declared, another method of the
heir is passed, and a method of an interface that nobody knows is refused. -/
theorem wrap_dispatch_worker :
    ∃ w, (ofTarget worker).wrap (tracer "A" [⟨executor, "close", []⟩]) = .ok w ∧
      w.invoke close {} [] =
        ⟨.ok (.ofSize 1), [.before "A", .served "close", .after "A"],
          [.layer 0 close {}, .target close ⟨[.ofText "A"]⟩]⟩ ∧
      w.invoke update {} [] = (ofTarget worker).invoke update {} [] ∧
      w.invoke ⟨"Driver", "start", []⟩ {} [] =
        ⟨.error (.dispatch (.notExposed "Plugin<MockExecutor>" "Driver" "start")), [],
          [.refused 0 ⟨"Driver", "start", []⟩ {}]⟩ := by
  obtain ⟨w, wrapped, same, decision⟩ :=
    wrap_dispatch (ofTarget worker) (tracer "A" [⟨executor, "close", []⟩]) (by
      intro s declared
      rw [List.mem_singleton.mp declared]
      exact ⟨close, rfl⟩)
  have different : w ≠ ofTarget worker := by
    intro unwrapped
    have realized := same.mp unwrapped ⟨executor, "close", []⟩ List.mem_cons_self
    revert realized
    decide
  obtain ⟨named, decided⟩ := decision different
  refine ⟨w, wrapped, ?_, ?_, ?_⟩
  · obtain ⟨reply, ran, invoked, _⟩ := (decided close {} []).2.1 (by decide) (by decide)
    subst ran
    exact invoked
  · exact ((decided update {} []).2.2 (by decide) (by decide)).1
  · rw [(decided ⟨"Driver", "start", []⟩ {} []).1 (by decide), named]
    rfl

end Observable

end Interception
