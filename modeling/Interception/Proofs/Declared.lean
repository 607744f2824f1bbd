import Interception.Proofs.Narrowing

/-!
# Declared methods are intercepted

An interceptor is asked only about methods that its layer exposes, and exposure goes by the
interface that declares a method, not by the one it was looked for on. A method that is
inherited is declared further up. Where methods name the interface that lists them and
names are unique, the interface that was looked on reaches the one that declares, so nothing
that a signature finds on a realized interface is refused.
-/

set_option autoImplicit false

namespace Interception

variable {σ κ : Type} [Kinds κ]

open Interface

/-- Every method that is listed on an interface reached from `roots` names that interface as
the one that declares it. -/
def Interface.MethodsNamed (roots : List Interface) : Prop :=
  ∀ j, ReachedFrom roots j → ∀ m ∈ j.methods, m.interface = j.name

/-- The method that a signature finds is declared by what the interface of the signature is
or extends. -/
theorem Signature.reaches_of_find? {s : Signature} {m : Method} (found : s.find? = some m)
    (named : MethodsNamed [s.interface]) :
    ∃ j, Reaches s.interface j ∧ j.name = m.interface := by
  obtain ⟨⟨j, reached, listed⟩, _⟩ := listed_of_findMethod? found
  have own : m.interface = j.name := named j ⟨s.interface, List.mem_cons_self, reached⟩ m listed
  exact ⟨j, reached, own.symm⟩

namespace Interceptor

variable {i : Interceptor σ κ} {d : TypeDescriptor} {s : Signature} {m : Method}

theorem declares_of_find? (declared : s ∈ i.signatures)
    (realized : d.realizes s.interface.name = true) (found : s.find? = some m) :
    i.Declares d m :=
  ⟨s, declared, realized, found⟩

theorem exposes_of_find? (unique : UniqueNames (d.declared ++ i.interfaces))
    (named : MethodsNamed i.interfaces) (declared : s ∈ i.signatures)
    (realized : d.realizes s.interface.name = true) (found : s.find? = some m) :
    i.Exposes d m := by
  have named' : MethodsNamed [s.interface] := by
    rintro j ⟨root, inside, reached⟩
    rw [List.mem_singleton] at inside
    subst inside
    exact named j ⟨s.interface, mem_interfaces declared, reached⟩
  obtain ⟨j, reached, shared⟩ := Signature.reaches_of_find? found named'
  obtain ⟨k, listed, same⟩ := TypeDescriptor.realizes_iff.mp realized
  have covered : k = s.interface := eq_interface_of_name_eq unique declared listed same
  subst covered
  exact ⟨s.interface, listed, ⟨s, declared, rfl⟩, j, reached, shared⟩

end Interceptor

namespace Observable

variable {o : Observable σ κ} {l : Layer σ κ} {m : Method}

/-- A layer that intercepts a call runs its interceptor and does nothing else with it. -/
theorem visits_at_depth_of_intercepts (shown : l.exposes o.descriptor m = true)
    (declared : l.intercepts o.descriptor m = true) (args : Args κ) (s : σ) :
    ((o.wear l).invoke m args s).visits.filter (fun v => decide (v.height = (o.wear l).depth)) =
      [.layer o.depth m args] := by
  have below : ∀ v ∈ ((l.interceptor.intercept ⟨o.descriptor, m, args⟩).run o.invoke s).visits,
      v.height ≤ o.depth :=
    Activity.forall_visits_run (Activity.callsOnly_true _)
      (fun m _ args s => o.height_le_depth m args s) s
  have nothing : ((l.interceptor.intercept ⟨o.descriptor, m, args⟩).run o.invoke s).visits.filter
      (fun v => decide (v.height = (o.wear l).depth)) = [] := by
    rw [List.filter_eq_nil_iff]
    intro v inside
    have lower : v.height ≤ o.depth := below v inside
    have apart : v.height ≠ (o.wear l).depth := by
      rw [depth_wear]
      omega
    rw [decide_eq_true_iff]
    exact apart
  rw [invoke_wear_of_intercepts shown declared, List.filter_cons, nothing]
  simp [Visit.height]

end Observable

/-- No signature is declared in vain. If what is wrapped realizes the interface of a
signature, the wrapper has a layer of its own, lets the method through that the signature
finds, and hands every call of it to the interceptor, once and with the wrapped object as
receiver. -/
theorem Observable.wrap_intercepts_declared {o : Observable σ κ} {i : Interceptor σ κ}
    {map : SignatureMap} (resolved : i.resolve = .ok map)
    (unique : UniqueNames (o.descriptor.declared ++ i.interfaces))
    (named : MethodsNamed i.interfaces) {s : Signature} (declared : s ∈ i.signatures)
    (realized : o.descriptor.realizes s.interface.name = true) :
    ∃ w m, o.wrap i = .ok w ∧ w.depth = o.depth + 1 ∧
      s.interface.findMethod? s.method s.params = some m ∧ w.admits m = true ∧
      ∀ args t, ∃ reply, (i.intercept ⟨o.descriptor, m, args⟩).run o.invoke t = reply ∧
        w.invoke m args t = ⟨reply.outcome, reply.state, .layer o.depth m args :: reply.visits⟩ ∧
        (w.invoke m args t).visits.filter (fun v => decide (v.height = w.depth)) =
          [.layer o.depth m args] := by
  obtain ⟨m, found⟩ := SignatureMap.exists_resolve_eq_ok_iff.mp ⟨map, resolved⟩ s declared
  have shown : Layer.exposes ⟨i, map⟩ o.descriptor m = true :=
    (Layer.exposes_iff_exposes resolved).mpr
      (Interceptor.exposes_of_find? unique named declared realized found)
  have intercepted : Layer.intercepts ⟨i, map⟩ o.descriptor m = true :=
    (Layer.intercepts_iff_declares resolved).mpr
      (Interceptor.declares_of_find? declared realized found)
  have covering : ¬(map.covered o.descriptor).isEmpty = true := by
    intro nothing
    rw [SignatureMap.covered_isEmpty_iff resolved] at nothing
    rw [nothing s declared] at realized
    cases realized
  have worn : o.wrapResolved i map = o.wear ⟨i, map⟩ := if_neg covering
  refine ⟨o.wear ⟨i, map⟩, m, ?_, rfl, found, shown, ?_⟩
  · rw [wrap_of_resolve resolved, worn]
  · intro args t
    exact ⟨_, rfl, invoke_wear_of_intercepts shown intercepted,
      visits_at_depth_of_intercepts shown intercepted args t⟩

section

open Tracing

/-- The worker below a layer that is interested in another method. -/
def Tracing.watched : Observable (List Mark) :=
  (Observable.ofTarget worker).wear
    ⟨tracer "B" [⟨executor, "update", ["String", "i64"]⟩], ⟨[("Executor", update)], by simp⟩⟩

theorem Tracing.uniqueNames_watched :
    UniqueNames (watched.descriptor.declared ++
      (tracer "A" [⟨executor, "close", []⟩]).interfaces) := by
  apply uniqueNames_of_hierarchies
  change ∀ i ∈ [executor, closeable, executor, closeable], i = executor ∨ i = closeable
  simp

theorem Tracing.methodsNamed_executor : MethodsNamed [executor] := by
  rintro j ⟨root, inside, reached⟩ m listed
  rw [List.mem_singleton.mp inside, ← mem_hierarchy_iff] at reached
  change j ∈ [executor, closeable] at reached
  simp only [List.mem_cons, List.not_mem_nil, or_false] at reached
  rcases reached with rfl | rfl
  · rw [List.mem_singleton.mp listed]
    rfl
  · rw [List.mem_singleton.mp listed]
    rfl

/-- The method is inherited, and the object that is wrapped is itself a wrapper. -/
theorem Observable.wrap_intercepts_declared_close :
    ∃ w, watched.wrap (tracer "A" [⟨executor, "close", []⟩]) = .ok w ∧ w.admits close = true ∧
      w.invoke close {} [] =
        ⟨.ok (.ofSize 1), [.before "A", .served "close", .after "A"],
          [.layer 1 close {}, .target close ⟨[.ofText "A"]⟩]⟩ := by
  have resolved :
      (tracer "A" [⟨executor, "close", []⟩]).resolve = .ok ⟨[("Executor", close)], by simp⟩ := rfl
  obtain ⟨w, m, wrapped, _, found, admitted, calls⟩ :=
    wrap_intercepts_declared resolved uniqueNames_watched methodsNamed_executor
      List.mem_cons_self (by decide)
  obtain rfl : close = m := Option.some.inj found
  obtain ⟨reply, ran, invoked, _⟩ := calls {} []
  subst ran
  exact ⟨w, wrapped, admitted, invoked⟩

end

end Interception
