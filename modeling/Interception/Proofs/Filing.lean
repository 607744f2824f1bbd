import Mathlib.Data.List.Nodup
import Interception.Proofs.Dispatch

/-!
# What is filed under which name

Resolving goes through the signatures of an interceptor one by one and files what they find.
What a complete map answers can be read off the signatures as a set: it depends on which
signatures there are, and neither on their order nor on how often each occurs. That different
interfaces share a name makes no difference either, for methods are filed under the name.
-/

set_option autoImplicit false

namespace Interception

variable {σ κ : Type} [Kinds κ]

namespace SignatureMap

variable {owner : String} {signatures signatures' : List Signature} {map map' : SignatureMap}

/-- The methods of the routes that start at `name`. -/
theorem methods?_eq_some_iff {name : String} {methods : List Method} :
    map.methods? name = some methods ↔ map.covers name = true ∧
      map.routes.filterMap (fun r => if r.1 == name then some r.2 else none) = methods := by
  unfold methods?
  split <;> simp_all

theorem mem_filterMap_routes_iff {name : String} {m : Method} :
    m ∈ map.routes.filterMap (fun r => if r.1 == name then some r.2 else none) ↔
      (name, m) ∈ map.routes := by
  simp

/-- The map answers as the set of signatures says, each with the method that it finds. -/
structure Files (map : SignatureMap) (signatures : List Signature) : Prop where
  covers_iff : ∀ name, map.covers name = true ↔ ∃ s ∈ signatures, s.interface.name = name
  intercepts_iff : ∀ name m, map.intercepts name m = true ↔
    ∃ s ∈ signatures, s.interface.name = name ∧ s.interface.findMethod? s.method s.params = some m
  methods_of_covers : ∀ name, map.covers name = true → ∃ methods,
    map.methods? name = some methods ∧ methods ≠ [] ∧ methods.Nodup ∧
      ∀ m, m ∈ methods ↔ ∃ s ∈ signatures, s.interface.name = name ∧
        s.interface.findMethod? s.method s.params = some m
  methods_of_not_covers : ∀ name, map.covers name = false → map.methods? name = none
  isEmpty_iff : map.isEmpty = true ↔ signatures = []

theorem exists_methods?_of_covers (resolved : resolve owner signatures = .ok map) {name : String}
    (covered : map.covers name = true) : ∃ methods,
      map.methods? name = some methods ∧ methods ≠ [] ∧ methods.Nodup ∧
        ∀ m, m ∈ methods ↔ ∃ s ∈ signatures, s.interface.name = name ∧
          s.interface.findMethod? s.method s.params = some m := by
  refine ⟨_, methods?_eq_some_iff.mpr ⟨covered, rfl⟩, ?_, ?_, ?_⟩
  · obtain ⟨⟨_, m⟩, filed, named⟩ := List.any_eq_true.mp covered
    apply List.ne_nil_of_mem (a := m)
    exact List.mem_filterMap.mpr ⟨_, filed, if_pos named⟩
  · apply map.nodup.filterMap
    rintro ⟨_, m⟩ ⟨_, m'⟩ k first second
    simp_all
  · intro m
    exact mem_filterMap_routes_iff.trans (mem_routes_iff resolved)

/-- A map that resolving returns files what the signatures find, all of it and nothing else. -/
theorem files_of_resolve (resolved : resolve owner signatures = .ok map) :
    map.Files signatures where
  covers_iff _ := covers_iff resolved
  intercepts_iff _ _ := intercepts_iff resolved
  methods_of_covers _ := exists_methods?_of_covers resolved
  methods_of_not_covers name uncovered := by
    rw [methods?, uncovered]
    rfl
  isEmpty_iff := by
    constructor
    · intro empty
      rw [isEmpty, List.isEmpty_iff] at empty
      apply List.eq_nil_iff_forall_not_mem.mpr
      intro s declared
      have covered := (covers_iff resolved).mpr ⟨s, declared, rfl⟩
      rw [covers, empty] at covered
      cases covered
    · rintro rfl
      cases resolved
      rfl

/-- Two maps give the same answers; what they list under a name may stand in another order. -/
structure Agrees (map map' : SignatureMap) : Prop where
  covers : ∀ name, map.covers name = map'.covers name
  intercepts : ∀ name m, map.intercepts name m = map'.intercepts name m
  methods : ∀ name, Option.Rel List.Perm (map.methods? name) (map'.methods? name)
  isEmpty : map.isEmpty = map'.isEmpty

theorem Files.covers_eq (filed : map.Files signatures) (filed' : map'.Files signatures')
    (same : ∀ s, s ∈ signatures' ↔ s ∈ signatures) (name : String) :
    map.covers name = map'.covers name := by
  rw [Bool.eq_iff_iff, filed.covers_iff, filed'.covers_iff]
  simp only [same]

theorem Files.agrees (filed : map.Files signatures) (filed' : map'.Files signatures')
    (same : ∀ s, s ∈ signatures' ↔ s ∈ signatures) : map.Agrees map' where
  covers := filed.covers_eq filed' same
  intercepts name m := by
    rw [Bool.eq_iff_iff, filed.intercepts_iff, filed'.intercepts_iff]
    simp only [same]
  methods name := by
    have together := filed.covers_eq filed' same name
    cases covered : map.covers name with
    | false =>
      have covered' := together.symm.trans covered
      rw [filed.methods_of_not_covers name covered, filed'.methods_of_not_covers name covered']
      exact .none
    | true =>
      have covered' := together.symm.trans covered
      obtain ⟨methods, listed, _, distinct, found⟩ := filed.methods_of_covers name covered
      obtain ⟨methods', listed', _, distinct', found'⟩ := filed'.methods_of_covers name covered'
      rw [listed, listed']
      apply Option.Rel.some
      apply (List.perm_ext_iff_of_nodup distinct distinct').mpr
      intro m
      rw [found, found']
      simp only [same]
  isEmpty := by
    rw [Bool.eq_iff_iff, filed.isEmpty_iff, filed'.isEmpty_iff]
    simp only [List.eq_nil_iff_forall_not_mem, same]

theorem Agrees.covered_eq (agree : map.Agrees map') (d : TypeDescriptor) :
    map.covered d = map'.covered d := by
  simp only [covered, agree.covers]

end SignatureMap

namespace Layer

variable {i j : Interceptor σ κ} {map map' : SignatureMap}

theorem describe_eq_of_agrees (agree : map.Agrees map') (d : TypeDescriptor) :
    Layer.describe ⟨i, map⟩ d = Layer.describe ⟨j, map'⟩ d := by
  rw [describe, describe, agree.covered_eq]

theorem route_eq_of_agrees (agree : map.Agrees map') (d : TypeDescriptor) (m : Method) :
    Layer.route ⟨i, map⟩ d m = Layer.route ⟨j, map'⟩ d m := by
  have shown : exposes ⟨i, map⟩ d m = exposes ⟨j, map'⟩ d m := by
    simp only [exposes, agree.covered_eq]
  have declared : Layer.intercepts ⟨i, map⟩ d m = Layer.intercepts ⟨j, map'⟩ d m := by
    simp only [Layer.intercepts, agree.covered_eq, agree.intercepts]
  rw [route, route, shown, declared]

end Layer

/-- Resolving is exact, and a matter of the set of signatures. It succeeds if each of them finds
a method and fails otherwise, for the first one that does not. What the map answers is what the
set of signatures says. So the order of signatures, and how often each occurs, makes a difference
for the failure only: the maps of two interceptors that declare the same set answer alike, and
whatever they are put around, the wrappers list the same interfaces in the same order and decide
alike about every method. -/
theorem Interceptor.resolve_files_declared (i : Interceptor σ κ) :
    ((∃ map, i.resolve = .ok map) ↔
      ∀ s ∈ i.signatures, ∃ m, s.interface.findMethod? s.method s.params = some m) ∧
    (∀ e, i.resolve = .error e ↔ ∃ earlier s later, i.signatures = earlier ++ s :: later ∧
      (∀ t ∈ earlier, ∃ m, t.interface.findMethod? t.method t.params = some m) ∧
      s.interface.findMethod? s.method s.params = none ∧
      e = .methodNotFound i.name s.interface.name s.method (", ".intercalate s.params)) ∧
    (∀ map, i.resolve = .ok map → map.Files i.signatures) ∧
    ∀ j : Interceptor σ κ, (∀ s, s ∈ j.signatures ↔ s ∈ i.signatures) →
      ((∃ map, j.resolve = .ok map) ↔ ∃ map, i.resolve = .ok map) ∧
      ∀ map map', i.resolve = .ok map → j.resolve = .ok map' → map.Agrees map' ∧
        ∀ o : Observable σ κ, ∃ p q, o.wrap i = .ok p ∧ o.wrap j = .ok q ∧ (p = o ↔ q = o) ∧
          p.descriptor = q.descriptor ∧
          ∀ m, Layer.route ⟨i, map⟩ o.descriptor m = Layer.route ⟨j, map'⟩ o.descriptor m := by
  have succeeds : ∀ i : Interceptor σ κ, (∃ map, i.resolve = .ok map) ↔
      ∀ s ∈ i.signatures, ∃ m, s.interface.findMethod? s.method s.params = some m :=
    fun _ => SignatureMap.exists_resolve_eq_ok_iff
  refine ⟨succeeds i, ?_, fun map resolved => SignatureMap.files_of_resolve resolved, ?_⟩
  · intro e
    rw [resolve, SignatureMap.resolve_eq_error_iff]
    simp only [FirstFailure, Signature.resolve_eq_error_iff, Signature.exists_resolve_eq_ok_iff]
    rfl
  · intro j same
    constructor
    · rw [succeeds, succeeds]
      simp only [same]
    · intro map map' resolved resolved'
      have agree : map.Agrees map' :=
        (SignatureMap.files_of_resolve resolved).agrees (SignatureMap.files_of_resolve resolved')
          same
      refine ⟨agree, fun o => ⟨_, _, Observable.wrap_of_resolve resolved,
        Observable.wrap_of_resolve resolved', ?_, ?_,
        fun m => Layer.route_eq_of_agrees agree o.descriptor m⟩⟩
      · rw [Observable.wrapResolved_eq_self_iff, Observable.wrapResolved_eq_self_iff,
          agree.covered_eq]
      · rw [Observable.descriptor_wrapResolved, Observable.descriptor_wrapResolved,
          agree.covered_eq, Layer.describe_eq_of_agrees agree]

end Interception
