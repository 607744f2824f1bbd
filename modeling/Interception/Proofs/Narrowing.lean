import Interception.Proofs.Dispatch
import Interception.Proofs.UniqueNames

/-!
# Narrowing along a chain

Every entry of a chain sees what the entries before it have left: it adds a layer if
something it declares is still realized, and the layer realizes what is reached from that.
Names are taken to be unique here. Without this a layer may lose an interface that it
reaches, namely where the walk below stopped at the name of another one.
-/

set_option autoImplicit false

namespace Interception

variable {σ κ : Type} [Kinds κ]

open Interface

/-- The interfaces that methods are declared of. -/
def Interceptor.interfaces (i : Interceptor σ κ) : List Interface :=
  i.signatures.map (·.interface)

theorem Interceptor.mem_interfaces {i : Interceptor σ κ} {s : Signature}
    (declared : s ∈ i.signatures) : s.interface ∈ i.interfaces :=
  List.mem_map_of_mem declared

section

variable {i : Interceptor σ κ} {map : SignatureMap} {d : TypeDescriptor}

theorem Layer.reachedFrom_of_mem_declared {l : Layer σ κ} {j : Interface}
    (declared : j ∈ (l.describe d).declared) : ReachedFrom d.declared j := by
  rw [declared_describe] at declared
  exact TypeDescriptor.reachedFrom_of_mem_allInterfaces (List.mem_filter.mp declared).1

theorem Layer.uniqueNames_describe {l : Layer σ κ} (unique : UniqueNames d.declared) :
    UniqueNames (l.describe d).declared :=
  unique.of_roots fun _ declared => reachedFrom_of_mem_declared declared

/-- An interface below that has the name of a declared one is the declared one. -/
theorem Interceptor.eq_interface_of_name_eq (unique : UniqueNames (d.declared ++ i.interfaces))
    {s : Signature} (declared : s ∈ i.signatures) {k : Interface} (listed : k ∈ d.allInterfaces)
    (named : k.name = s.interface.name) : k = s.interface := by
  obtain ⟨root, inside, reached⟩ := TypeDescriptor.reachedFrom_of_mem_allInterfaces listed
  have below : ReachedFrom (d.declared ++ i.interfaces) k :=
    ⟨root, List.mem_append_left _ inside, reached⟩
  have own : ReachedFrom (d.declared ++ i.interfaces) s.interface :=
    .of_mem (List.mem_append_right _ (mem_interfaces declared))
  exact unique k s.interface below own named

theorem Layer.realizes_describe_iff (resolved : i.resolve = .ok map)
    (unique : UniqueNames (d.declared ++ i.interfaces)) {name : String} :
    (Layer.describe ⟨i, map⟩ d).realizes name = true ↔
      ∃ s ∈ i.signatures, d.realizes s.interface.name = true ∧
        ∃ j, Reaches s.interface j ∧ j.name = name := by
  have below : ∀ j ∈ (Layer.describe ⟨i, map⟩ d).declared,
      ReachedFrom (d.declared ++ i.interfaces) j := by
    intro j declared
    obtain ⟨k, inside, reached⟩ := reachedFrom_of_mem_declared declared
    exact ⟨k, List.mem_append_left _ inside, reached⟩
  rw [TypeDescriptor.realizes_iff_reachedFrom (unique.of_roots below), declared_describe]
  simp only [TypeDescriptor.realizes_iff]
  constructor
  · rintro ⟨j, ⟨k, covered, reached⟩, named⟩
    obtain ⟨listed, s, declared, shared⟩ := (SignatureMap.mem_covered_iff resolved).mp covered
    refine ⟨s, declared, ⟨k, listed, shared.symm⟩, j, ?_, named⟩
    rw [← Interceptor.eq_interface_of_name_eq unique declared listed shared.symm]
    exact reached
  · rintro ⟨s, declared, ⟨k, listed, shared⟩, j, reached, named⟩
    refine ⟨j, ⟨k, ?_, ?_⟩, named⟩
    · exact (SignatureMap.mem_covered_iff resolved).mpr ⟨listed, s, declared, shared.symm⟩
    · rw [Interceptor.eq_interface_of_name_eq unique declared listed shared]
      exact reached

/-- Whatever is declared and realized below is realized above as well. -/
theorem Layer.realizes_describe_of_declared (resolved : i.resolve = .ok map) {s : Signature}
    (declared : s ∈ i.signatures) (realized : d.realizes s.interface.name = true) :
    (Layer.describe ⟨i, map⟩ d).realizes s.interface.name = true := by
  obtain ⟨j, listed, named⟩ := TypeDescriptor.realizes_iff.mp realized
  have covered : j ∈ (Layer.describe ⟨i, map⟩ d).declared := by
    rw [declared_describe, SignatureMap.mem_covered_iff resolved]
    exact ⟨listed, s, declared, named.symm⟩
  rw [← named]
  exact TypeDescriptor.realizes_iff.mpr (TypeDescriptor.lists_of_mem_declared covered)

theorem Layer.realizes_of_realizes_describe {l : Layer σ κ} (unique : UniqueNames d.declared)
    {name : String} (realized : (l.describe d).realizes name = true) : d.realizes name = true := by
  obtain ⟨j, listed, named⟩ := TypeDescriptor.realizes_iff.mp realized
  have reached : ReachedFrom d.declared j :=
    (TypeDescriptor.reachedFrom_of_mem_allInterfaces listed).of_roots
      fun k declared => reachedFrom_of_mem_declared declared
  exact (TypeDescriptor.realizes_iff_reachedFrom unique).mpr ⟨j, reached, named⟩

end

/-- What an entry with interceptor `i` makes of `p` is `q`. -/
structure Interceptor.Narrows (i : Interceptor σ κ) (p q : Observable σ κ) : Prop where
  adds_iff : (∃ map, q = p.wear ⟨i, map⟩) ↔
    ∃ s ∈ i.signatures, p.descriptor.realizes s.interface.name = true
  skips_iff : q = p ↔ ∀ s ∈ i.signatures, p.descriptor.realizes s.interface.name = false
  realizes_iff : q ≠ p → ∀ name, q.descriptor.realizes name = true ↔
    ∃ s ∈ i.signatures, p.descriptor.realizes s.interface.name = true ∧
      ∃ j, Reaches s.interface j ∧ j.name = name
  realizes_below : ∀ name, q.descriptor.realizes name = true → p.descriptor.realizes name = true

namespace Observable

variable {i : Interceptor σ κ} {p q : Observable σ κ}

theorem narrows_of_wrap (wrapped : p.wrap i = .ok q)
    (unique : UniqueNames (p.descriptor.declared ++ i.interfaces)) : i.Narrows p q := by
  cases resolved : i.resolve with
  | error e =>
    rw [wrap, resolved] at wrapped
    cases wrapped
  | ok map =>
    rw [wrap_of_resolve resolved] at wrapped
    cases wrapped
    have uncovered := SignatureMap.covered_isEmpty_iff (d := p.descriptor) resolved
    by_cases nothing : (map.covered p.descriptor).isEmpty = true
    · have skipped : p.wrapResolved i map = p := if_pos nothing
      rw [skipped]
      refine ⟨?_, iff_of_true rfl (uncovered.mp nothing), fun different => absurd rfl different,
        fun _ realized => realized⟩
      constructor
      · rintro ⟨other, same⟩
        exact absurd same.symm (wear_ne_self p _)
      · rintro ⟨s, declared, realized⟩
        rw [uncovered.mp nothing s declared] at realized
        cases realized
    · have worn : p.wrapResolved i map = p.wear ⟨i, map⟩ := if_neg nothing
      rw [worn]
      rw [uncovered] at nothing
      refine ⟨iff_of_true ⟨map, rfl⟩ ?_, iff_of_false (wear_ne_self p _) nothing, ?_, ?_⟩
      · simpa using nothing
      · intro _ name
        exact Layer.realizes_describe_iff resolved unique
      · intro name realized
        exact Layer.realizes_of_realizes_describe
          unique.left realized

theorem reachedFrom_of_wrap (wrapped : p.wrap i = .ok q) :
    ∀ j ∈ q.descriptor.declared, ReachedFrom p.descriptor.declared j := by
  rcases wrap_eq_ok wrapped with rfl | ⟨map, rfl⟩
  · exact fun j declared => .of_mem declared
  · exact fun j declared => Layer.reachedFrom_of_mem_declared declared

/-- Wrapping brings no interface in that was not below already. -/
theorem reachedFrom_of_foldlM {interceptors : List (Interceptor σ κ)} {o r : Observable σ κ}
    (folded : interceptors.foldlM Observable.wrap o = .ok r) :
    ∀ j ∈ r.descriptor.declared, ReachedFrom o.descriptor.declared j := by
  induction interceptors generalizing o with
  | nil =>
    cases folded
    exact fun j declared => .of_mem declared
  | cons i rest ih =>
    obtain ⟨p, wrapped, folded⟩ := exists_wrap_of_foldlM_cons folded
    intro j declared
    exact (ih folded j declared).of_roots (reachedFrom_of_wrap wrapped)

end Observable

/-- The chain as far as its first `k` entries. -/
def Chain.upTo (c : Chain σ κ) (k : Nat) : Chain σ κ :=
  ⟨c.entries.take k⟩

namespace Chain

variable {c : Chain σ κ}

theorem Faithful.upTo (faithful : c.Faithful) (k : Nat) : (c.upTo k).Faithful :=
  fun e inside => faithful e (List.mem_of_mem_take inside)

theorem interceptors_upTo (c : Chain σ κ) (k : Nat) :
    (c.upTo k).interceptors = c.interceptors.take k :=
  List.map_take

theorem upTo_length (c : Chain σ κ) : c.upTo c.length = c := by
  simp only [upTo, length, List.take_length]

theorem upTo_of_length_le {k : Nat} (beyond : c.length ≤ k) : c.upTo k = c := by
  simp only [upTo, List.take_of_length_le beyond]

theorem exists_applyAll_upTo (faithful : c.Faithful)
    (resolves : ∀ i ∈ c.interceptors, ∃ map, i.resolve = .ok map) (o : Observable σ κ) (k : Nat) :
    ∃ r, ((c.upTo k).applyAll o).answer = .ok r := by
  rw [(faithful.upTo k).applyAll, interceptors_upTo]
  exact exists_foldLooked_eq_ok_iff.mpr fun i inside => resolves i (List.mem_of_mem_take inside)

section

variable {o : Observable σ κ} {stage : Nat → Observable σ κ}

theorem stage_zero (faithful : c.Faithful)
    (applied : ∀ k, ((c.upTo k).applyAll o).answer = .ok (stage k)) : stage 0 = o := by
  have answer := applied 0
  rw [(faithful.upTo 0).applyAll, interceptors_upTo] at answer
  cases answer
  rfl

/-- Entry `k` is wrapped around what the entries before it have come to. -/
theorem wrap_stage (faithful : c.Faithful)
    (applied : ∀ k, ((c.upTo k).applyAll o).answer = .ok (stage k)) {k : Nat}
    {i : Interceptor σ κ} (entry : c.interceptors[k]? = some i) :
    (stage k).wrap i = .ok (stage (k + 1)) := by
  have before := applied k
  have after := applied (k + 1)
  rw [(faithful.upTo k).applyAll, interceptors_upTo] at before
  rw [(faithful.upTo (k + 1)).applyAll, interceptors_upTo, List.take_add_one, entry,
    List.foldlM_append, before] at after
  obtain ⟨r, wrapped, rest⟩ := Observable.exists_wrap_of_foldlM_cons after
  cases rest
  exact wrapped

theorem stage_succ_of_length_le (applied : ∀ k, ((c.upTo k).applyAll o).answer = .ok (stage k))
    {k : Nat} (beyond : c.length ≤ k) : stage (k + 1) = stage k := by
  have after := applied (k + 1)
  rw [upTo_of_length_le (Nat.le_succ_of_le beyond), ← upTo_of_length_le beyond,
    applied k] at after
  exact (Except.ok.inj after).symm

theorem stage_succ (faithful : c.Faithful)
    (applied : ∀ k, ((c.upTo k).applyAll o).answer = .ok (stage k)) (k : Nat) :
    stage (k + 1) = stage k ∨ ∃ l, stage (k + 1) = (stage k).wear l := by
  cases entry : c.interceptors[k]? with
  | some i =>
    rcases Observable.wrap_eq_ok (wrap_stage faithful applied entry) with skipped | ⟨map, worn⟩
    · exact .inl skipped
    · exact .inr ⟨⟨i, map⟩, worn⟩
  | none =>
    have beyond : c.length ≤ k := by simpa [interceptors, length] using entry
    exact .inl (stage_succ_of_length_le applied beyond)

/-- Names that are unique below a chain and in what it declares are so at every stage. -/
theorem uniqueNames_stage (faithful : c.Faithful)
    (applied : ∀ k, ((c.upTo k).applyAll o).answer = .ok (stage k))
    (unique : UniqueNames (o.descriptor.declared ++
      c.interceptors.flatMap Interceptor.interfaces)) {k : Nat} {i : Interceptor σ κ}
    (entry : c.interceptors[k]? = some i) :
    UniqueNames ((stage k).descriptor.declared ++ i.interfaces) := by
  refine unique.of_roots ?_
  intro j inside
  rcases List.mem_append.mp inside with declared | own
  · have folded := ((faithful.upTo k).applyAll o).symm.trans (applied k)
    obtain ⟨root, below, reached⟩ := Observable.reachedFrom_of_foldlM folded j declared
    exact ⟨root, List.mem_append_left _ below, reached⟩
  · have listed := List.mem_flatMap.mpr ⟨i, List.mem_of_getElem? entry, own⟩
    exact .of_mem (List.mem_append_right _ listed)

end

end Chain

/-- Each layer that a step adds wraps the name once more. -/
theorem Observable.name_of_steps {stage : Nat → Observable σ κ}
    (steps : ∀ k, stage (k + 1) = stage k ∨ ∃ l, stage (k + 1) = (stage k).wear l) (n : Nat) :
    (stage n).descriptor.name =
      Nat.repeat wrapperName
        ((List.range n).countP fun k => decide ((stage k).depth < (stage (k + 1)).depth))
        (stage 0).descriptor.name := by
  induction n with
  | zero => rfl
  | succ n ih =>
    rw [List.range_succ, List.countP_append, List.countP_singleton]
    rcases steps n with skipped | ⟨l, worn⟩
    · simp only [skipped, Nat.lt_irrefl, decide_false, Bool.false_eq_true, if_false, Nat.add_zero]
      exact ih
    · simp only [worn, depth_wear, Nat.lt_succ_self, decide_true, if_true, Nat.repeat]
      rw [← ih]
      rfl

/-- What a chain makes of `o`, entry by entry. Each entry adds a layer exactly if something
it declares has not been narrowed away before, and what is realized behind the layer is what
is reached from that; the name at the end tells how many layers were added. -/
theorem applyAll_run_narrows {moves : List (Move σ κ)} {c : Chain σ κ}
    (made : (Chain.run {} moves).1 = c) (o : Observable σ κ)
    (resolves : ∀ i ∈ c.interceptors, ∃ map, i.resolve = .ok map)
    (unique : UniqueNames (o.descriptor.declared ++
      c.interceptors.flatMap Interceptor.interfaces)) :
    ∃ stage : Nat → Observable σ κ,
      stage 0 = o ∧
      (∀ k, ((c.upTo k).applyAll o).answer = .ok (stage k)) ∧
      (c.applyAll o).answer = .ok (stage c.length) ∧
      (∀ (k : Nat) (i : Interceptor σ κ), c.interceptors[k]? = some i →
        i.Narrows (stage k) (stage (k + 1))) ∧
      (stage c.length).descriptor.name = Nat.repeat wrapperName
        ((List.range c.length).countP fun k =>
          decide ((stage k).depth < (stage (k + 1)).depth))
        o.descriptor.name := by
  have faithful : c.Faithful := made ▸ Chain.faithful_empty.run moves
  obtain ⟨stage, applied⟩ :=
    Classical.skolem.mp (Chain.exists_applyAll_upTo faithful resolves o)
  have start : stage 0 = o := Chain.stage_zero faithful applied
  refine ⟨stage, start, applied, ?_, ?_, ?_⟩
  · rw [← applied c.length, Chain.upTo_length]
  · intro k i entry
    exact Observable.narrows_of_wrap (Chain.wrap_stage faithful applied entry)
      (Chain.uniqueNames_stage faithful applied unique entry)
  · rw [← start]
    exact Observable.name_of_steps (Chain.stage_succ faithful applied) c.length

section

open Tracing

/-- The first entry leaves `Closeable` only, so there is nothing left for the second one,
and the third one still finds a part of what it declares. -/
def Tracing.closing : List (Move (List Mark)) :=
  [.append (tracer "A" [⟨closeable, "close", []⟩]),
    .append (tracer "B" [⟨executor, "update", ["String", "i64"]⟩]),
    .append (tracer "C" [⟨executor, "close", []⟩, ⟨closeable, "close", []⟩])]

theorem Tracing.uniqueNames_of_hierarchies {roots : List Interface}
    (known : ∀ i ∈ hierarchies roots, i = executor ∨ i = closeable) : UniqueNames roots := by
  apply uniqueNames_of_subset [executor, closeable]
  · intro i inside
    simpa using known i inside
  · decide

theorem Tracing.uniqueNames_closing :
    UniqueNames ((Observable.ofTarget worker).descriptor.declared ++
      (Chain.run {} closing).1.interceptors.flatMap Interceptor.interfaces) := by
  apply uniqueNames_of_hierarchies
  change ∀ i ∈ [executor, closeable, closeable, executor, closeable, executor, closeable,
    closeable], i = executor ∨ i = closeable
  simp

theorem Tracing.resolves_closing :
    ∀ i ∈ (Chain.run {} closing).1.interceptors, ∃ map, i.resolve = .ok map := by
  intro i inside
  change i ∈ [_, _, _] at inside
  simp only [List.mem_cons, List.not_mem_nil, or_false] at inside
  rcases inside with rfl | rfl | rfl
  all_goals exact ⟨_, rfl⟩

theorem applyAll_run_narrows_closing :
    ∃ stage : Nat → Observable (List Mark),
      ((Chain.run {} closing).1.applyAll (.ofTarget worker)).answer = .ok (stage 3) ∧
      (∀ name, (stage 1).descriptor.realizes name = true ↔ name = "Closeable") ∧
      stage 2 = stage 1 ∧ stage 3 ≠ stage 2 ∧
      (stage 3).descriptor.name = "Plugin<Plugin<MockExecutor>>" := by
  obtain ⟨stage, start, _, final, narrows, name⟩ :=
    applyAll_run_narrows (c := (Chain.run {} closing).1) rfl (.ofTarget worker) resolves_closing
      uniqueNames_closing
  have byA := narrows 0 (tracer "A" [⟨closeable, "close", []⟩]) rfl
  have byB := narrows 1 (tracer "B" [⟨executor, "update", ["String", "i64"]⟩]) rfl
  have byC := narrows 2 (tracer "C" [⟨executor, "close", []⟩, ⟨closeable, "close", []⟩]) rfl
  obtain ⟨mapA, wornA⟩ := byA.adds_iff.mpr ⟨_, List.mem_cons_self, by rw [start]; decide⟩
  have left : ∀ name, (stage 1).descriptor.realizes name = true ↔ name = "Closeable" := by
    intro name
    rw [byA.realizes_iff (wornA ▸ Observable.wear_ne_self _ _), start]
    constructor
    · rintro ⟨s, declared, _, j, reached, rfl⟩
      rw [List.mem_singleton.mp declared] at reached
      cases reached with
      | refl => rfl
      | step direct _ => cases direct
    · rintro rfl
      exact ⟨_, List.mem_cons_self, by decide, closeable, .refl closeable, rfl⟩
  have skipped : stage 2 = stage 1 := by
    refine byB.skips_iff.mpr ?_
    intro s declared
    rw [List.mem_singleton.mp declared, ← Bool.not_eq_true, left]
    decide
  obtain ⟨mapC, wornC⟩ := byC.adds_iff.mpr
    ⟨⟨closeable, "close", []⟩, List.mem_cons_of_mem _ List.mem_cons_self,
      by rw [skipped, left]; rfl⟩
  refine ⟨stage, final, left, skipped, wornC ▸ Observable.wear_ne_self _ _, name.trans ?_⟩
  have counted : (List.range 3).countP
      (fun k => decide ((stage k).depth < (stage (k + 1)).depth)) = 2 := by
    simp [List.range_succ, wornA, skipped, wornC]
  change Nat.repeat wrapperName ((List.range 3).countP _) _ = _
  rw [counted]
  rfl

end

end Interception
