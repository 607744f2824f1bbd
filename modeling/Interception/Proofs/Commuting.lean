import Mathlib.Data.List.Basic
import Interception.Proofs.Claims
import Interception.Proofs.PassThrough

/-!
# Independent interceptors

Where all interceptors of a chain claim the same, what the layers show depends on how many they
are and not on their order. If moreover no two of them find the same method, a call meets one
of them at most, and the layers above and below that one let the call pass. The order of the
chain then decides nothing but how far up an interceptor stands.
-/

set_option autoImplicit false

namespace Interception

variable {σ κ : Type} [Kinds κ]

open Interface

namespace Interceptor

/-- The interceptor goes by the method and the arguments that it is given, whatever its receiver
is, and all that it calls is the given method. -/
structure Discreet (i : Interceptor σ κ) : Prop where
  blind : ∀ d d' m args, i.intercept ⟨d, m, args⟩ = i.intercept ⟨d', m, args⟩
  proceeds : ∀ given, (i.intercept given).CallsOnly (· = given.method)

end Interceptor

namespace Observable

/-- The interceptor of the layer with that many layers below it. -/
def interceptorAt? (o : Observable σ κ) (below : Nat) : Option (Interceptor σ κ) :=
  (o.layers.reverse[below]?).map (·.interceptor)

/-- The interceptor that ran, if one did, with the call that it was given. -/
def ran? (o : Observable σ κ) : Visit κ → Option (Interceptor σ κ × Method × Args κ)
  | .layer below m args => (o.interceptorAt? below).map (·, m, args)
  | .refused .. | .target .. => none

/-- The interceptors that run during a call, in the order in which they are given it. -/
def runs (o : Observable σ κ) (m : Method) (args : Args κ) (s : σ) :
    List (Interceptor σ κ × Method × Args κ) :=
  (o.invoke m args s).visits.filterMap o.ran?

section

variable {o : Observable σ κ} {i : Interceptor σ κ} {layers : List (Layer σ κ)} {m : Method}

theorem interceptorAt?_wear_depth (o : Observable σ κ) (l : Layer σ κ) :
    (o.wear l).interceptorAt? o.depth = some l.interceptor := by
  simp [interceptorAt?, wear, depth]

theorem interceptorAt?_wearing (o : Observable σ κ) (layers : List (Layer σ κ)) {below : Nat}
    (deep : below < o.depth) :
    (o.wearing layers).interceptorAt? below = o.interceptorAt? below := by
  have inside : below < o.layers.reverse.length := by
    rw [List.length_reverse]
    exact deep
  simp only [interceptorAt?, wearing, List.reverse_append, List.getElem?_append_left inside]

/-- More layers on the outside change nothing about what ran further down. -/
theorem ran?_wearing (o : Observable σ κ) (layers : List (Layer σ κ)) {v : Visit κ}
    (deep : v.height ≤ o.depth) : (o.wearing layers).ran? v = o.ran? v := by
  cases v with
  | layer below m args => simp only [ran?, interceptorAt?_wearing o layers deep]
  | refused below m args => rfl
  | target m args => rfl

theorem filterMap_ran?_wearing (o : Observable σ κ) (layers : List (Layer σ κ))
    {visits : List (Visit κ)} (deep : ∀ v ∈ visits, v.height ≤ o.depth) :
    visits.filterMap (o.wearing layers).ran? = visits.filterMap o.ran? :=
  List.filterMap_congr fun v inside => ran?_wearing o layers (deep v inside)

theorem interceptorAt?_of_mem_intercepting :
    ∀ stage ∈ o.intercepting m layers,
      (o.wearing layers).interceptorAt? stage.below = some stage.interceptor := by
  induction layers with
  | nil =>
    intro stage inside
    cases inside
  | cons l below ih =>
    have further : ∀ stage ∈ o.intercepting m below,
        (o.wearing (l :: below)).interceptorAt? stage.below = some stage.interceptor := by
      intro stage inside
      have deep := (below_bounds_of_mem_intercepting stage inside).2
      exact (interceptorAt?_wearing _ [l] deep).trans (ih stage inside)
    cases declared : l.intercepts (o.wearing below).descriptor m with
    | false =>
      rw [intercepting_of_not_intercepts declared]
      exact further
    | true =>
      rw [intercepting_of_intercepts declared]
      intro stage inside
      rcases List.mem_cons.mp inside with rfl | inside
      · exact interceptorAt?_wear_depth (o.wearing below) l
      · exact further stage inside

/-- A call that meets one interceptor only is a run of it on top of the call below, wherever
its layer stands. -/
theorem invoke_wearing_of_intercepting_singleton {below : Nat} (discreet : i.Discreet)
    (admitted : (o.wearing layers).admits m = true)
    (one : o.intercepting m layers = [⟨below, i⟩]) (args : Args κ) (s : σ) :
    (o.wearing layers).invoke m args s =
      { (i.intercept ⟨o.descriptor, m, args⟩).run o.invoke s with
        visits := .layer below m args ::
          ((i.intercept ⟨o.descriptor, m, args⟩).run o.invoke s).visits } := by
  induction layers with
  | nil => cases one
  | cons l rest ih =>
    have shown : l.exposes (o.wearing rest).descriptor m = true := admitted
    have further : (o.wearing rest).admits m = true := admits_of_admits_wear shown
    cases declared : l.intercepts (o.wearing rest).descriptor m with
    | false =>
      rw [intercepting_of_not_intercepts declared] at one
      rw [wearing_cons, invoke_wear_of_not_intercepts shown declared]
      exact ih further one
    | true =>
      rw [intercepting_of_intercepts declared, List.cons.injEq, Stage.mk.injEq] at one
      obtain ⟨⟨rfl, rfl⟩, none⟩ := one
      have inner : ∀ m', m' = m → (o.wearing rest).invoke m' = o.invoke m' := by
        rintro m' rfl
        funext args s
        exact invoke_wearing_of_not_intercepts (.inr further) none args s
      rw [wearing_cons, invoke_wear_of_intercepts shown declared,
        discreet.blind _ o.descriptor m args,
        Activity.run_congr (discreet.proceeds ⟨o.descriptor, m, args⟩) inner s]

end

/-- The call comes to the same in both, with the same effect. The same interceptors run, given
the same calls, and the target is reached by the same calls. -/
structure ServesAlike (p q : Observable σ κ) (m : Method) (args : Args κ) (s : σ) : Prop where
  outcome : (p.invoke m args s).outcome = (q.invoke m args s).outcome
  state : (p.invoke m args s).state = (q.invoke m args s).state
  runs : p.runs m args s = q.runs m args s
  targets : (p.invoke m args s).visits.filter Visit.isTarget =
    (q.invoke m args s).visits.filter Visit.isTarget

section

variable {o : Observable σ κ} {layers layers' : List (Layer σ κ)} {m : Method}

theorem servesAlike_of_refused {p q : Observable σ κ} (descriptors : p.descriptor = q.descriptor)
    (depths : p.depth = q.depth) (refused : p.admits m = false) (refused' : q.admits m = false)
    (args : Args κ) (s : σ) : p.ServesAlike q m args s := by
  have first := invoke_of_not_admits refused args s
  have second := invoke_of_not_admits refused' args s
  rw [descriptors, depths] at first
  constructor
  · rw [first, second]
  · rw [first, second]
  · rw [runs, runs, first, second]
    rfl
  · rw [first, second]

theorem servesAlike_of_passed (admitted : (o.wearing layers).admits m = true)
    (admitted' : (o.wearing layers').admits m = true) (none : o.intercepting m layers = [])
    (none' : o.intercepting m layers' = []) (args : Args κ) (s : σ) :
    (o.wearing layers).ServesAlike (o.wearing layers') m args s := by
  have first := invoke_wearing_of_not_intercepts (.inr admitted) none args s
  have second := invoke_wearing_of_not_intercepts (.inr admitted') none' args s
  have deep := o.height_le_depth m args s
  constructor
  · rw [first, second]
  · rw [first, second]
  · rw [runs, runs, first, second, filterMap_ran?_wearing o layers deep,
      filterMap_ran?_wearing o layers' deep]
  · rw [first, second]

theorem runs_of_intercepting_singleton {i : Interceptor σ κ} {below : Nat} (discreet : i.Discreet)
    (admitted : (o.wearing layers).admits m = true)
    (one : o.intercepting m layers = [⟨below, i⟩]) (args : Args κ) (s : σ) :
    (o.wearing layers).runs m args s = (i, m, args) ::
      ((i.intercept ⟨o.descriptor, m, args⟩).run o.invoke s).visits.filterMap o.ran? := by
  have deep : ∀ v ∈ ((i.intercept ⟨o.descriptor, m, args⟩).run o.invoke s).visits,
      v.height ≤ o.depth :=
    Activity.forall_visits_run (Activity.callsOnly_true _)
      (fun m _ args s => o.height_le_depth m args s) s
  have own : (o.wearing layers).interceptorAt? below = some i :=
    interceptorAt?_of_mem_intercepting ⟨below, i⟩ (one ▸ List.mem_cons_self)
  have ran : (o.wearing layers).ran? (.layer below m args) = some (i, m, args) := by
    rw [ran?, own]
    rfl
  rw [runs, invoke_wearing_of_intercepting_singleton discreet admitted one,
    List.filterMap_cons_some ran, filterMap_ran?_wearing o layers deep]

theorem servesAlike_of_intercepted {i : Interceptor σ κ} {below below' : Nat}
    (discreet : i.Discreet) (admitted : (o.wearing layers).admits m = true)
    (admitted' : (o.wearing layers').admits m = true)
    (one : o.intercepting m layers = [⟨below, i⟩])
    (one' : o.intercepting m layers' = [⟨below', i⟩]) (args : Args κ) (s : σ) :
    (o.wearing layers).ServesAlike (o.wearing layers') m args s := by
  have first := invoke_wearing_of_intercepting_singleton discreet admitted one args s
  have second := invoke_wearing_of_intercepting_singleton discreet admitted' one' args s
  constructor
  · rw [first, second]
  · rw [first, second]
  · rw [runs_of_intercepting_singleton discreet admitted one,
      runs_of_intercepting_singleton discreet admitted' one']
  · rw [first, second]
    rfl

theorem admits_of_descriptor_eq (lengths : layers.length = layers'.length)
    (descriptors : (o.wearing layers).descriptor = (o.wearing layers').descriptor) (m : Method) :
    (o.wearing layers).admits m = (o.wearing layers').admits m := by
  cases layers with
  | nil => rw [List.eq_nil_of_length_eq_zero lengths.symm]
  | cons l below =>
    cases layers' with
    | nil => cases lengths
    | cons l' below' =>
      exact congrArg (fun d => d.interfaces.any (·.isOrExtends m.interface)) descriptors

/-- Two stacks of as many layers that describe the same and in which the same interceptor, if
any, is asked about `m`. -/
theorem servesAlike_of_intercepting (lengths : layers.length = layers'.length)
    (descriptors : (o.wearing layers).descriptor = (o.wearing layers').descriptor)
    (intercepted : (o.intercepting m layers).map (·.interceptor) =
      (o.intercepting m layers').map (·.interceptor))
    (atMostOne : o.intercepting m layers = [] ∨
      ∃ below i, o.intercepting m layers = [⟨below, i⟩] ∧ i.Discreet) (args : Args κ) (s : σ) :
    (o.wearing layers).ServesAlike (o.wearing layers') m args s := by
  have admits := admits_of_descriptor_eq lengths descriptors m
  cases admitted : (o.wearing layers).admits m with
  | false =>
    have depths : (o.wearing layers).depth = (o.wearing layers').depth := by
      simp only [wearing, depth, List.length_append, lengths]
    exact servesAlike_of_refused descriptors depths admitted (admits.symm.trans admitted) args s
  | true =>
    rcases atMostOne with none | ⟨below, i, one, discreet⟩
    · rw [none, List.map_nil, eq_comm, List.map_eq_nil_iff] at intercepted
      exact servesAlike_of_passed admitted (admits.symm.trans admitted) none intercepted args s
    · rw [one, List.map_cons, List.map_nil, eq_comm, List.map_eq_singleton_iff] at intercepted
      obtain ⟨⟨below', i'⟩, one', rfl⟩ := intercepted
      exact servesAlike_of_intercepted discreet admitted (admits.symm.trans admitted) one one'
        args s

end

end Observable

section

variable {interceptors interceptors' : List (Interceptor σ κ)} {o : Observable σ κ}

/-- Independent interceptors make stacks that serve alike in every order. -/
theorem Independent.exists_foldlM_wrap (independent : Independent o.descriptor interceptors)
    (unique : UniqueNames o.descriptor.declared)
    (resolves : ∀ i ∈ interceptors, ∃ map, i.resolve = .ok map)
    (discreet : ∀ i ∈ interceptors, i.Discreet)
    (reordered : interceptors'.Perm interceptors) :
    ∃ p q, interceptors.foldlM Observable.wrap o = .ok p ∧
      interceptors'.foldlM Observable.wrap o = .ok q ∧ p.descriptor = q.descriptor ∧
      ∀ m args s, p.ServesAlike q m args s := by
  have resolves' : ∀ i ∈ interceptors', ∃ map, i.resolve = .ok map :=
    fun i inside => resolves i (reordered.subset inside)
  by_cases claimed : ∃ i ∈ interceptors, ∃ name, i.Claims o.descriptor name
  · obtain ⟨i₀, first, claim⟩ := claimed
    obtain ⟨map₀, own⟩ := resolves i₀ first
    have claims : ∀ i ∈ interceptors, ∀ name,
        i.Claims o.descriptor name ↔ i₀.Claims o.descriptor name := fun i inside name =>
      ⟨independent.names i inside i₀ first name, independent.names i₀ first i inside name⟩
    have remains : Remains (i₀.Claims o.descriptor) o.descriptor o.descriptor :=
      ⟨unique, fun _ realized => realized, fun _ claim => claim.1⟩
    obtain ⟨layers, folded, length, described, intercepted⟩ :=
      Observable.exists_foldlM_wrap_of_claims (l := ⟨i₀, map₀⟩) own claim resolves claims
        remains
    obtain ⟨layers', folded', length', described', intercepted'⟩ :=
      Observable.exists_foldlM_wrap_of_claims (l := ⟨i₀, map₀⟩) own claim resolves'
        (fun i inside => claims i (reordered.subset inside)) remains
    have lengths : layers.length = layers'.length := by
      rw [length, length', reordered.length_eq]
    have descriptors : (o.wearing layers).descriptor = (o.wearing layers').descriptor := by
      rw [described, described', reordered.length_eq]
    refine ⟨_, _, folded, folded', descriptors, fun m => ?_⟩
    apply Observable.servesAlike_of_intercepting lengths descriptors
    · rw [intercepted, intercepted', independent.declaring_perm reordered]
    · have found := intercepted m
      rcases independent.declaring_cases m with none | ⟨i, one⟩
      · rw [none, List.reverse_nil, List.map_eq_nil_iff] at found
        exact .inl found
      · rw [one, List.reverse_singleton, List.map_eq_singleton_iff] at found
        obtain ⟨⟨below, _⟩, alone, rfl⟩ := found
        have inside := (declaring_sublist o.descriptor m interceptors).subset
          (one ▸ List.mem_cons_self)
        exact .inr ⟨below, _, alone, discreet _ inside⟩
  · have unclaimed : ∀ i ∈ interceptors, ∀ name, ¬i.Claims o.descriptor name :=
      fun i inside name claim => claimed ⟨i, inside, name, claim⟩
    refine ⟨o, o, Observable.foldlM_wrap_of_no_claims resolves unclaimed,
      Observable.foldlM_wrap_of_no_claims resolves' fun i inside =>
        unclaimed i (reordered.subset inside), rfl, fun m args s => ⟨rfl, rfl, rfl, rfl⟩⟩

end

/-- Chains of independent interceptors, the one being a reordering of the other. Both can be
applied, and what they make of `o` is described alike. Every call comes to the same in both,
be it the refusal of the outermost layer, with the same effect on the target, which is reached
by the same calls, and the same interceptors run. -/
theorem applyAll_run_reordered {moves moves' : List (Move σ κ)} {c c' : Chain σ κ}
    (made : (Chain.run {} moves).1 = c) (made' : (Chain.run {} moves').1 = c')
    (reordered : c'.interceptors.Perm c.interceptors) {o : Observable σ κ}
    (unique : UniqueNames o.descriptor.declared)
    (resolves : ∀ i ∈ c.interceptors, ∃ map, i.resolve = .ok map)
    (independent : Independent o.descriptor c.interceptors)
    (discreet : ∀ i ∈ c.interceptors, i.Discreet) :
    ∃ p q, (c.applyAll o).answer = .ok p ∧ (c'.applyAll o).answer = .ok q ∧
      p.descriptor = q.descriptor ∧ ∀ m args s, p.ServesAlike q m args s := by
  have faithful : c.Faithful := made ▸ Chain.faithful_empty.run moves
  have faithful' : c'.Faithful := made' ▸ Chain.faithful_empty.run moves'
  rw [faithful.applyAll, faithful'.applyAll]
  exact independent.exists_foldlM_wrap unique resolves discreet reordered

section

open Tracing

theorem Tracing.discreet_tracer (label : String) (signatures : List Signature) :
    (tracer label signatures).Discreet where
  blind _ _ _ _ := rfl
  proceeds _ _ := ⟨rfl, fun _ _ => trivial⟩

/-- Declares something else besides, which the worker does not realize. -/
def Tracing.updater : Interceptor (List Mark) :=
  tracer "A" [⟨executor, "update", ["String", "i64"]⟩,
    ⟨⟨"Driver", [⟨"Driver", "start", []⟩], []⟩, "start", []⟩]

def Tracing.closer : Interceptor (List Mark) :=
  tracer "B" [⟨executor, "close", []⟩]

theorem Tracing.claims_updater_iff (name : String) :
    updater.Claims worker.descriptor name ↔ closer.Claims worker.descriptor name := by
  constructor
  · rintro ⟨realized, s, declared, rfl⟩
    change s ∈ [_, _] at declared
    rcases List.mem_pair.mp declared with rfl | rfl
    · exact ⟨realized, _, List.mem_cons_self, rfl⟩
    · exact absurd realized (by decide)
  · rintro ⟨realized, s, declared, rfl⟩
    rw [List.mem_singleton.mp declared] at realized ⊢
    exact ⟨realized, _, List.mem_cons_self, rfl⟩

theorem Tracing.uniqueNames_worker : UniqueNames worker.descriptor.declared := by
  apply uniqueNames_of_hierarchies
  change ∀ i ∈ [executor, closeable], i = executor ∨ i = closeable
  simp

theorem Tracing.independent_updater_closer :
    Independent worker.descriptor [updater, closer] where
  names i inside j inside' name claim := by
    rcases List.mem_pair.mp inside with rfl | rfl <;>
      rcases List.mem_pair.mp inside' with rfl | rfl
    · exact claim
    · exact (claims_updater_iff name).mp claim
    · exact (claims_updater_iff name).mpr claim
    · exact claim
  methods := by
    rw [List.pairwise_pair]
    rintro m ⟨s, declared, realized, found⟩ ⟨s', declared', _, found'⟩
    rw [List.mem_singleton.mp declared'] at found'
    obtain rfl : close = m := Option.some.inj found'
    change s ∈ [_, _] at declared
    rcases List.mem_pair.mp declared with rfl | rfl
    · exact absurd found (by decide)
    · exact absurd realized (by decide)

theorem applyAll_run_reordered_closer :
    ∃ p q, ((Chain.run {} [.append updater, .append closer]).1.applyAll
        (.ofTarget worker)).answer = .ok p ∧
      ((Chain.run {} [.append closer, .validate, .append updater]).1.applyAll
        (.ofTarget worker)).answer = .ok q ∧
      p.descriptor.name = "Plugin<Plugin<MockExecutor>>" ∧ p.descriptor = q.descriptor ∧
      p.invoke close {} [] =
        ⟨.ok (.ofSize 1), [.before "B", .served "close", .after "B"],
          [.layer 1 close {}, .target close ⟨[.ofText "B"]⟩]⟩ ∧
      p.runs close {} [] = [(closer, close, {})] ∧ p.ServesAlike q close {} [] ∧
      p.ServesAlike q ⟨"Driver", "start", []⟩ {} [] := by
  obtain ⟨p, q, applied, applied', described, alike⟩ :=
    applyAll_run_reordered (o := .ofTarget worker)
      (rfl : (Chain.run {} [.append updater, .append closer]).1 = _)
      (rfl : (Chain.run {} [.append closer, .validate, .append updater]).1 = _)
      (List.Perm.swap updater closer []) uniqueNames_worker
      (by
        intro i inside
        rcases List.mem_pair.mp inside with rfl | rfl
        all_goals exact ⟨_, rfl⟩)
      independent_updater_closer
      (by
        intro i inside
        rcases List.mem_pair.mp inside with rfl | rfl
        all_goals exact discreet_tracer _ _)
  refine ⟨p, q, applied, applied', ?_, described, ?_, ?_, alike _ _ _, alike _ _ _⟩
  all_goals
    cases applied
    rfl

end

end Interception
