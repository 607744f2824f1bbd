import Interception.Proofs.Declared
import Interception.Proofs.Preorder

/-!
# What a layer describes and what it lets through

A caller who wants to know what a wrapper accepts asks its description, which is a walk that
stops at known names. The calls themselves are let through by another search, over the
covered interfaces one by one. What is described is never refused. The converse holds where
names are unique; otherwise the walk may pass an interface by whose methods are accepted.
-/

set_option autoImplicit false

namespace Interception

variable {σ κ : Type} [Kinds κ]

open Interface

/-- The layer at that height turned a call down. -/
def Reply.RefusedAt (reply : Reply σ κ) (height : Nat) : Prop :=
  ∃ v ∈ reply.visits, v.isRefusal = true ∧ v.height = height

namespace Layer

variable {l : Layer σ κ} {d : TypeDescriptor} {m : Method}

theorem exposes_of_realizes_describe
    (described : (l.describe d).realizes m.interface = true) : l.exposes d m = true := by
  have found := TypeDescriptor.isOrExtends_of_realizes described
  rw [declared_describe] at found
  exact exposes_iff.mpr found

theorem realizes_describe_iff_exposes (unique : UniqueNames d.declared) :
    (l.describe d).realizes m.interface = true ↔ l.exposes d m = true := by
  rw [TypeDescriptor.realizes_iff_isOrExtends (uniqueNames_describe unique), declared_describe,
    exposes_iff]

end Layer

namespace Observable

variable {o : Observable σ κ} {l : Layer σ κ} {m : Method}

/-- A layer turns down exactly the calls of methods that it does not expose, whatever its
interceptor does. -/
theorem refusedAt_depth_wear_iff {args : Args κ} {s : σ} :
    ((o.wear l).invoke m args s).RefusedAt (o.wear l).depth ↔ l.exposes o.descriptor m = false := by
  constructor
  · rintro ⟨v, inside, refusal, height⟩
    rw [← Bool.not_eq_true]
    intro shown
    cases declared : l.intercepts o.descriptor m with
    | false =>
      rw [invoke_wear_of_not_intercepts shown declared] at inside
      have lower := o.height_le_depth m args s v inside
      rw [height, depth_wear] at lower
      exact Nat.not_succ_le_self _ lower
    | true =>
      have own : v ∈ ((o.wear l).invoke m args s).visits.filter
          (fun v => decide (v.height = (o.wear l).depth)) :=
        List.mem_filter.mpr ⟨inside, decide_eq_true height⟩
      rw [visits_at_depth_of_intercepts shown declared, List.mem_singleton] at own
      rw [own] at refusal
      cases refusal
  · intro hidden
    rw [invoke_wear_of_not_exposes hidden]
    exact ⟨.refused o.depth m args, List.mem_cons_self, rfl, rfl⟩

end Observable

/-- Description and behaviour of a wrapper agree. A method of a described interface is never
turned down by the wrapper itself; where names are unique every other one is, and nothing else
happens then. The wrapper describes what is reached from what is declared of the wrapped
object, and nothing beyond what that describes. -/
theorem Observable.wrap_admits_described {o w : Observable σ κ} {i : Interceptor σ κ}
    (wrapped : o.wrap i = .ok w) (worn : w ≠ o) :
    (∀ m, w.descriptor.realizes m.interface = true →
      ∀ args s, ¬(w.invoke m args s).RefusedAt w.depth) ∧
    (UniqueNames (o.descriptor.declared ++ i.interfaces) →
      (∀ m args s, (¬(w.invoke m args s).RefusedAt w.depth ↔
        w.descriptor.realizes m.interface = true)) ∧
      (∀ m args s, w.descriptor.realizes m.interface = false →
        w.invoke m args s =
          ⟨.error (.dispatch (.notExposed w.descriptor.name m.interface m.name)), s,
            [.refused o.depth m args]⟩) ∧
      (∀ name, w.descriptor.realizes name = true ↔
        ∃ s ∈ i.signatures, o.descriptor.realizes s.interface.name = true ∧
          ∃ j, Reaches s.interface j ∧ j.name = name) ∧
      ∀ name, w.descriptor.realizes name = true → o.descriptor.realizes name = true) := by
  have narrowed := fun unique => narrows_of_wrap wrapped unique
  obtain same | ⟨map, rfl⟩ := wrap_eq_ok wrapped
  · exact absurd same worn
  constructor
  · intro m described args s
    rw [refusedAt_depth_wear_iff, Bool.not_eq_false]
    exact Layer.exposes_of_realizes_describe described
  · intro unique
    have agree : ∀ m, (o.wear ⟨i, map⟩).descriptor.realizes m.interface = true ↔
        Layer.exposes ⟨i, map⟩ o.descriptor m = true :=
      fun _ => Layer.realizes_describe_iff_exposes unique.left
    refine ⟨?_, ?_, (narrowed unique).realizes_iff worn, (narrowed unique).realizes_below⟩
    · intro m args s
      rw [refusedAt_depth_wear_iff, Bool.not_eq_false, agree]
    · intro m args s undescribed
      rw [← Bool.not_eq_true, agree, Bool.not_eq_true] at undescribed
      exact invoke_wear_of_not_exposes undescribed

section

open Tracing

/-- The layer below would have intercepted the method that is turned down. -/
theorem Observable.wrap_admits_described_closing :
    ∃ w, watched.wrap (tracer "A" [⟨closeable, "close", []⟩]) = .ok w ∧
      ¬(w.invoke close {} []).RefusedAt 2 ∧
      w.invoke update {} [] =
        ⟨.error (.dispatch (.notExposed "Plugin<Plugin<MockExecutor>>" "Executor" "update")), [],
          [.refused 1 update {}]⟩ ∧
      ∀ name, w.descriptor.realizes name = true → name = "Closeable" := by
  have wrapped : watched.wrap (tracer "A" [⟨closeable, "close", []⟩]) =
      .ok (watched.wear ⟨_, ⟨[("Closeable", close)], by simp⟩⟩) := rfl
  have unique : UniqueNames (watched.descriptor.declared ++
      (tracer "A" [⟨closeable, "close", []⟩]).interfaces) := by
    apply uniqueNames_of_hierarchies
    change ∀ i ∈ [executor, closeable, closeable], i = executor ∨ i = closeable
    simp
  obtain ⟨admits, agreement⟩ := wrap_admits_described wrapped (wear_ne_self _ _)
  obtain ⟨_, refuses, realizes, _⟩ := agreement unique
  refine ⟨_, wrapped, admits close (by decide) {} [], refuses update {} [] (by decide), ?_⟩
  intro name described
  obtain ⟨s, declared, _, j, reached, rfl⟩ := (realizes name).mp described
  rw [List.mem_singleton.mp declared] at reached
  cases reached with
  | refl => rfl
  | step direct _ => cases direct

end

end Interception
