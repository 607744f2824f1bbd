import Interception.Proofs.Hierarchy
import Interception.Proofs.Recasting
import Interception.Proofs.Resolution
import Interception.Proofs.Session
import Interception.Proofs.Tracing

/-!
# Failing fast

Whether a chain can be applied is a matter of what its interceptors declare. It does not
depend on what it is applied to or on what has been done with it before, and it is settled
before anything is called.
-/

set_option autoImplicit false

namespace Interception

variable {σ α κ : Type} [Kinds κ]

/-- The interface, or one that it extends at any depth, lists a method of that name with
those parameters. -/
def Signature.HasMethod (s : Signature) : Prop :=
  ∃ j, Interface.Reaches s.interface j ∧ ∃ m ∈ j.methods, m.name = s.method ∧ m.params = s.params

theorem Signature.hasMethod_iff {s : Signature} : s.HasMethod ↔ ∃ m, s.find? = some m :=
  Interface.exists_findMethod?_iff.symm

theorem Signature.not_hasMethod_iff {s : Signature} : ¬s.HasMethod ↔ s.find? = none := by
  rw [hasMethod_iff, ← Option.isSome_iff_exists, Bool.not_eq_true, Option.isSome_eq_false_iff,
    Option.isNone_iff_eq_none]

/-- `e` is the complaint about the first signature without a method, in the first entry
that has one. -/
def FirstMissing (interceptors : List (Interceptor σ κ)) (e : PluginError) : Prop :=
  ∃ before i after earlier s later,
    interceptors = before ++ i :: after ∧ i.signatures = earlier ++ s :: later ∧
    (∀ k ∈ before, ∀ t ∈ k.signatures, t.HasMethod) ∧ (∀ t ∈ earlier, t.HasMethod) ∧
    ¬s.HasMethod ∧ e = .methodNotFound i.name s.interface.name s.method (paramText s.params)

theorem Interceptor.exists_resolve_eq_ok_iff {i : Interceptor σ κ} :
    (∃ map, i.resolve = .ok map) ↔ ∀ s ∈ i.signatures, s.HasMethod := by
  simp only [Signature.hasMethod_iff]
  exact SignatureMap.exists_resolve_eq_ok_iff

/-- The failure of an interceptor is that of its first signature without a method. -/
theorem Interceptor.resolve_eq_error_iff {i : Interceptor σ κ} {e : PluginError} :
    i.resolve = .error e ↔ ∃ earlier s later, i.signatures = earlier ++ s :: later ∧
      (∀ t ∈ earlier, t.HasMethod) ∧ ¬s.HasMethod ∧
      e = .methodNotFound i.name s.interface.name s.method (paramText s.params) := by
  rw [resolve, SignatureMap.resolve_eq_error_iff]
  simp only [FirstFailure, Signature.resolve_eq_error_iff, Signature.exists_resolve_eq_ok_iff,
    ← Signature.hasMethod_iff, ← Signature.not_hasMethod_iff]

theorem firstFailure_resolve_iff {interceptors : List (Interceptor σ κ)} {e : PluginError} :
    FirstFailure Interceptor.resolve interceptors e ↔ FirstMissing interceptors e := by
  simp only [FirstFailure, FirstMissing, Interceptor.exists_resolve_eq_ok_iff,
    Interceptor.resolve_eq_error_iff]
  constructor
  · rintro ⟨before, i, after, split, complete, earlier, s, later, declared, found, missing, named⟩
    exact ⟨before, i, after, earlier, s, later, split, declared, complete, found, missing, named⟩
  · rintro ⟨before, i, after, earlier, s, later, split, declared, complete, found, missing, named⟩
    exact ⟨before, i, after, split, complete, earlier, s, later, declared, found, missing, named⟩

theorem exists_firstMissing_or (interceptors : List (Interceptor σ κ)) :
    (∀ i ∈ interceptors, ∀ s ∈ i.signatures, s.HasMethod) ∨ ∃ e, FirstMissing interceptors e := by
  cases folded : foldLooked Interceptor.resolve (fun _ _ u => u) interceptors () with
  | error e =>
    exact .inr ⟨e, firstFailure_resolve_iff.mp (foldLooked_eq_error_iff.mp folded)⟩
  | ok u =>
    have resolves := exists_foldLooked_eq_ok_iff.mp ⟨u, folded⟩
    exact .inl fun i inside => Interceptor.exists_resolve_eq_ok_iff.mp (resolves i inside)

namespace Chain

variable {c : Chain σ κ}

theorem Faithful.walked_answer (faithful : c.Faithful)
    (act : Interceptor σ κ → SignatureMap → α → α) (x : α) :
    (c.walked act x).answer = foldLooked Interceptor.resolve act c.interceptors x :=
  walk_answer act 0 faithful x

theorem Faithful.validate_eq_error_iff (faithful : c.Faithful) {e : PluginError} :
    c.validate.answer = .error e ↔ FirstMissing c.interceptors e := by
  rw [validate, faithful.walked_answer, foldLooked_eq_error_iff, firstFailure_resolve_iff]

theorem exists_walked_answer (faithful : c.Faithful)
    (complete : ∀ i ∈ c.interceptors, ∀ s ∈ i.signatures, s.HasMethod)
    (act : Interceptor σ κ → SignatureMap → α → α) (x : α) :
    ∃ r, (c.walked act x).answer = .ok r := by
  rw [faithful.walked_answer]
  exact exists_foldLooked_eq_ok_iff.mpr fun i inside =>
    Interceptor.exists_resolve_eq_ok_iff.mpr (complete i inside)

theorem walked_answer_of_firstMissing (faithful : c.Faithful) {e : PluginError}
    (missing : FirstMissing c.interceptors e) (act : Interceptor σ κ → SignatureMap → α → α)
    (x : α) : (c.walked act x).answer = .error e := by
  rw [faithful.walked_answer]
  exact foldLooked_eq_error_iff.mpr (firstFailure_resolve_iff.mpr missing)

end Chain

/-- Applying a chain to anything and validating it come to the same: either every signature of
every entry finds a method and all succeed, or all fail with the complaint about the first
one that does not. This takes no interceptor away and adds none but what is appended, it goes
the same way for interceptors and targets that do something else with their calls, and in a
session it leaves every log, target and count of calls as it is. -/
theorem applyAll_run_fail_fast {moves : List (Move σ κ)} {c : Chain σ κ} {journal : Journal}
    (made : Chain.run {} moves = (c, journal)) :
    c.interceptors = moves.filterMap Move.appended? ∧
    (∀ o₁ o₂,
      ((∀ i ∈ c.interceptors, ∀ s ∈ i.signatures, s.HasMethod) ∧
        (∃ r, (c.applyAll o₁).answer = .ok r) ∧ (∃ r, (c.applyAll o₂).answer = .ok r) ∧
        c.validate.answer = .ok ()) ∨
      ∃ e, FirstMissing c.interceptors e ∧ (c.applyAll o₁).answer = .error e ∧
        (c.applyAll o₂).answer = .error e ∧ c.validate.answer = .error e) ∧
    (∀ x, (c.move x).1.interceptors = c.interceptors ++ x.appended?.toList) ∧
    (∀ (τ : Type) (f : Recasting σ τ κ),
      Chain.run {} (moves.map f.move) = (f.chain c, journal) ∧
      (∀ x, (f.chain c).move (f.move x) = (f.chain (c.move x).1, (c.move x).2)) ∧
      (∀ o, (f.chain c).applyAll (f.observable o) = f.result f.observable (c.applyAll o)) ∧
      (f.chain c).validate = f.result id c.validate ∧
      ∀ o i, (f.observable o).wrap (f.interceptor i) = (o.wrap i).map f.observable) ∧
    ∀ (s : Script.Session) (step : Script.Step), step.assembles = true →
      s.world.Undisturbed (s.perform step).session.world := by
  obtain ⟨rfl, rfl⟩ : (Chain.run {} moves).1 = c ∧ (Chain.run {} moves).2 = journal :=
    ⟨congrArg Prod.fst made, congrArg Prod.snd made⟩
  have faithful : (Chain.run {} moves).1.Faithful := Chain.faithful_empty.run moves
  refine ⟨Chain.interceptors_run {} moves, ?_, Chain.interceptors_move _, ?_,
    fun s step assembling => s.undisturbed_perform assembling⟩
  · intro o₁ o₂
    rcases exists_firstMissing_or (Chain.run {} moves).1.interceptors with complete | ⟨e, missing⟩
    · obtain ⟨u, validated⟩ : ∃ u, (Chain.run {} moves).1.validate.answer = .ok u :=
        Chain.exists_walked_answer faithful complete _ ()
      exact .inl ⟨complete, Chain.exists_walked_answer faithful complete _ o₁,
        Chain.exists_walked_answer faithful complete _ o₂, validated⟩
    · exact .inr ⟨e, missing, Chain.walked_answer_of_firstMissing faithful missing _ o₁,
        Chain.walked_answer_of_firstMissing faithful missing _ o₂,
        Chain.walked_answer_of_firstMissing faithful missing _ ()⟩
  · intro τ f
    exact ⟨f.run_chain {} moves, f.move_chain _, f.applyAll_chain _, f.validate_chain _,
      f.wrap_observable⟩

section

open Tracing

/-- An entry that resolves, and one whose second signature names a method that nobody has. -/
def Tracing.misdeclared : List (Move (List Mark)) :=
  [.append (tracer "A" [⟨executor, "update", ["String", "i64"]⟩]),
    .validate,
    .append (tracer "broken" [⟨executor, "close", []⟩, ⟨executor, "update", ["String"]⟩]),
    .apply (.ofTarget worker)]

theorem applyAll_run_fail_fast_misdeclared :
    ∃ c journal e, Chain.run {} misdeclared = (c, journal) ∧
      e = .methodNotFound "broken" "Executor" "update" "String" ∧
      (c.applyAll (.ofTarget worker)).answer = .error e ∧ c.validate.answer = .error e ∧
      (∀ f : Recasting (List Mark) Unit, (f.chain c).validate.answer = .error e) ∧
      ∀ s : Script.Session, s.world.Undisturbed (s.perform (.validate "chain")).session.world := by
  have made : Chain.run {} misdeclared =
    ((Chain.run {} misdeclared).1, (Chain.run {} misdeclared).2) := rfl
  obtain ⟨_, together, _, recast, undisturbed⟩ := applyAll_run_fail_fast made
  rcases together (.ofTarget worker) (.ofTarget worker) with
    ⟨_, _, _, valid⟩ | ⟨e, _, applied, _, validated⟩
  · cases valid
  · refine ⟨_, _, e, made, ?_, applied, validated, ?_, fun s => undisturbed s _ rfl⟩
    · cases validated
      rfl
    · intro f
      rw [(recast Unit f).2.2.2.1]
      exact congrArg (Except.map id) validated

end

end Interception
