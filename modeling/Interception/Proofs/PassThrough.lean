import Interception.Proofs.Onion

/-!
# Methods that no layer intercepts

Such a call is composed of no layers: what is left is the call of what the chain was
applied to. All that the layers can do is to refuse it, and then the outermost one does.
-/

set_option autoImplicit false

namespace Interception

variable {σ κ : Type} [Kinds κ]

namespace Observable

/-- A call that is let in and that no layer intercepts is the call of what lies below. -/
theorem invoke_wearing_of_not_intercepts {o : Observable σ κ} {layers : List (Layer σ κ)}
    {m : Method} (admitted : layers = [] ∨ (o.wearing layers).admits m = true)
    (undeclared : o.intercepting m layers = []) (args : Args κ) (s : σ) :
    (o.wearing layers).invoke m args s = o.invoke m args s := by
  -- Nothing is composed, so it does not matter what the interceptors are said to do.
  let enter : Interceptor σ κ → Args κ → σ → Entry σ κ × σ := fun _ _ s =>
    (.stop (.error (.failure "" "")), s)
  have follows : ∀ l ∈ o.intercepting m layers, l.interceptor.Follows m (enter l.interceptor) := by
    intro l inside
    rw [undeclared] at inside
    cases inside
  rw [invoke_wearing_eq_compose admitted follows, undeclared, compose]

theorem call_of_error {o : Observable σ κ} {m : Method} {args : Args κ} {s : σ} {e : CallError}
    (failed : (o.invoke m args s).outcome = .error e) (k : κ) :
    o.call m args k s = o.invoke m args s := by
  simp only [call, failed, Outcome.expect]
  rw [← failed]

theorem call_congr {o p : Observable σ κ} {m : Method} {args : Args κ} {s : σ}
    (same : o.invoke m args s = p.invoke m args s) (k : κ) :
    o.call m args k s = p.call m args k s := by
  simp only [call, same]

end Observable

/-- A method that none of the layers of a chain intercepts. If the outermost layer exposes
it, or there is no layer, calling it is calling what the chain was applied to, with the same
outcome, state and visits, all of them below the layers; otherwise the refusal of the
outermost layer is all that happens. The same holds if the result has to be of some kind,
whatever kinds there are. -/
theorem applyAll_run_pass_through (moves : List (Move σ κ)) {o r : Observable σ κ}
    (applied : ((Chain.run {} moves).1.applyAll o).answer = .ok r) (m : Method) :
    ∃ layers, r = o.wearing layers ∧ (o.intercepting m layers = [] → ∀ args s,
      (layers = [] ∨ r.admits m = true →
        r.invoke m args s = o.invoke m args s ∧
        (∀ k : κ, r.call m args k s = o.call m args k s) ∧
        (∀ v ∈ (r.invoke m args s).visits, v.height ≤ o.depth) ∧
        ∀ t, o = .ofTarget t → r.invoke m args s =
          ⟨(t.serve m args s).1, (t.serve m args s).2, [.target m args]⟩) ∧
      (layers ≠ [] → r.admits m = false →
        r.invoke m args s =
          ⟨.error (.dispatch (.notExposed r.descriptor.name m.interface m.name)), s,
            [.refused (r.depth - 1) m args]⟩ ∧
        ∀ k : κ, r.call m args k s = r.invoke m args s)) := by
  have answer := (Chain.faithful_empty.run moves).applyAll o
  obtain ⟨layers, rfl, _⟩ := Observable.exists_wearing_of_foldlM (answer.symm.trans applied)
  refine ⟨layers, rfl, ?_⟩
  intro undeclared args s
  constructor
  · intro admitted
    have passed := Observable.invoke_wearing_of_not_intercepts admitted undeclared args s
    refine ⟨passed, Observable.call_congr passed, ?_, ?_⟩
    · rw [passed]
      exact o.height_le_depth m args s
    · rintro t rfl
      rw [passed]
      rfl
  · intro _ hidden
    have refused := Observable.invoke_of_not_admits hidden args s
    exact ⟨refused, Observable.call_of_error (congrArg Reply.outcome refused)⟩

section

open Tracing

/-- Two layers that intercept another method of the same interface, and an entry that adds
none between them. -/
def Tracing.updating : List (Move (List Mark)) :=
  [.append (tracer "A" [⟨executor, "update", ["String", "i64"]⟩]),
    .append (tracer "idle" [⟨⟨"Driver", [⟨"Driver", "start", []⟩], []⟩, "start", []⟩]),
    .append (tracer "A" [⟨executor, "update", ["String", "i64"]⟩])]

theorem applyAll_run_pass_through_close :
    ∃ r, ((Chain.run {} updating).1.applyAll (.ofTarget worker)).answer = .ok r ∧ r.depth = 2 ∧
      r.invoke close {} [] = ⟨.ok (.ofSize 0), [.served "close"], [.target close {}]⟩ ∧
      r.call close {} .text [] =
        ⟨.error (.dispatch (.returnType Kind.text.typeName)), [.served "close"],
          [.target close {}]⟩ ∧
      r.call ⟨"Driver", "start", []⟩ {} .text [] =
        ⟨.error (.dispatch (.notExposed "Plugin<Plugin<MockExecutor>>" "Driver" "start")), [],
          [.refused 1 ⟨"Driver", "start", []⟩ {}]⟩ := by
  refine ⟨_, rfl, rfl, ?_⟩
  obtain ⟨layers, above, closing⟩ :=
    applyAll_run_pass_through updating (o := .ofTarget worker) rfl close
  have listed := (congrArg Observable.layers above).trans (List.append_nil layers)
  subst listed
  obtain ⟨passed, typed, _, served⟩ := (closing rfl {} []).1 (.inr rfl)
  obtain ⟨others, above', starting⟩ :=
    applyAll_run_pass_through updating (o := .ofTarget worker) rfl ⟨"Driver", "start", []⟩
  have listed := (congrArg Observable.layers above').trans (List.append_nil others)
  subst listed
  obtain ⟨refused, untyped⟩ := (starting rfl {} []).2 (by intro none; cases none) rfl
  exact ⟨served worker rfl, (typed .text).trans rfl, (untyped .text).trans refused⟩

end

end Interception
