import Interception.Proofs.Building
import Interception.Proofs.Outline

/-!
# Resolving at once or later

Two builds of one configuration, the one validating at once and the other not, start from
states of their own. If the factories declare the same from every state, the two make
interceptors that declare the same, or are refused alike. What then does not resolve shows
when the one is built or whenever the other is applied; it is the same complaint.
-/

set_option autoImplicit false

namespace Interception

variable {σ κ : Type} [Kinds κ]

namespace Chain

variable {c : Chain σ κ} {e : PluginError}

theorem Faithful.applyAll_eq_error_iff (faithful : c.Faithful) {o : Observable σ κ} :
    (c.applyAll o).answer = .error e ↔ c.validate.answer = .error e := by
  rw [faithful.validate_eq_error_iff, Chain.applyAll, faithful.walked_answer,
    foldLooked_eq_error_iff, firstFailure_resolve_iff]

/-- A chain that has been validated is like whatever it was like before. -/
theorem Alike.validate {d : Chain σ κ} (alike : c.Alike d) : c.validate.chain.Alike d where
  left := alike.left.walked _ _
  right := alike.right
  interceptors := by
    rw [Chain.validate, interceptors_walked]
    exact alike.interceptors

end Chain

namespace Registry

/-- From every state a factory and the instance that it hands over declare the same, or
complain alike; what the interceptors do may differ. -/
def Deterministic (r : Registry σ κ) : Prop :=
  ∀ name f, r.find? name = some f → ∀ properties s t,
    ((f s).1.configure properties (f s).2).1.map Interceptor.declaration =
      ((f t).1.configure properties (f t).2).1.map Interceptor.declaration

/-- Some setting is refused with `e`, because nobody is registered under its name or because
its instance cannot be configured. -/
def FailsToMake (r : Registry σ κ) (plugins : List PluginSetting) (s : σ) (e : PluginError) :
    Prop :=
  ∃ made t, r.Stops plugins s made e t

variable {r : Registry σ κ} {setting : PluginSetting} {plugins : List PluginSetting} {s t u : σ}
  {i : Interceptor σ κ} {made : List (Interceptor σ κ)} {e : PluginError}

namespace Deterministic

theorem makes (deterministic : r.Deterministic) (met : r.Makes setting s i t) (s' : σ) :
    ∃ j t', r.Makes setting s' j t' ∧ i.Alike j := by
  obtain ⟨f, found, configured⟩ := met
  have same := deterministic _ f found setting.properties s s'
  rw [configured] at same
  rcases again : (f s').1.configure setting.properties (f s').2 with ⟨e | j, t'⟩
  · rw [again] at same
    cases same
  · rw [again] at same
    exact ⟨j, t', ⟨f, found, again⟩, Except.ok.inj same⟩

theorem refuses (deterministic : r.Deterministic) (refused : r.Refuses setting s e t) (s' : σ) :
    ∃ t', r.Refuses setting s' e t' := by
  rcases refused with ⟨unknown, rfl, _⟩ | ⟨f, found, configured⟩
  · exact ⟨s', .inl ⟨unknown, rfl, rfl⟩⟩
  · have same := deterministic _ f found setting.properties s s'
    rw [configured] at same
    rcases again : (f s').1.configure setting.properties (f s').2 with ⟨e' | j, t'⟩
    · rw [again] at same
      obtain rfl : e = e' := Except.error.inj same
      exact ⟨t', .inr ⟨f, found, again⟩⟩
    · rw [again] at same
      cases same

theorem makesAll (deterministic : r.Deterministic) (met : r.MakesAll plugins s made t)
    (s' : σ) :
    ∃ made' t', r.MakesAll plugins s' made' t' ∧
      List.Forall₂ Interceptor.Alike made made' := by
  induction met generalizing s' with
  | nil s => exact ⟨[], s', .nil s', .nil⟩
  | cons first _ ih =>
    obtain ⟨j, t', first', alike⟩ := deterministic.makes first s'
    obtain ⟨made', u', later', others⟩ := ih t'
    exact ⟨j :: made', u', .cons first' later', .cons alike others⟩

theorem failsToMake (deterministic : r.Deterministic) (fails : r.FailsToMake plugins s e)
    (s' : σ) : r.FailsToMake plugins s' e := by
  obtain ⟨_, _, @⟨before, setting, s, t, u, made, e, after, met, refused⟩⟩ := fails
  obtain ⟨made', t', met', _⟩ := deterministic.makesAll met s'
  obtain ⟨u', refused'⟩ := deterministic.refuses refused t'
  exact ⟨made', u', .at after met' refused'⟩

end Deterministic

theorem answer_of_failsToMake (fails : r.FailsToMake plugins s e) (eager : Bool) :
    (r.build ⟨plugins, eager⟩ s).answer = .error e := by
  obtain ⟨made, t, stops⟩ := fails
  rw [build_of_stops stops]

theorem not_failsToMake_of_ok {eager : Bool} {c : Chain σ κ}
    (built : (r.build ⟨plugins, eager⟩ s).answer = .ok c) : ¬r.FailsToMake plugins s e := by
  intro fails
  rw [answer_of_failsToMake fails] at built
  cases built

theorem exists_makesAll (makes : ∀ e, ¬r.FailsToMake plugins s e) :
    ∃ made t, r.MakesAll plugins s made t := by
  rcases makesAll_or_stops r plugins s with met | ⟨made, e, t, stops⟩
  · exact met
  · exact absurd ⟨made, t, stops⟩ (makes e)

/-- A failure that is none to make something comes after all settings are met. -/
theorem exists_makesAll_of_error {eager : Bool}
    (failed : ¬r.FailsToMake plugins s e ∧ (r.build ⟨plugins, eager⟩ s).answer = .error e) :
    ∃ made t, r.MakesAll plugins s made t := by
  apply exists_makesAll
  intro e' fails
  have same : e' = e := Except.error.inj ((answer_of_failsToMake fails eager).symm.trans failed.2)
  exact failed.1 (same ▸ fails)

theorem build_lazy_eq_error_iff :
    (r.build ⟨plugins, false⟩ s).answer = .error e ↔ r.FailsToMake plugins s e := by
  constructor
  · intro failed
    rcases makesAll_or_stops r plugins s with ⟨made, t, met⟩ | ⟨made, e', t, stops⟩
    · rw [build_lazy met] at failed
      cases failed
    · rw [build_of_stops stops] at failed
      cases failed
      exact ⟨made, t, stops⟩
  · exact fun fails => answer_of_failsToMake fails false

/-- Where all settings are met, what validating at once answers is what validating a chain
answers that is like the one of the other build. -/
theorem Deterministic.exists_alike (deterministic : r.Deterministic)
    (met : r.MakesAll plugins s made u) (t : σ) :
    ∃ c d : Chain σ κ, c.Alike d ∧ (r.build ⟨plugins, false⟩ t).answer = .ok d ∧
      (r.build ⟨plugins, true⟩ s).answer = c.validate.answer.map fun _ => c.validate.chain := by
  obtain ⟨made', u', met', alike⟩ := deterministic.makesAll met t
  refine ⟨.ofInterceptors made, .ofInterceptors made', ⟨?_, ?_, ?_⟩, ?_, ?_⟩
  · exact Chain.faithful_ofInterceptors made
  · exact Chain.faithful_ofInterceptors made'
  · rw [Chain.interceptors_ofInterceptors, Chain.interceptors_ofInterceptors]
    exact alike
  · rw [build_lazy met']
  · rw [build_eager met]

/-- What validating at once gives is like what the other build gives. -/
theorem Deterministic.exists_alike_of_build_eager (deterministic : r.Deterministic)
    {c : Chain σ κ} (built : (r.build ⟨plugins, true⟩ s).answer = .ok c) (t : σ) :
    ∃ d, (r.build ⟨plugins, false⟩ t).answer = .ok d ∧ c.Alike d := by
  obtain ⟨made, u, met⟩ := exists_makesAll fun _ => not_failsToMake_of_ok built
  obtain ⟨c', d, alike, deferred, answer⟩ := deterministic.exists_alike met t
  obtain ⟨_, _, rfl⟩ := map_eq_ok_iff.mp (answer.symm.trans built)
  exact ⟨d, deferred, alike.validate⟩

/-- The chain of the one build ends every application as the other build ends. -/
theorem Deterministic.applyAll_run_eq_error_iff (deterministic : r.Deterministic)
    {d : Chain σ κ} (built : (r.build ⟨plugins, false⟩ t).answer = .ok d) {moves : List (Move σ κ)}
    (still : moves.filterMap Move.appended? = []) (s : σ) (o : Observable σ κ) :
    ((d.run moves).1.applyAll o).answer = .error e ↔
      (r.build ⟨plugins, true⟩ s).answer = .error e := by
  have makes : ∀ e, ¬r.FailsToMake plugins s e :=
    fun _ fails => not_failsToMake_of_ok built (deterministic.failsToMake fails t)
  obtain ⟨made, u, met⟩ := exists_makesAll makes
  obtain ⟨c, d', alike, built', answer⟩ := deterministic.exists_alike met t
  obtain rfl : d = d' := Except.ok.inj (built.symm.trans built')
  have unmoved : ([] : List (Move σ κ)).filterMap Move.appended? = [] := rfl
  rw [answer, map_eq_error_iff, ← alike.left.applyAll_eq_error_iff (o := o)]
  exact ((alike.run unmoved still).applyAll_eq_error_iff).symm

/-- Validating at once and not doing so agree. A setting that is refused ends both with the
same complaint. Where the settings are met, the one build ends with a complaint about a
declaration exactly if the other gives a chain, and then that chain ends every application
with this complaint, whatever was done with it in between. And where validating succeeds, so
does every application of either chain, with outlines, descriptions and routes that agree. -/
theorem build_eager_agrees_lazy (deterministic : r.Deterministic) {eager lazy : BuildResult σ κ}
    (atOnce : r.build ⟨plugins, true⟩ s = eager) (later : r.build ⟨plugins, false⟩ t = lazy) :
    (∀ e, r.FailsToMake plugins s e ∧ eager.answer = .error e ↔ lazy.answer = .error e) ∧
    (∀ e, lazy.answer = .error e → r.FailsToMake plugins t e) ∧
    (∀ e, ¬r.FailsToMake plugins s e ∧ eager.answer = .error e ↔
      ∃ d, lazy.answer = .ok d ∧ ∀ o, (d.applyAll o).answer = .error e) ∧
    (∀ e, ¬r.FailsToMake plugins s e ∧ eager.answer = .error e →
      ∃ made u, r.MakesAll plugins s made u ∧ FirstMissing made e) ∧
    (∀ d moves o e, lazy.answer = .ok d → moves.filterMap Move.appended? = [] →
      (((d.run moves).1.applyAll o).answer = .error e ↔ eager.answer = .error e)) ∧
    ∀ c, eager.answer = .ok c → ∃ d, lazy.answer = .ok d ∧
      ∀ before after, before.filterMap Move.appended? = [] → after.filterMap Move.appended? = [] →
      ∀ o, ∃ p q, ((c.run before).1.applyAll o).answer = .ok p ∧
        ((d.run after).1.applyAll o).answer = .ok q ∧
        p.outline = q.outline ∧ p.descriptor = q.descriptor ∧ ∀ m, p.routes m = q.routes m := by
  subst atOnce later
  have applied : ∀ d moves o e, (r.build ⟨plugins, false⟩ t).answer = .ok d →
      moves.filterMap Move.appended? = [] →
      (((d.run moves).1.applyAll o).answer = .error e ↔
        (r.build ⟨plugins, true⟩ s).answer = .error e) :=
    fun d moves o e built still => deterministic.applyAll_run_eq_error_iff built still s o
  refine ⟨?_, fun e => build_lazy_eq_error_iff.mp, ?_, ?_, applied, ?_⟩
  · intro e
    rw [build_lazy_eq_error_iff]
    constructor
    · exact fun failed => deterministic.failsToMake failed.1 t
    · intro fails
      have fails' := deterministic.failsToMake fails s
      exact ⟨fails', answer_of_failsToMake fails' true⟩
  · intro e
    constructor
    · intro failed
      obtain ⟨made, u, met⟩ := exists_makesAll_of_error failed
      obtain ⟨_, d, _, built, _⟩ := deterministic.exists_alike met t
      exact ⟨d, built, fun o => (applied d [] o e built rfl).mpr failed.2⟩
    · rintro ⟨d, built, fails⟩
      let bare : Observable σ κ := .ofTarget ⟨⟨⟨"", []⟩, []⟩, fun _ _ s =>
        (.error (.failure "" ""), s)⟩
      refine ⟨?_, (applied d [] bare e built rfl).mp (fails bare)⟩
      intro stopped
      exact not_failsToMake_of_ok built (deterministic.failsToMake stopped t)
  · intro e failed
    obtain ⟨made, u, met⟩ := exists_makesAll_of_error failed
    exact ⟨made, u, met, (build_eager_eq_error_iff met).mp failed.2⟩
  · intro c built
    obtain ⟨d, deferred, alike⟩ := deterministic.exists_alike_of_build_eager built t
    refine ⟨d, deferred, ?_⟩
    intro before after still still' o
    have alike' := alike.run still still'
    have succeeds : ∀ e, ((c.run before).1.applyAll o).answer ≠ .error e := by
      intro e failed
      rw [alike'.applyAll_eq_error_iff, applied d after o e deferred still', built] at failed
      cases failed
    obtain ⟨p, q, first, second, outlines⟩ := alike'.exists_applyAll succeeds
    exact ⟨p, q, first, second, outlines, Observable.descriptor_congr outlines,
      Observable.routes_congr outlines⟩

end Registry

section

open Registry Tracing

/-- A name with tracers that resolve, and one with tracers that do not. -/
def Tracing.makers : Registry (List Mark) :=
  ofRegistrations [("A", maker "A" [⟨executor, "close", []⟩]),
    ("broken", maker "broken" [⟨executor, "missing", []⟩])]

theorem Tracing.deterministic_makers : makers.Deterministic := by
  intro name f found properties s t
  obtain ⟨earlier, later, split, _⟩ := find?_eq_some_iff.mp found
  have inside : (name, f) ∈ earlier ++ (name, f) :: later := by simp
  rw [← split] at inside
  simp only [List.mem_cons, Prod.mk.injEq, List.not_mem_nil, or_false] at inside
  rcases inside with ⟨_, rfl⟩ | ⟨_, rfl⟩
  · rfl
  · rfl

theorem Registry.build_eager_agrees_lazy_broken :
    (makers.build ⟨[⟨"A", {}⟩, ⟨"broken", {}⟩], true⟩ []).answer =
      .error (.methodNotFound "broken" "Executor" "missing" "") ∧
    ∃ d, (makers.build ⟨[⟨"A", {}⟩, ⟨"broken", {}⟩], false⟩ [.after "A"]).answer = .ok d ∧
      ∀ o, (d.applyAll o).answer =
        .error (.methodNotFound "broken" "Executor" "missing" "") := by
  have failed : (makers.build ⟨[⟨"A", {}⟩, ⟨"broken", {}⟩], true⟩ []).answer =
    .error (.methodNotFound "broken" "Executor" "missing" "") := rfl
  obtain ⟨stopped, _, missing, _⟩ := build_eager_agrees_lazy (t := [.after "A"])
    deterministic_makers rfl rfl
  refine ⟨failed, (missing _).mp ⟨?_, failed⟩⟩
  intro fails
  cases (stopped _).mp ⟨fails, failed⟩

end

end Interception
