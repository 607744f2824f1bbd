import Interception.Proofs.Assembly
import Interception.Proofs.FailFast
import Interception.Proofs.Instances
import Interception.Proofs.Looks

/-!
# Building a chain

A build has four ways to end: a setting is refused; all settings are met and that is all;
all are met and some entry does not resolve; all are met and every entry resolves. Which
one it takes, what it answers, what it leaves behind and what it reports is the relation
`Registry.Builds`.
-/

set_option autoImplicit false

namespace Interception

variable {σ κ : Type} [Kinds κ]

/-- An entry that keeps what its interceptor resolves to. -/
def ChainEntry.learnt (i : Interceptor σ κ) : ChainEntry σ κ where
  interceptor := i
  resolved := i.resolve.toOption

namespace Chain

theorem faithful_ofInterceptors (made : List (Interceptor σ κ)) :
    (Chain.ofInterceptors made).Faithful := by
  intro e inside map kept
  obtain ⟨i, _, rfl⟩ := List.mem_map.mp inside
  cases kept

@[simp] theorem interceptors_ofInterceptors (made : List (Interceptor σ κ)) :
    (Chain.ofInterceptors made).interceptors = made := by
  rw [interceptors, ofInterceptors, freshEntries, List.map_map]
  exact List.map_id made

end Chain

namespace Registry

variable {r : Registry σ κ} {s : σ}

/-- Where all settings are met, a validation at once fails exactly if some entry does not
resolve, and as the first of them does. -/
theorem build_eager_eq_error_iff {plugins : List PluginSetting} {made : List (Interceptor σ κ)}
    {t : σ} (met : r.MakesAll plugins s made t) {e : PluginError} :
    (r.build ⟨plugins, true⟩ s).answer = .error e ↔ FirstMissing made e := by
  rw [build_eager met, map_eq_error_iff,
    (Chain.faithful_ofInterceptors made).validate_eq_error_iff,
    Chain.interceptors_ofInterceptors]

end Registry

section

open Registry Tracing

/-- The second entry would not resolve, and nobody is registered under the name of the third. -/
def Tracing.unfinished : BuildResult (List Mark) :=
  (ofRegistrations [("A", maker "old" []), ("B", maker "B" [⟨executor, "missing", []⟩]),
    ("A", maker "A" [])]).build ⟨[⟨"A", {}⟩, ⟨"B", {}⟩, ⟨"C", {}⟩, ⟨"A", {}⟩], true⟩ []

example : unfinished.answer = .error (.unknownInterceptor "C") ∧
    unfinished.state = [.before "A", .after "A", .before "B", .after "B"] := ⟨rfl, rfl⟩

end

end Interception
