import Mathlib.Logic.Function.Iterate
import Interception.Proofs.Narrowing
import Interception.Proofs.Onion

/-!
# Interceptors that claim the same

An interceptor claims the names that it declares something under and that are realized where it
is put. Layers of interceptors that claim the same show the same, and they keep all that is
claimed; so what each of them claims and finds is the same at every height. A stack of such
layers describes what is below it by as many narrowings of one kind, and which of the
interceptors find a method can be read off the ground that the stack stands on.
-/

set_option autoImplicit false

namespace Interception

variable {σ κ : Type} [Kinds κ]

open Interface

namespace Interceptor

/-- `d` realizes an interface of that name, and the interceptor declares something under it. -/
def Claims (i : Interceptor σ κ) (d : TypeDescriptor) (name : String) : Prop :=
  d.realizes name = true ∧ ∃ s ∈ i.signatures, s.interface.name = name

variable {i : Interceptor σ κ} {map : SignatureMap} {d : TypeDescriptor} {m : Method}

theorem declares_iff_claims :
    i.Declares d m ↔ ∃ s ∈ i.signatures, i.Claims d s.interface.name ∧ s.find? = some m := by
  constructor
  · rintro ⟨s, declared, realized, found⟩
    exact ⟨s, declared, ⟨realized, s, declared, rfl⟩, found⟩
  · rintro ⟨s, declared, ⟨realized, _⟩, found⟩
    exact ⟨s, declared, realized, found⟩

theorem covers_iff_claims (resolved : i.resolve = .ok map) {j : Interface}
    (listed : j ∈ d.allInterfaces) : map.covers j.name = true ↔ i.Claims d j.name := by
  rw [SignatureMap.covers_iff resolved]
  exact ⟨fun declared => ⟨TypeDescriptor.realizes_iff.mpr ⟨j, listed, rfl⟩, declared⟩,
    fun claimed => claimed.2⟩

theorem covered_isEmpty_iff_claims (resolved : i.resolve = .ok map) :
    (map.covered d).isEmpty = true ↔ ∀ name, ¬i.Claims d name := by
  rw [SignatureMap.covered_isEmpty_iff resolved]
  constructor
  · rintro nothing name ⟨realized, s, declared, rfl⟩
    rw [nothing s declared] at realized
    cases realized
  · intro nothing s declared
    rw [← Bool.not_eq_true]
    exact fun realized => nothing s.interface.name ⟨realized, s, declared, rfl⟩

end Interceptor

/-- Layers of interceptors that claim the same show the same. -/
theorem Layer.describe_eq_of_claims {i j : Interceptor σ κ} {map map' : SignatureMap}
    {d : TypeDescriptor} (resolved : i.resolve = .ok map) (resolved' : j.resolve = .ok map')
    (same : ∀ name, i.Claims d name ↔ j.Claims d name) :
    Layer.describe ⟨i, map⟩ d = Layer.describe ⟨j, map'⟩ d := by
  have covered : map.covered d = map'.covered d := by
    apply List.filter_congr
    intro k listed
    rw [Bool.eq_iff_iff, Interceptor.covers_iff_claims resolved listed,
      Interceptor.covers_iff_claims resolved' listed, same]
  rw [describe, describe, covered]

/-- The interceptors that find `m` on what `d` realizes. -/
def declaring (d : TypeDescriptor) (m : Method) (interceptors : List (Interceptor σ κ)) :
    List (Interceptor σ κ) :=
  interceptors.filter fun i => decide (i.Declares d m)

theorem declaring_sublist (d : TypeDescriptor) (m : Method)
    (interceptors : List (Interceptor σ κ)) : (declaring d m interceptors).Sublist interceptors :=
  List.filter_sublist

theorem declares_of_mem_declaring {d : TypeDescriptor} {m : Method}
    {interceptors : List (Interceptor σ κ)} {i : Interceptor σ κ}
    (inside : i ∈ declaring d m interceptors) : i.Declares d m :=
  of_decide_eq_true (List.mem_filter.mp inside).2

/-- The interceptors claim the same of what `d` realizes, and no two of them find the same
method there. An interceptor that is listed twice has to find none. -/
structure Independent (d : TypeDescriptor) (interceptors : List (Interceptor σ κ)) : Prop where
  names : ∀ i ∈ interceptors, ∀ j ∈ interceptors, ∀ name, i.Claims d name → j.Claims d name
  methods : interceptors.Pairwise fun i j => ∀ m, i.Declares d m → ¬j.Declares d m

namespace Independent

variable {d : TypeDescriptor} {interceptors interceptors' : List (Interceptor σ κ)}

/-- A method is found by one of the interceptors at most. -/
theorem declaring_cases (independent : Independent d interceptors) (m : Method) :
    declaring d m interceptors = [] ∨ ∃ i, declaring d m interceptors = [i] := by
  have apart := independent.methods.sublist (declaring_sublist d m interceptors)
  rcases found : declaring d m interceptors with _ | ⟨i, _ | ⟨j, rest⟩⟩
  · exact .inl rfl
  · exact .inr ⟨i, rfl⟩
  · rw [found] at apart
    have first : i.Declares d m := declares_of_mem_declaring (found ▸ List.mem_cons_self)
    have second : j.Declares d m :=
      declares_of_mem_declaring (found ▸ List.mem_cons_of_mem i List.mem_cons_self)
    exact absurd second ((List.pairwise_cons.mp apart).1 j List.mem_cons_self m first)

/-- The interceptors that find a method are the same in every order. -/
theorem declaring_perm (independent : Independent d interceptors)
    (reordered : interceptors'.Perm interceptors) (m : Method) :
    declaring d m interceptors' = declaring d m interceptors := by
  have same : (declaring d m interceptors').Perm (declaring d m interceptors) :=
    reordered.filter _
  rcases independent.declaring_cases m with none | ⟨i, one⟩
  · rw [none] at same ⊢
    exact List.perm_nil.mp same
  · rw [one] at same ⊢
    exact List.perm_singleton.mp same

end Independent

/-- What is left of `ground` behind layers that keep everything of a claimed name. -/
structure Remains (claimed : String → Prop) (ground d : TypeDescriptor) : Prop where
  unique : UniqueNames d.declared
  within : ∀ name, d.realizes name = true → ground.realizes name = true
  kept : ∀ name, claimed name → d.realizes name = true

namespace Remains

variable {claimed : String → Prop} {ground d : TypeDescriptor} {i : Interceptor σ κ}
  {map : SignatureMap}

theorem claims_iff (remains : Remains claimed ground d)
    (claims : ∀ name, i.Claims ground name ↔ claimed name) {name : String} :
    i.Claims d name ↔ claimed name := by
  rw [← claims]
  constructor
  · rintro ⟨realized, declared⟩
    exact ⟨remains.within name realized, declared⟩
  · intro claim
    exact ⟨remains.kept name ((claims name).mp claim), claim.2⟩

theorem declares_iff (remains : Remains claimed ground d)
    (claims : ∀ name, i.Claims ground name ↔ claimed name) {m : Method} :
    i.Declares d m ↔ i.Declares ground m := by
  simp only [Interceptor.declares_iff_claims, remains.claims_iff claims, claims]

theorem describe (remains : Remains claimed ground d)
    (claims : ∀ name, i.Claims ground name ↔ claimed name) (resolved : i.resolve = .ok map) :
    Remains claimed ground (Layer.describe ⟨i, map⟩ d) where
  unique := Layer.uniqueNames_describe remains.unique
  within name realized :=
    remains.within name (Layer.realizes_of_realizes_describe remains.unique realized)
  kept name claim := by
    obtain ⟨realized, s, declared, rfl⟩ := (remains.claims_iff claims).mpr claim
    exact Layer.realizes_describe_of_declared resolved declared realized

end Remains

namespace Observable

theorem intercepting_append (o : Observable σ κ) (m : Method) (outer inner : List (Layer σ κ)) :
    o.intercepting m (outer ++ inner) =
      (o.wearing inner).intercepting m outer ++ o.intercepting m inner := by
  induction outer with
  | nil => rfl
  | cons l outer ih =>
    have below : o.wearing (outer ++ inner) = (o.wearing inner).wearing outer := by
      simp only [wearing, List.append_assoc]
    simp only [List.cons_append, intercepting, below, ih]
    split <;> rfl

theorem wearing_concat (o : Observable σ κ) (layers : List (Layer σ κ)) (l : Layer σ κ) :
    o.wearing (layers ++ [l]) = (o.wear l).wearing layers := by
  simp only [wearing, wear, List.append_assoc, List.singleton_append]

theorem intercepting_singleton (o : Observable σ κ) (m : Method) (l : Layer σ κ) :
    (o.intercepting m [l]).map (·.interceptor) =
      if l.intercepts o.descriptor m = true then [l.interceptor] else [] := by
  cases declared : l.intercepts o.descriptor m <;> simp [intercepting, declared]

/-- Interceptors that claim the same names, and some name, add a layer each. Every layer
describes what is below it as any of them would. -/
theorem exists_foldlM_wrap_of_claims {l : Layer σ κ} {ground : TypeDescriptor}
    (resolved : l.interceptor.resolve = .ok l.signatures)
    (claimed : ∃ name, l.interceptor.Claims ground name) {interceptors : List (Interceptor σ κ)}
    (resolves : ∀ i ∈ interceptors, ∃ map, i.resolve = .ok map)
    (claims : ∀ i ∈ interceptors, ∀ name,
      i.Claims ground name ↔ l.interceptor.Claims ground name)
    {o : Observable σ κ} (remains : Remains (l.interceptor.Claims ground) ground o.descriptor) :
    ∃ layers, interceptors.foldlM wrap o = .ok (o.wearing layers) ∧
      layers.length = interceptors.length ∧
      (o.wearing layers).descriptor = l.describe^[interceptors.length] o.descriptor ∧
      ∀ m, (o.intercepting m layers).map (·.interceptor) =
        (declaring ground m interceptors).reverse := by
  induction interceptors generalizing o with
  | nil => exact ⟨[], rfl, rfl, rfl, fun _ => rfl⟩
  | cons i rest ih =>
    obtain ⟨map, own⟩ := resolves i List.mem_cons_self
    have same := claims i List.mem_cons_self
    have covers : ¬(map.covered o.descriptor).isEmpty = true := by
      obtain ⟨name, claim⟩ := claimed
      rw [Interceptor.covered_isEmpty_iff_claims own]
      exact fun nothing => nothing name ((remains.claims_iff same).mpr claim)
    have wrapped : o.wrap i = .ok (o.wear ⟨i, map⟩) :=
      (wrap_of_resolve own).trans (congrArg Except.ok (if_neg covers))
    obtain ⟨layers, folded, length, described, intercepted⟩ :=
      ih (fun j inside => resolves j (List.mem_cons_of_mem i inside))
        (fun j inside => claims j (List.mem_cons_of_mem i inside))
        (o := o.wear ⟨i, map⟩) (remains.describe same own)
    refine ⟨layers ++ [⟨i, map⟩], ?_, ?_, ?_, fun m => ?_⟩
    · rw [foldlM_wrap_cons wrapped, folded, wearing_concat]
    · rw [List.length_append, length]
      rfl
    · have alike : Layer.describe ⟨i, map⟩ o.descriptor = l.describe o.descriptor :=
        Layer.describe_eq_of_claims own resolved fun name =>
          (remains.claims_iff same).trans (remains.claims_iff fun _ => Iff.rfl).symm
      rw [wearing_concat, described, descriptor_wear, alike]
      rfl
    · have found : Layer.intercepts ⟨i, map⟩ o.descriptor m = true ↔ i.Declares ground m :=
        (Layer.intercepts_iff_declares own).trans (remains.declares_iff same)
      rw [intercepting_append, List.map_append, intercepting_singleton]
      refine (congrArg (· ++ _) (intercepted m)).trans ?_
      simp only [found, declaring, List.filter_cons, decide_eq_true_eq]
      split
      · rw [List.reverse_cons]
      · rw [List.append_nil]

theorem foldlM_wrap_of_no_claims {interceptors : List (Interceptor σ κ)} {o : Observable σ κ}
    (resolves : ∀ i ∈ interceptors, ∃ map, i.resolve = .ok map)
    (unclaimed : ∀ i ∈ interceptors, ∀ name, ¬i.Claims o.descriptor name) :
    interceptors.foldlM wrap o = .ok o := by
  induction interceptors with
  | nil => rfl
  | cons i rest ih =>
    obtain ⟨map, own⟩ := resolves i List.mem_cons_self
    have empty : (map.covered o.descriptor).isEmpty = true :=
      (Interceptor.covered_isEmpty_iff_claims own).mpr (unclaimed i List.mem_cons_self)
    have wrapped : o.wrap i = .ok o :=
      (wrap_of_resolve own).trans (congrArg Except.ok (if_pos empty))
    rw [foldlM_wrap_cons wrapped]
    exact ih (fun j inside => resolves j (List.mem_cons_of_mem i inside))
      fun j inside => unclaimed j (List.mem_cons_of_mem i inside)

end Observable

end Interception
