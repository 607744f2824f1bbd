import Interception.Chain
import Interception.Proofs.FirstFailure
import Interception.Proofs.Stack

/-!
# Runs of a chain

A chain is appended to, validated and applied in any order, and some of these moves
fail. An entry that has learnt something has learnt what resolving its declarations
yields (`ChainEntry.Faithful`); every move keeps this and changes the interceptors by
appending only. So what was learnt on the way never shows in what applying yields:
it is the fold of wrapping, each interceptor resolved afresh.
-/

set_option autoImplicit false

namespace Interception

variable {σ α κ : Type} [Kinds κ]

namespace ChainEntry

/-- What the entry keeps is what its interceptor resolves to. -/
def Faithful (e : ChainEntry σ κ) : Prop :=
  ∀ map, e.resolved = some map → e.interceptor.resolve = .ok map

theorem resolve_cases (e : ChainEntry σ κ) (position : Nat) :
    (∃ map, e.resolved = some map ∧ e.resolve position = (.ok map, e, {})) ∨
    (∃ map, e.resolved = none ∧ e.interceptor.resolve = .ok map ∧
      e.resolve position = (.ok map, { e with resolved := some map },
        ⟨[.resolved e.interceptor.name], [⟨position, e.interceptor.origin⟩]⟩)) ∨
    (∃ err, e.resolved = none ∧ e.interceptor.resolve = .error err ∧
      e.resolve position = (.error err, e,
        ⟨[.resolutionFailed e.interceptor.name err], [⟨position, e.interceptor.origin⟩]⟩)) := by
  cases kept : e.resolved with
  | some map => exact .inl ⟨map, rfl, by simp only [resolve, kept]⟩
  | none =>
    cases fresh : e.interceptor.resolve with
    | ok map => exact .inr (.inl ⟨map, rfl, rfl, by simp only [resolve, kept, fresh]⟩)
    | error err => exact .inr (.inr ⟨err, rfl, rfl, by simp only [resolve, kept, fresh]⟩)

theorem resolve_interceptor (e : ChainEntry σ κ) (position : Nat) :
    (e.resolve position).2.1.interceptor = e.interceptor := by
  rcases e.resolve_cases position with ⟨map, _, same⟩ | ⟨map, _, _, learnt⟩ | ⟨err, _, _, failed⟩
  · rw [same]
  · rw [learnt]
  · rw [failed]

theorem Faithful.resolve_answer {e : ChainEntry σ κ} (faithful : e.Faithful) (position : Nat) :
    (e.resolve position).1 = e.interceptor.resolve := by
  rcases e.resolve_cases position with
    ⟨map, kept, same⟩ | ⟨map, _, fresh, learnt⟩ | ⟨err, _, fresh, failed⟩
  · rw [same, faithful map kept]
  · rw [learnt, fresh]
  · rw [failed, fresh]

theorem Faithful.resolve {e : ChainEntry σ κ} (faithful : e.Faithful) (position : Nat) :
    (e.resolve position).2.1.Faithful := by
  rcases e.resolve_cases position with
    ⟨map, _, same⟩ | ⟨map, _, fresh, learnt⟩ | ⟨err, _, _, failed⟩
  · rw [same]
    exact faithful
  · rw [learnt]
    intro map' kept
    cases kept
    exact fresh
  · rw [failed]
    exact faithful

end ChainEntry

namespace Chain

theorem walk_cons_of_ok {act : Interceptor σ κ → SignatureMap → α → α} {position : Nat}
    {e e' : ChainEntry σ κ} {map : SignatureMap} {journal : Journal}
    (resolved : e.resolve position = (.ok map, e', journal)) (rest : List (ChainEntry σ κ))
    (x : α) : walk act position (e :: rest) x =
      ((walk act (position + 1) rest (act e'.interceptor map x)).1,
        e' :: (walk act (position + 1) rest (act e'.interceptor map x)).2.1,
        journal ++ (walk act (position + 1) rest (act e'.interceptor map x)).2.2) := by
  rw [walk, resolved]

theorem walk_cons_of_error {act : Interceptor σ κ → SignatureMap → α → α} {position : Nat}
    {e e' : ChainEntry σ κ} {err : PluginError} {journal : Journal}
    (failed : e.resolve position = (.error err, e', journal)) (rest : List (ChainEntry σ κ))
    (x : α) : walk act position (e :: rest) x = (.error err, e' :: rest, journal) := by
  rw [walk, failed]

theorem walk_interceptors (act : Interceptor σ κ → SignatureMap → α → α) (position : Nat)
    (entries : List (ChainEntry σ κ)) (x : α) :
    (walk act position entries x).2.1.map (·.interceptor) = entries.map (·.interceptor) := by
  induction entries generalizing position x with
  | nil => rfl
  | cons e rest ih =>
    have same := e.resolve_interceptor position
    rcases resolved : e.resolve position with ⟨_ | map, e', journal⟩
    · rw [resolved] at same
      rw [walk_cons_of_error resolved, List.map_cons, List.map_cons, same]
    · rw [resolved] at same
      rw [walk_cons_of_ok resolved, List.map_cons, List.map_cons, same, ih]

theorem walk_faithful (act : Interceptor σ κ → SignatureMap → α → α) (position : Nat)
    {entries : List (ChainEntry σ κ)} (faithful : ∀ e ∈ entries, e.Faithful) (x : α) :
    ∀ e ∈ (walk act position entries x).2.1, e.Faithful := by
  induction entries generalizing position x with
  | nil => exact faithful
  | cons e rest ih =>
    have head := (faithful e List.mem_cons_self).resolve position
    have tail : ∀ e ∈ rest, e.Faithful := fun k inside => faithful k (List.mem_cons_of_mem e inside)
    rcases resolved : e.resolve position with ⟨_ | map, e', journal⟩
    · rw [resolved] at head
      rw [walk_cons_of_error resolved]
      intro k membership
      rcases List.mem_cons.mp membership with rfl | inside
      · exact head
      · exact tail k inside
    · rw [resolved] at head
      rw [walk_cons_of_ok resolved]
      intro k membership
      rcases List.mem_cons.mp membership with rfl | inside
      · exact head
      · exact ih (position + 1) tail _ k inside

/-- What a walk along faithful entries answers does not depend on what they keep. -/
theorem walk_answer (act : Interceptor σ κ → SignatureMap → α → α) (position : Nat)
    {entries : List (ChainEntry σ κ)} (faithful : ∀ e ∈ entries, e.Faithful) (x : α) :
    (walk act position entries x).1 =
      foldLooked Interceptor.resolve act (entries.map (·.interceptor)) x := by
  induction entries generalizing position x with
  | nil => rfl
  | cons e rest ih =>
    have answer := (faithful e List.mem_cons_self).resolve_answer position
    have same := e.resolve_interceptor position
    have tail : ∀ e ∈ rest, e.Faithful := fun k inside => faithful k (List.mem_cons_of_mem e inside)
    rw [List.map_cons]
    rcases resolved : e.resolve position with ⟨err | map, e', journal⟩
    · rw [resolved] at answer
      rw [walk_cons_of_error resolved, foldLooked_cons_of_error act answer.symm]
    · rw [resolved] at answer same
      rw [walk_cons_of_ok resolved, foldLooked_cons_of_ok act answer.symm]
      dsimp only at same ⊢
      rw [ih (position + 1) tail, same]

end Chain

inductive Move (σ : Type) (κ : Type := Kind) [Kinds κ] where
  | append (i : Interceptor σ κ)
  | validate
  | apply (o : Observable σ κ)

def Move.appended? : Move σ κ → Option (Interceptor σ κ)
  | append i => some i
  | validate | apply _ => none

namespace Chain

/-- What a move leaves behind, whether it succeeds or fails, and its report. -/
def move (c : Chain σ κ) : Move σ κ → Chain σ κ × Journal
  | .append i => c.append i
  | .validate => (c.validate.chain, c.validate.journal)
  | .apply o => ((c.applyAll o).chain, (c.applyAll o).journal)

def run (c : Chain σ κ) : List (Move σ κ) → Chain σ κ × Journal
  | [] => (c, {})
  | x :: rest =>
    let (next, journal) := c.move x
    let (last, more) := next.run rest
    (last, journal ++ more)

def Faithful (c : Chain σ κ) : Prop :=
  ∀ e ∈ c.entries, e.Faithful

theorem faithful_empty : ({} : Chain σ κ).Faithful := by
  intro e membership
  cases membership

theorem Faithful.append {c : Chain σ κ} (faithful : c.Faithful) (i : Interceptor σ κ) :
    (c.append i).1.Faithful := by
  intro e membership
  rw [entries_append] at membership
  rcases List.mem_append.mp membership with earlier | new
  · exact faithful e earlier
  · rw [List.mem_singleton] at new
    subst new
    intro map kept
    cases kept

theorem Faithful.walked {c : Chain σ κ} (faithful : c.Faithful)
    (act : Interceptor σ κ → SignatureMap → α → α) (x : α) : (c.walked act x).chain.Faithful :=
  walk_faithful act 0 faithful x

theorem Faithful.move {c : Chain σ κ} (faithful : c.Faithful) (x : Move σ κ) :
    (c.move x).1.Faithful := by
  cases x with
  | append i => exact faithful.append i
  | validate => exact faithful.walked _ _
  | apply o => exact faithful.walked _ o

theorem Faithful.run {c : Chain σ κ} (faithful : c.Faithful) (moves : List (Move σ κ)) :
    (c.run moves).1.Faithful := by
  induction moves generalizing c with
  | nil => exact faithful
  | cons x rest ih => exact ih (faithful.move x)

theorem interceptors_walked (c : Chain σ κ) (act : Interceptor σ κ → SignatureMap → α → α) (x : α) :
    (c.walked act x).chain.interceptors = c.interceptors :=
  walk_interceptors act 0 c.entries x

theorem interceptors_move (c : Chain σ κ) (x : Move σ κ) :
    (c.move x).1.interceptors = c.interceptors ++ x.appended?.toList := by
  cases x with
  | append i => simp [move, interceptors, Move.appended?]
  | validate => simp [move, validate, interceptors_walked, Move.appended?]
  | apply o => simp [move, applyAll, interceptors_walked, Move.appended?]

theorem interceptors_run (c : Chain σ κ) (moves : List (Move σ κ)) :
    (c.run moves).1.interceptors = c.interceptors ++ moves.filterMap Move.appended? := by
  induction moves generalizing c with
  | nil => simp [run]
  | cons x rest ih =>
    have later := ih (c.move x).1
    rw [interceptors_move, List.append_assoc] at later
    cases added : x.appended? <;> simpa [run, added] using later

theorem Faithful.applyAll {c : Chain σ κ} (faithful : c.Faithful) (o : Observable σ κ) :
    (c.applyAll o).answer = c.interceptors.foldlM Observable.wrap o :=
  walk_answer _ 0 faithful o

end Chain

namespace Observable

theorem wrap_eq_ok {o p : Observable σ κ} {i : Interceptor σ κ} (wrapped : o.wrap i = .ok p) :
    p = o ∨ ∃ map, p = o.wear ⟨i, map⟩ := by
  cases resolved : i.resolve with
  | error e =>
    rw [wrap, resolved] at wrapped
    cases wrapped
  | ok map =>
    rw [wrap, resolved] at wrapped
    cases wrapped
    by_cases empty : (map.covered o.descriptor).isEmpty = true
    · exact .inl (if_pos empty)
    · exact .inr ⟨map, if_neg empty⟩

theorem foldlM_wrap_cons {o p : Observable σ κ} {i : Interceptor σ κ} (wrapped : o.wrap i = .ok p)
    (rest : List (Interceptor σ κ)) :
    (i :: rest).foldlM Observable.wrap o = rest.foldlM Observable.wrap p := by
  rw [List.foldlM_cons, wrapped]
  rfl

theorem exists_wrap_of_foldlM_cons {o r : Observable σ κ} {i : Interceptor σ κ}
    {rest : List (Interceptor σ κ)} (folded : (i :: rest).foldlM Observable.wrap o = .ok r) :
    ∃ p, o.wrap i = .ok p ∧ rest.foldlM Observable.wrap p = .ok r := by
  cases wrapped : o.wrap i with
  | error e =>
    rw [List.foldlM_cons, wrapped] at folded
    cases folded
  | ok p => exact ⟨p, rfl, foldlM_wrap_cons wrapped rest ▸ folded⟩

/-- Wrapping only ever adds layers on the outside, for some of the interceptors and in
their order. -/
theorem exists_wearing_of_foldlM {interceptors : List (Interceptor σ κ)} {o r : Observable σ κ}
    (folded : interceptors.foldlM Observable.wrap o = .ok r) :
    ∃ layers, r = o.wearing layers ∧
      (layers.reverse.map (·.interceptor)).Sublist interceptors := by
  induction interceptors generalizing o with
  | nil =>
    cases folded
    exact ⟨[], rfl, .slnil⟩
  | cons i rest ih =>
    obtain ⟨p, wrapped, folded⟩ := exists_wrap_of_foldlM_cons folded
    obtain ⟨layers, rfl, ordered⟩ := ih folded
    rcases wrap_eq_ok wrapped with rfl | ⟨map, rfl⟩
    · exact ⟨layers, rfl, ordered.cons i⟩
    · refine ⟨layers ++ [⟨i, map⟩], by simp [wearing, wear], ?_⟩
      rw [List.reverse_concat, List.map_cons]
      exact ordered.cons_cons i

/-- The observable itself comes back exactly if none of the steps adds a layer. -/
theorem foldlM_wrap_eq_self_iff {interceptors : List (Interceptor σ κ)} {o r : Observable σ κ}
    (folded : interceptors.foldlM Observable.wrap o = .ok r) :
    r = o ↔ ∀ before i after, interceptors = before ++ i :: after →
      ∀ p, before.foldlM Observable.wrap o = .ok p → p.wrap i = .ok p := by
  induction interceptors generalizing o with
  | nil =>
    cases folded
    simp
  | cons i rest ih =>
    obtain ⟨p, wrapped, later⟩ := exists_wrap_of_foldlM_cons folded
    constructor
    · intro same
      obtain ⟨layers, above, _⟩ := exists_wearing_of_foldlM later
      -- No later step takes a layer off again, so the first one adds none.
      have unwrapped : p = o := by
        rcases wrap_eq_ok wrapped with unwrapped | ⟨map, rfl⟩
        · exact unwrapped
        · have depths := congrArg depth (same.symm.trans above)
          simp only [wearing, wear, depth, List.length_append, List.length_cons] at depths
          omega
      subst unwrapped
      intro before j after split q reached
      cases before with
      | nil =>
        cases split
        cases reached
        exact wrapped
      | cons head before =>
        cases split
        rw [foldlM_wrap_cons wrapped] at reached
        exact (ih later).mp same before j after rfl q reached
    · intro steps
      have unwrapped := steps [] i rest rfl o rfl
      rw [wrapped] at unwrapped
      cases unwrapped
      refine (ih later).mpr ?_
      intro before j after split q reached
      exact steps (i :: before) j after (by rw [split]; rfl) q
        ((foldlM_wrap_cons wrapped before).trans reached)

end Observable

/-- Whatever was done with a chain before, applying it is wrapping its interceptors one
after the other, each resolved afresh: with the same failure, that of the first entry
that does not resolve, or with the same layers around the same target. -/
theorem applyAll_run_eq_foldlM_wrap (moves : List (Move σ κ)) (o : Observable σ κ) :
    ((Chain.run {} moves).1.interceptors = moves.filterMap Move.appended?) ∧
    (((Chain.run {} moves).1.applyAll o).answer =
      (moves.filterMap Move.appended?).foldlM Observable.wrap o) ∧
    (∀ e, ((Chain.run {} moves).1.applyAll o).answer = .error e ↔
      FirstFailure Interceptor.resolve (moves.filterMap Move.appended?) e) ∧
    ∀ r, ((Chain.run {} moves).1.applyAll o).answer = .ok r →
      r.target = o.target ∧
      (r = o ↔ ∀ before i after, moves.filterMap Move.appended? = before ++ i :: after →
        ∀ p, before.foldlM Observable.wrap o = .ok p → p.wrap i = .ok p) := by
  have interceptors := Chain.interceptors_run {} moves
  have faithful : (Chain.run {} moves).1.Faithful := Chain.faithful_empty.run moves
  have answer := faithful.applyAll o
  rw [interceptors] at answer
  refine ⟨interceptors, answer, ?_, ?_⟩
  · intro e
    rw [answer]
    exact foldLooked_eq_error_iff
  · intro r applied
    have folded := answer.symm.trans applied
    obtain ⟨layers, above, _⟩ := Observable.exists_wearing_of_foldlM folded
    exact ⟨above ▸ rfl, Observable.foldlM_wrap_eq_self_iff folded⟩

end Interception
