import Interception.Proofs.Stack

/-!
# Parts of the state

Of a state that many share, a target owns a part: its answers come out of that part, and it
changes no part of another target. An interceptor may keep something in the state as well and
change it as it likes; as long as what it calls and what it finishes with do not go by the
state, and it keeps away from the part of a target, a call of the target under its layers is a
matter of that part only. To compare two runs of such a program, each of them is compared with
its bare behaviour.
-/

set_option autoImplicit false

namespace Interception

variable {σ τ κ : Type} [Kinds κ]

/-- What can be seen of a program from outside: the calls that it makes, and what it finishes
with. -/
inductive Behaviour (κ : Type := Kind) [Kinds κ] where
  | finish (outcome : Outcome κ)
  | call (method : Method) (args : Args κ) (next : Outcome κ → Behaviour κ)

/-- Nothing but the behaviour. -/
def Behaviour.program : Behaviour κ → Activity σ κ
  | finish outcome => .finish outcome
  | call m args next => .call m args fun o => (next o).program

namespace Activity

/-- The program, begun in a state, behaves like that, whatever its calls leave behind. -/
def Behaves : Activity σ κ → σ → Behaviour κ → Prop
  | finish outcome, _, b => b = .finish outcome
  | read next, s, b => (next s).Behaves s b
  | write t next, _, b => next.Behaves t b
  | call m args next, _, b => ∃ later, b = .call m args later ∧
      ∀ o s, (next o).Behaves s (later o)

/-- The program, begun in a state, never changes that part by itself. -/
def Spares (part : σ → τ) : Activity σ κ → σ → Prop
  | finish _, _ => True
  | read next, s => (next s).Spares part s
  | write t next, s => part t = part s ∧ next.Spares part t
  | call _ _ next, _ => ∀ o s, (next o).Spares part s

end Activity

namespace Interceptor

/-- What the interceptor does with a call is a matter of the invocation, not of the state. -/
def Steady (i : Interceptor σ κ) : Prop :=
  ∀ given, ∃ b, ∀ s, (i.intercept given).Behaves s b

def Spares (i : Interceptor σ κ) (part : σ → τ) : Prop :=
  ∀ given s, (i.intercept given).Spares part s

end Interceptor

namespace Target

/-- What the target answers and what it makes of its part is a matter of that part. -/
def Owns (t : Target σ κ) (part : σ → τ) : Prop :=
  ∀ m args s s', part s = part s' →
    (t.serve m args s).1 = (t.serve m args s').1 ∧
    part (t.serve m args s).2 = part (t.serve m args s').2

def Spares (t : Target σ κ) (part : σ → τ) : Prop :=
  ∀ m args s, part (t.serve m args s).2 = part s

end Target

/-- The replies are the same as far as one knows only that part of the state. -/
structure Reply.Agrees (part : σ → τ) (r r' : Reply σ κ) : Prop where
  outcome : r.outcome = r'.outcome
  visits : r.visits = r'.visits
  state : part r.state = part r'.state

/-- Calls from states that agree in the part have replies that agree. -/
def Respects (part : σ → τ) (receiver : Method → Args κ → σ → Reply σ κ) : Prop :=
  ∀ m args s s', part s = part s' →
    Reply.Agrees part (receiver m args s) (receiver m args s')

section

variable {part : σ → τ} {receiver : Method → Args κ → σ → Reply σ κ}

theorem Reply.Agrees.symm {r r' : Reply σ κ} (agrees : Reply.Agrees part r r') :
    Reply.Agrees part r' r :=
  ⟨agrees.outcome.symm, agrees.visits.symm, agrees.state.symm⟩

theorem Reply.Agrees.trans {r r' r'' : Reply σ κ} (first : Reply.Agrees part r r')
    (second : Reply.Agrees part r' r'') : Reply.Agrees part r r'' :=
  ⟨first.outcome.trans second.outcome, first.visits.trans second.visits,
    first.state.trans second.state⟩

/-- A program that keeps away from the part runs like its bare behaviour. -/
theorem Activity.agrees_run_program (respects : Respects part receiver) {a : Activity σ κ}
    {b : Behaviour κ} {s s' : σ} (behaves : a.Behaves s b) (spares : a.Spares part s)
    (same : part s = part s') :
    Reply.Agrees part (a.run receiver s) (b.program.run receiver s') := by
  induction a generalizing b s s' with
  | finish outcome =>
    cases behaves
    exact ⟨rfl, rfl, same⟩
  | read next ih => exact ih s behaves spares same
  | write t next ih => exact ih behaves spares.2 (spares.1.trans same)
  | call m args next ih =>
    obtain ⟨later, rfl, behaves⟩ := behaves
    have answered := respects m args s s' same
    have rest := ih (receiver m args s).outcome (behaves _ _) (spares _ _) answered.state
    rw [answered.outcome] at rest
    constructor
    · simpa only [run, Behaviour.program, answered.outcome] using rest.outcome
    · simpa only [run, Behaviour.program, answered.outcome, answered.visits,
        List.append_cancel_left_eq] using rest.visits
    · simpa only [run, Behaviour.program, answered.outcome] using rest.state

/-- From states that agree in the part, a program that does not go by the state runs alike. -/
theorem Activity.agrees_run (respects : Respects part receiver) {a : Activity σ κ} {b : Behaviour κ}
    (behaves : ∀ s, a.Behaves s b) (spares : ∀ s, a.Spares part s) {s s' : σ}
    (same : part s = part s') :
    Reply.Agrees part (a.run receiver s) (a.run receiver s') :=
  (agrees_run_program respects (behaves s) (spares s) rfl).trans
    (agrees_run_program respects (behaves s') (spares s') same.symm).symm

/-- What neither the program nor its receiver changes stays as it is. -/
theorem Activity.part_run {a : Activity σ κ} {s : σ} (spares : a.Spares part s)
    (below : ∀ m args s, part (receiver m args s).state = part s) :
    part (a.run receiver s).state = part s := by
  induction a generalizing s with
  | finish outcome => rfl
  | read next ih => exact ih s spares
  | write t next ih => exact (ih spares.2).trans spares.1
  | call m args next ih => exact (ih _ (spares _ _)).trans (below m args s)

end

namespace Observable

variable {part : σ → τ} {o : Observable σ κ}

/-- Under layers of steady interceptors that spare its part, a target answers out of that part. -/
theorem respects_invoke (owns : o.target.Owns part)
    (steady : ∀ l ∈ o.layers, l.interceptor.Steady)
    (spares : ∀ l ∈ o.layers, l.interceptor.Spares part) : Respects part o.invoke := by
  induction o using induction_layers with
  | bare t =>
    intro m args s s' same
    obtain ⟨outcome, state⟩ := owns m args s s' same
    exact ⟨outcome, rfl, state⟩
  | worn o l ih =>
    have below : Respects part o.invoke := ih owns
      (fun k inside => steady k (List.mem_cons_of_mem l inside))
      fun k inside => spares k (List.mem_cons_of_mem l inside)
    intro m args s s' same
    cases shown : l.exposes o.descriptor m with
    | false =>
      rw [invoke_wear_of_not_exposes shown, invoke_wear_of_not_exposes shown]
      exact ⟨rfl, rfl, same⟩
    | true =>
      cases declared : l.intercepts o.descriptor m with
      | false =>
        rw [invoke_wear_of_not_intercepts shown declared,
          invoke_wear_of_not_intercepts shown declared]
        exact below m args s s' same
      | true =>
        obtain ⟨b, behaves⟩ := steady l List.mem_cons_self ⟨o.descriptor, m, args⟩
        have ran := Activity.agrees_run below behaves
          (spares l List.mem_cons_self ⟨o.descriptor, m, args⟩) same
        rw [invoke_wear_of_intercepts shown declared, invoke_wear_of_intercepts shown declared]
        exact ⟨ran.outcome, congrArg (Visit.layer o.depth m args :: ·) ran.visits, ran.state⟩

/-- A part that the target and the interceptors spare stays as it is. -/
theorem part_invoke (target : o.target.Spares part)
    (spares : ∀ l ∈ o.layers, l.interceptor.Spares part) (m : Method) (args : Args κ) (s : σ) :
    part (o.invoke m args s).state = part s := by
  induction o using induction_layers generalizing m args s with
  | bare t => exact target m args s
  | worn o l ih =>
    have below : ∀ m args s, part (o.invoke m args s).state = part s :=
      ih target fun k inside => spares k (List.mem_cons_of_mem l inside)
    cases shown : l.exposes o.descriptor m with
    | false => rw [invoke_wear_of_not_exposes shown]
    | true =>
      cases declared : l.intercepts o.descriptor m with
      | false =>
        rw [invoke_wear_of_not_intercepts shown declared]
        exact below m args s
      | true =>
        rw [invoke_wear_of_intercepts shown declared]
        exact Activity.part_run (spares l List.mem_cons_self _ s) below

end Observable

end Interception
