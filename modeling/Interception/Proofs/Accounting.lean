import Interception.Proofs.Looks
import Interception.Proofs.Session
import Interception.Proofs.Tracing

/-!
# The account of a run

Validating a chain and applying it are one walk along its entries, appending only adds an
entry that keeps nothing. So through any run the entries that keep something stand in front,
each of them has been looked at once, and the first entry that does not resolve is looked at
by every walk and ends it.
-/

set_option autoImplicit false

namespace Interception

variable {σ α κ : Type} [Kinds κ]

/-- Whether the move goes along the entries. -/
def Move.walks : Move σ κ → Bool
  | append _ => false
  | validate | apply _ => true

namespace Chain

/-- The move goes along the entries as far as `place`. -/
def comes (c : Chain σ κ) (x : Move σ κ) (place : Nat) : Bool :=
  x.walks && c.reaches place

/-- How many of the moves, made from `c` on, come as far as `place`. -/
def arrivals (c : Chain σ κ) (place : Nat) : List (Move σ κ) → Nat
  | [] => 0
  | x :: rest => (c.comes x place).toNat + (c.move x).1.arrivals place rest

theorem chain_run_cons (c : Chain σ κ) (x : Move σ κ) (rest : List (Move σ κ)) :
    (c.run (x :: rest)).1 = ((c.move x).1.run rest).1 := rfl

theorem journal_run_cons (c : Chain σ κ) (x : Move σ κ) (rest : List (Move σ κ)) :
    (c.run (x :: rest)).2 = (c.move x).2 ++ ((c.move x).1.run rest).2 := rfl

variable {c : Chain σ κ} {x : Move σ κ} {place : Nat}

theorem looks_walked (faithful : c.Faithful) (act : Interceptor σ κ → SignatureMap → α → α) (x : α)
    (place : Nat) : (c.walked act x).journal.looks place =
      if c.reaches place = true ∧ c.keepsAt place = false then 1 else 0 := by
  have counted := looks_walk act 0 place faithful x
  rw [Nat.zero_add] at counted
  exact counted

theorem looks_move (faithful : c.Faithful) (x : Move σ κ) (place : Nat) :
    (c.move x).2.looks place =
      if c.comes x place = true ∧ c.keepsAt place = false then 1 else 0 := by
  cases x with
  | append i => rfl
  | validate => exact looks_walked faithful _ () place
  | apply o => exact looks_walked faithful _ o place

theorem keepsAt_append (c : Chain σ κ) (i : Interceptor σ κ) (place : Nat) :
    (c.append i).1.keepsAt place = c.keepsAt place := by
  rw [keepsAt, keepsAt, entries_append, List.getElem?_append]
  split
  · rfl
  · next beyond =>
    rw [List.getElem?_eq_none (Nat.le_of_not_lt beyond), List.getElem?_singleton]
    split <;> rfl

theorem keepsAt_move (faithful : c.Faithful) (x : Move σ κ) (place : Nat) :
    (c.move x).1.keepsAt place =
      (c.keepsAt place || (c.comes x place && c.resolvesAt place)) := by
  cases x with
  | append i =>
    rw [comes, Move.walks, Bool.false_and, Bool.false_and, Bool.or_false]
    exact keepsAt_append c i place
  | validate => exact keepsAt_walk _ 0 place faithful ()
  | apply o => exact keepsAt_walk _ 0 place faithful o

theorem KeptInFront.move (front : KeptInFront c.entries) (faithful : c.Faithful) (x : Move σ κ) :
    KeptInFront (c.move x).1.entries := by
  cases x with
  | append i =>
    obtain ⟨kept, fresh, split, filled, empty⟩ := front
    refine ⟨kept, fresh ++ [{ interceptor := i }], ?_, filled, ?_⟩
    · rw [← List.append_assoc, ← split]
      rfl
    · intro e inside
      rcases List.mem_append.mp inside with earlier | new
      · exact empty e earlier
      · rw [List.mem_singleton.mp new]
  | validate => exact front.walk faithful _ 0 ()
  | apply o => exact front.walk faithful _ 0 o

theorem reports_move (c : Chain σ κ) (x : Move σ κ) : (c.move x).2.Reports c.interceptors := by
  cases x with
  | append i => rfl
  | validate => exact reports_walk _ [] c.entries ()
  | apply o => exact reports_walk _ [] c.entries o

theorem KeptInFront.run (front : KeptInFront c.entries) (faithful : c.Faithful)
    (moves : List (Move σ κ)) : KeptInFront (c.run moves).1.entries := by
  induction moves generalizing c with
  | nil => exact front
  | cons x rest ih => exact ih (front.move faithful x) (faithful.move x)

theorem reports_run (c : Chain σ κ) (moves : List (Move σ κ)) :
    (c.run moves).2.Reports (c.run moves).1.interceptors := by
  induction moves generalizing c with
  | nil => rfl
  | cons x rest ih =>
    refine Journal.Reports.append ?_ (ih _)
    have reports := (c.reports_move x).more
      (x.appended?.toList ++ rest.filterMap Move.appended?)
    rw [← List.append_assoc, ← interceptors_move, ← interceptors_run] at reports
    exact reports

theorem resolvesAt_run_of_comes (arrived : c.comes x place = true) (moves : List (Move σ κ)) :
    (c.run moves).1.resolvesAt place = c.resolvesAt place := by
  have reached : c.reaches place = true := (Bool.and_eq_true_iff.mp arrived).2
  have within : place < c.interceptors.length := by
    simpa [interceptors, length] using (reaches_iff.mp reached).1
  rw [resolvesAt, interceptors_run, List.getElem?_append_left within, resolvesAt]

theorem resolvesAt_of_keepsAt (faithful : c.Faithful) (keeps : c.keepsAt place = true) :
    c.resolvesAt place = true := by
  cases listed : c.entries[place]? with
  | none =>
    rw [keepsAt, listed] at keeps
    cases keeps
  | some e =>
    rw [keepsAt, listed] at keeps
    obtain ⟨map, kept⟩ := Option.isSome_iff_exists.mp keeps
    have resolved := faithful e (List.mem_of_getElem? listed) map kept
    rw [resolvesAt, interceptors, List.getElem?_map, listed]
    exact Interceptor.resolves_of_ok resolved

/-- An entry keeps something as soon as it resolves and a walk has come to it. -/
theorem keepsAt_run (faithful : c.Faithful) (moves : List (Move σ κ)) (place : Nat) :
    (c.run moves).1.keepsAt place =
      (c.keepsAt place ||
        ((c.run moves).1.resolvesAt place && decide (0 < c.arrivals place moves))) := by
  induction moves generalizing c with
  | nil => simp [run, arrivals]
  | cons x rest ih =>
    rw [chain_run_cons, ih (faithful.move x), keepsAt_move faithful, arrivals]
    cases arrived : c.comes x place with
    | false => simp
    | true =>
      have same : ((c.move x).1.run rest).1.resolvesAt place = c.resolvesAt place :=
        resolvesAt_run_of_comes arrived (x :: rest)
      have positive : 0 < 1 + (c.move x).1.arrivals place rest := by omega
      rw [same]
      cases c.resolvesAt place <;> simp [positive]

/-- An entry that resolves is looked at by the first walk that comes to it, another one by
all of them. -/
theorem looks_run (faithful : c.Faithful) (moves : List (Move σ κ)) (place : Nat) :
    (c.run moves).2.looks place =
      if (c.run moves).1.resolvesAt place = true then
        if c.keepsAt place = true then 0 else min 1 (c.arrivals place moves)
      else c.arrivals place moves := by
  induction moves generalizing c with
  | nil => simp [run, arrivals]
  | cons x rest ih =>
    rw [journal_run_cons, chain_run_cons, Journal.looks_append, looks_move faithful,
      ih (faithful.move x), keepsAt_move faithful, arrivals]
    cases arrived : c.comes x place with
    | false => simp
    | true =>
      -- An entry that a walk has come to stays at its place through all later moves.
      have same : ((c.move x).1.run rest).1.resolvesAt place = c.resolvesAt place :=
        resolvesAt_run_of_comes arrived (x :: rest)
      have keeps : c.keepsAt place = true → c.resolvesAt place = true :=
        resolvesAt_of_keepsAt faithful
      rw [same]
      cases resolved : c.resolvesAt place with
      | false =>
        have empty : c.keepsAt place = false := by
          rw [← Bool.not_eq_true]
          intro filled
          rw [keeps filled] at resolved
          cases resolved
        simp [empty]
      | true =>
        cases c.keepsAt place with
        | true => simp
        | false =>
          have least : min 1 (1 + (c.move x).1.arrivals place rest) = 1 :=
            Nat.min_eq_left (Nat.le_add_right 1 _)
          simp only [and_self, Bool.and_self, Bool.or_true, Bool.false_eq_true, Bool.toNat_true,
            if_true, if_false, Nat.add_zero, least]

/-- Behind an entry that does not resolve no walk comes to anything. -/
theorem arrivals_eq_zero {earlier : Nat} (before : earlier < place) {moves : List (Move σ κ)}
    (unresolved : (c.run moves).1.resolvesAt earlier = false) : c.arrivals place moves = 0 := by
  induction moves generalizing c with
  | nil => rfl
  | cons x rest ih =>
    have later : (c.move x).1.arrivals place rest = 0 := ih unresolved
    rw [arrivals, later, Nat.add_zero, Bool.toNat_eq_zero, ← Bool.not_eq_true]
    intro arrived
    obtain ⟨walks, reached⟩ := Bool.and_eq_true_iff.mp arrived
    obtain ⟨within, resolve⟩ := reaches_iff.mp reached
    -- A walk that comes as far as `place` comes to the earlier entry and goes past it.
    have resolved : ∀ i ∈ c.interceptors.take earlier, i.resolves = true :=
      fun i inside => resolve i (List.take_subset_take_left _ (Nat.le_of_lt before) inside)
    have arrivedEarlier : c.comes x earlier = true :=
      Bool.and_eq_true_iff.mpr ⟨walks, reaches_iff.mpr ⟨Nat.lt_trans before within, resolved⟩⟩
    have listed : earlier < c.interceptors.length := by
      simpa [interceptors, length] using Nat.lt_trans before within
    have here : c.resolvesAt earlier = true := by
      rw [resolvesAt, List.getElem?_eq_getElem listed]
      refine resolve _ (List.mem_of_getElem? (i := earlier) ?_)
      rw [List.getElem?_take_of_lt before, List.getElem?_eq_getElem listed]
    rw [resolvesAt_run_of_comes arrivedEarlier, here] at unresolved
    cases unresolved

theorem journal_applyAll (c : Chain σ κ) (o : Observable σ κ) :
    (c.applyAll o).journal = c.validate.journal :=
  congrArg Prod.snd (walk_snd_eq _ _ 0 c.entries o ())

theorem chain_applyAll (c : Chain σ κ) (o : Observable σ κ) :
    (c.applyAll o).chain = c.validate.chain :=
  congrArg (fun left => Chain.mk left.1) (walk_snd_eq _ _ 0 c.entries o ())

end Chain

/-- The account of any run of a chain. The entries that keep something stand in front, and
they are those that resolve and that some walk has come to. An entry that resolves is
looked at once, by the first walk that comes to it, any other one by every walk that does,
and what lies behind it never; each look is reported once. The walk of an application looks
and reports as that of a validation does, and wrapping by itself and calling report
nothing. -/
theorem run_accounting {moves : List (Move σ κ)} {c : Chain σ κ} {journal : Journal}
    (made : Chain.run {} moves = (c, journal)) :
    Chain.KeptInFront c.entries ∧
    (∀ place, c.keepsAt place = true ↔
      c.resolvesAt place = true ∧ 0 < Chain.arrivals {} place moves) ∧
    (∀ place, journal.looks place =
      if c.resolvesAt place = true then min 1 (Chain.arrivals {} place moves)
      else Chain.arrivals {} place moves) ∧
    (∀ place earlier, earlier < place → c.resolvesAt earlier = false →
      journal.looks place = 0) ∧
    journal.Reports c.interceptors ∧
    (∀ place, c.validate.journal.looks place =
      if c.reaches place = true ∧
        (c.resolvesAt place = true → Chain.arrivals {} place moves = 0) then 1
      else 0) ∧
    c.validate.journal.Reports c.interceptors ∧
    (∀ e ∈ c.validate.journal.events, e.isLook = true) ∧
    (∀ o, (c.applyAll o).journal = c.validate.journal ∧
      (c.applyAll o).chain = c.validate.chain) ∧
    (∀ i : Interceptor σ κ, (i.report.level, i.report.message) =
      if i.resolves = true then ("DEBUG", "Resolved interceptor signatures")
      else ("ERROR", "Signature resolution failed")) ∧
    ∀ (s : Script.Session) (step : Script.Step), step.wrapsOrCalls = true →
      (s.perform step).events = [] := by
  obtain ⟨rfl, rfl⟩ : (Chain.run {} moves).1 = c ∧ (Chain.run {} moves).2 = journal :=
    ⟨congrArg Prod.fst made, congrArg Prod.snd made⟩
  have start : ({} : Chain σ κ).Faithful := Chain.faithful_empty
  have faithful := start.run moves
  have keeps : ∀ place, (Chain.run {} moves).1.keepsAt place =
      ((Chain.run {} moves).1.resolvesAt place && decide (0 < Chain.arrivals {} place moves)) :=
    fun place => Chain.keepsAt_run start moves place
  have counted : ∀ place, (Chain.run {} moves).2.looks place =
      if (Chain.run {} moves).1.resolvesAt place = true then min 1 (Chain.arrivals {} place moves)
      else Chain.arrivals {} place moves :=
    fun place => Chain.looks_run start moves place
  refine ⟨?_, ?_, counted, ?_, Chain.reports_run {} moves, ?_,
    Chain.reports_walk _ [] _ (), Chain.isLook_of_mem_walk _ 0 _ (),
    fun o => ⟨Chain.journal_applyAll _ o, Chain.chain_applyAll _ o⟩,
    Interceptor.level_and_message_report, fun s step quiet => s.events_perform quiet⟩
  · exact Chain.KeptInFront.run (Chain.keptInFront_of_none fun _ none => by cases none) start moves
  · intro place
    rw [keeps, Bool.and_eq_true, decide_eq_true_iff]
  · intro place earlier before unresolved
    rw [counted, Chain.arrivals_eq_zero before unresolved]
    split <;> rfl
  · intro place
    rw [Chain.validate, Chain.looks_walked faithful, keeps]
    simp

section

open Tracing

/-- One interceptor twice, a walk, then one that declares a method nobody has and a walk for
a target, then another interceptor and a walk that does not come to it. -/
def Tracing.audited : List (Move (List Mark)) :=
  [.append (tracer "A" [⟨executor, "update", ["String", "i64"]⟩]),
    .append (tracer "A" [⟨executor, "update", ["String", "i64"]⟩]),
    .validate,
    .append (tracer "broken" [⟨executor, "missing", []⟩]),
    .apply (.ofTarget worker),
    .append (tracer "B" [⟨executor, "close", []⟩]),
    .validate]

theorem run_accounting_audited :
    ∃ c journal, Chain.run {} audited = (c, journal) ∧
      [0, 1, 2, 3].map journal.looks = [1, 1, 2, 0] ∧
      c.validate.journal.looks 2 = 1 ∧
      ∀ s : Script.Session, (s.perform (.invoke "worker" close {})).events = [] := by
  have made : Chain.run {} audited = ((Chain.run {} audited).1, (Chain.run {} audited).2) := rfl
  obtain ⟨_, _, counted, blocked, _, again, _, _, _, _, quiet⟩ := run_accounting made
  refine ⟨(Chain.run {} audited).1, (Chain.run {} audited).2, made, ?_⟩
  refine ⟨?_, (again 2).trans (by decide), fun s => quiet s _ rfl⟩
  rw [List.map_cons, counted 0, List.map_cons, counted 1, List.map_cons, counted 2,
    List.map_cons, blocked 3 2 (by decide) (by decide)]
  decide

end

end Interception
