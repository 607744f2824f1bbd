import Interception.Proofs.ChainRun
import Interception.Proofs.Exposure
import Interception.Proofs.Tracing

/-!
# Nested composition

A call goes in through the layers that intercept it, from the outermost to the
innermost, and each of them may rewrite the arguments or put an end to it. What it
comes to goes back out through the layers that were entered, the innermost first.
Layers that let the method pass leave no trace, and none refuses it on the way
(`admits_of_admits_wear`), so the nesting is that of the intercepting layers alone.
-/

set_option autoImplicit false

namespace Interception

variable {σ κ : Type} [Kinds κ]

/-- What becomes of a call that an interceptor was given: it ends there, or it goes on
with other arguments and what it comes to is changed on the way back. -/
inductive Entry (σ : Type) (κ : Type := Kind) [Kinds κ] where
  | stop (outcome : Outcome κ)
  | proceed (args : Args κ) (leave : Outcome κ → σ → Outcome κ × σ)

/-- The reply to a call that is entered in state `s` and proceeds to `receiver`. -/
def Entry.reply (receiver : Args κ → σ → Reply σ κ) (s : σ) : Entry σ κ → Reply σ κ
  | stop outcome => ⟨outcome, s, []⟩
  | proceed args leave =>
    let answer := receiver args s
    let (outcome, state) := leave answer.outcome answer.state
    ⟨outcome, state, answer.visits⟩

namespace Activity

/-- At most one call is made, of `m`, and nothing is called after it. -/
def ProceedsOnce (m : Method) : Activity σ κ → Prop
  | finish _ => True
  | read next => ∀ s, (next s).ProceedsOnce m
  | write _ next => next.ProceedsOnce m
  | call k _ next => k = m ∧ ∀ o, (next o).CallsOnly fun _ => False

/-- What a program without calls makes of a state, so that it does not matter what calls would
come to. -/
def settle (a : Activity σ κ) (s : σ) : Outcome κ × σ :=
  let reply := a.run (fun _ _ s => ⟨.error (.failure "" ""), s, []⟩) s
  (reply.outcome, reply.state)

/-- What a program does up to its first call, and what it leaves to be done then. -/
def entry : Activity σ κ → σ → Entry σ κ × σ
  | finish outcome, s => (.stop outcome, s)
  | read next, s => (next s).entry s
  | write state next, _ => next.entry state
  | call _ args next, s => (.proceed args fun o => (next o).settle, s)

theorem run_of_no_calls {a : Activity σ κ} (silent : a.CallsOnly fun _ => False)
    (receiver : Method → Args κ → σ → Reply σ κ) (s : σ) :
    a.run receiver s = ⟨(a.settle s).1, (a.settle s).2, []⟩ := by
  induction a generalizing s with
  | finish outcome => rfl
  | read next ih => exact ih s (silent s) s
  | write t next ih => exact ih silent t
  | call _ _ _ _ => exact silent.1.elim

theorem run_of_proceedsOnce {a : Activity σ κ} {m : Method} (once : a.ProceedsOnce m)
    (receiver : Method → Args κ → σ → Reply σ κ) (s : σ) :
    a.run receiver s = (a.entry s).1.reply (receiver m) (a.entry s).2 := by
  induction a generalizing s with
  | finish outcome => rfl
  | read next ih => exact ih s (once s) s
  | write t next ih => exact ih once t
  | call k args next _ =>
    obtain ⟨rfl, silent⟩ := once
    simp only [run, run_of_no_calls (silent _), List.append_nil, entry, Entry.reply]

end Activity

namespace Interceptor

/-- Given a call of `m`, the interceptor does what `enter` says, whatever its receiver is
and does. -/
def Follows (i : Interceptor σ κ) (m : Method) (enter : Args κ → σ → Entry σ κ × σ) : Prop :=
  ∀ d args (receiver : Method → Args κ → σ → Reply σ κ) s,
    (i.intercept ⟨d, m, args⟩).run receiver s =
      (enter args s).1.reply (receiver m) (enter args s).2

/-- A program that is blind to its receiver and proceeds at most once follows what it does
up to its call. -/
theorem follows_entry {i : Interceptor σ κ} {m : Method} {program : Args κ → Activity σ κ}
    (blind : ∀ d args, i.intercept ⟨d, m, args⟩ = program args)
    (once : ∀ args, (program args).ProceedsOnce m) :
    i.Follows m fun args => (program args).entry := by
  intro d args receiver s
  rw [blind]
  exact Activity.run_of_proceedsOnce (once args) receiver s

end Interceptor

/-- A layer on the way of a call: how many layers are below, and whose it is. -/
structure Stage (σ : Type) (κ : Type := Kind) [Kinds κ] where
  below : Nat
  interceptor : Interceptor σ κ

/-- A way in: what was visited, what is still to be done on the way back, the innermost
part first, and the arguments and the state at its end. -/
structure Way (σ : Type) (κ : Type := Kind) [Kinds κ] where
  visits : List (Visit κ)
  leaves : List (Outcome κ → σ → Outcome κ × σ)
  args : Args κ
  state : σ

/-- The reply out here if `r` is the reply at the end of the way. -/
def Way.reply (w : Way σ κ) (r : Reply σ κ) : Reply σ κ :=
  let (outcome, state) := w.leaves.foldl (fun (o, s) leave => leave o s) (r.outcome, r.state)
  ⟨outcome, state, w.visits ++ r.visits⟩

section

variable (enter : Interceptor σ κ → Args κ → σ → Entry σ κ × σ) (m : Method)

/-- The call gets past all of the layers, the outermost listed first. -/
inductive Enters : List (Stage σ κ) → Args κ → σ → Way σ κ → Prop where
  | nil (args : Args κ) (s : σ) : Enters [] args s ⟨[], [], args, s⟩
  | cons {l : Stage σ κ} {inner : List (Stage σ κ)} {args args' : Args κ} {s s' : σ}
      {leave : Outcome κ → σ → Outcome κ × σ} {w : Way σ κ} :
      enter l.interceptor args s = (.proceed args' leave, s') →
      Enters inner args' s' w →
      Enters (l :: inner) args s
        ⟨.layer l.below m args :: w.visits, w.leaves ++ [leave], w.args, w.state⟩

/-- The nested composition of layers around `core`. Either the call gets past all of
them and `core` is called once, or it gets past some and is stopped by the next. -/
inductive Nested (core : Args κ → σ → Reply σ κ) :
    List (Stage σ κ) → Args κ → σ → Reply σ κ → Prop where
  | reached {layers : List (Stage σ κ)} {args : Args κ} {s : σ} {w : Way σ κ} :
      Enters enter m layers args s w →
      Nested core layers args s (w.reply (core w.args w.state))
  | stopped {outer : List (Stage σ κ)} {l : Stage σ κ} {args : Args κ} {s t : σ} {w : Way σ κ}
      {outcome : Outcome κ} (inner : List (Stage σ κ)) :
      Enters enter m outer args s w →
      enter l.interceptor w.args w.state = (.stop outcome, t) →
      Nested core (outer ++ l :: inner) args s
        (w.reply ⟨outcome, t, [.layer l.below m w.args]⟩)

/-- The same, worked out from the outside to the inside. -/
def compose (core : Args κ → σ → Reply σ κ) : List (Stage σ κ) → Args κ → σ → Reply σ κ
  | [], args, s => core args s
  | l :: inner, args, s =>
    let reply := (enter l.interceptor args s).1.reply (compose core inner)
      (enter l.interceptor args s).2
    { reply with visits := .layer l.below m args :: reply.visits }

end

theorem Way.reply_cons (w : Way σ κ) (v : Visit κ) (leave : Outcome κ → σ → Outcome κ × σ)
    (r : Reply σ κ) : (Way.mk (v :: w.visits) (w.leaves ++ [leave]) w.args w.state).reply r =
      ⟨(leave (w.reply r).outcome (w.reply r).state).1,
        (leave (w.reply r).outcome (w.reply r).state).2, v :: (w.reply r).visits⟩ := by
  simp only [Way.reply, List.foldl_append, List.foldl_cons, List.foldl_nil, List.cons_append]

section

variable {enter : Interceptor σ κ → Args κ → σ → Entry σ κ × σ} {m : Method}
  {core : Args κ → σ → Reply σ κ} {l : Stage σ κ} {inner : List (Stage σ κ)}
  {args args' : Args κ} {s t : σ}

theorem compose_cons_of_stop {outcome : Outcome κ}
    (stop : enter l.interceptor args s = (.stop outcome, t)) :
    compose enter m core (l :: inner) args s = ⟨outcome, t, [.layer l.below m args]⟩ := by
  rw [compose, stop]
  rfl

theorem compose_cons_of_proceed {leave : Outcome κ → σ → Outcome κ × σ}
    (proceed : enter l.interceptor args s = (.proceed args' leave, t)) :
    compose enter m core (l :: inner) args s =
      ⟨(leave (compose enter m core inner args' t).outcome
          (compose enter m core inner args' t).state).1,
        (leave (compose enter m core inner args' t).outcome
          (compose enter m core inner args' t).state).2,
        .layer l.below m args :: (compose enter m core inner args' t).visits⟩ := by
  rw [compose, proceed]
  rfl

theorem Enters.compose_append {outer : List (Stage σ κ)} {w : Way σ κ}
    (entered : Enters enter m outer args s w) (inner : List (Stage σ κ)) :
    compose enter m core (outer ++ inner) args s =
      w.reply (compose enter m core inner w.args w.state) := by
  induction entered with
  | nil args s => rfl
  | cons proceed _ ih =>
    rw [List.cons_append, compose_cons_of_proceed proceed, ih]
    exact (Way.reply_cons _ _ _ _).symm

theorem nested_cons_of_proceed {leave : Outcome κ → σ → Outcome κ × σ} {r : Reply σ κ}
    (proceed : enter l.interceptor args s = (.proceed args' leave, t))
    (inside : Nested enter m core inner args' t r) :
    Nested enter m core (l :: inner) args s
      ⟨(leave r.outcome r.state).1, (leave r.outcome r.state).2,
        .layer l.below m args :: r.visits⟩ := by
  cases inside with
  | reached entered =>
    rw [← Way.reply_cons]
    exact .reached (.cons proceed entered)
  | stopped inner entered stop =>
    rw [← Way.reply_cons]
    exact .stopped inner (.cons proceed entered) stop

theorem nested_compose (layers : List (Stage σ κ)) (args : Args κ) (s : σ) :
    Nested enter m core layers args s (compose enter m core layers args s) := by
  induction layers generalizing args s with
  | nil => exact .reached (.nil args s)
  | cons l inner ih =>
    rcases entry : enter l.interceptor args s with ⟨outcome | ⟨args', leave⟩, t⟩
    · rw [compose_cons_of_stop entry]
      exact .stopped inner (.nil args s) entry
    · rw [compose_cons_of_proceed entry]
      exact nested_cons_of_proceed entry (ih args' t)

theorem nested_iff_eq_compose {layers : List (Stage σ κ)} {r : Reply σ κ} :
    Nested enter m core layers args s r ↔ compose enter m core layers args s = r := by
  constructor
  · intro nested
    cases nested with
    | reached entered =>
      rw [← List.append_nil layers]
      exact entered.compose_append []
    | stopped inner entered stop =>
      rw [entered.compose_append, compose_cons_of_stop stop]
  · rintro rfl
    exact nested_compose layers args s

end

namespace Observable

/-- Those of the layers over `o` that intercept `m`, the outermost first. -/
def intercepting (o : Observable σ κ) (m : Method) : List (Layer σ κ) → List (Stage σ κ)
  | [] => []
  | l :: below =>
    if l.intercepts (o.wearing below).descriptor m then
      ⟨(o.wearing below).depth, l.interceptor⟩ :: o.intercepting m below
    else o.intercepting m below

section

variable {o : Observable σ κ} {l : Layer σ κ} {below : List (Layer σ κ)} {m : Method}

theorem intercepting_of_intercepts (declared : l.intercepts (o.wearing below).descriptor m = true) :
    o.intercepting m (l :: below) =
      ⟨(o.wearing below).depth, l.interceptor⟩ :: o.intercepting m below :=
  if_pos declared

theorem intercepting_of_not_intercepts
    (undeclared : l.intercepts (o.wearing below).descriptor m = false) :
    o.intercepting m (l :: below) = o.intercepting m below := by
  rw [intercepting, undeclared]
  rfl

theorem sublist_intercepting (o : Observable σ κ) (m : Method) (layers : List (Layer σ κ)) :
    ((o.intercepting m layers).map (·.interceptor)).Sublist (layers.map (·.interceptor)) := by
  induction layers with
  | nil => exact .slnil
  | cons l below ih =>
    cases declared : l.intercepts (o.wearing below).descriptor m with
    | false =>
      rw [intercepting_of_not_intercepts declared]
      exact ih.cons l.interceptor
    | true =>
      rw [intercepting_of_intercepts declared]
      exact ih.cons_cons l.interceptor

theorem below_bounds_of_mem_intercepting {layers : List (Layer σ κ)} :
    ∀ l ∈ o.intercepting m layers, o.depth ≤ l.below ∧ l.below < (o.wearing layers).depth := by
  induction layers with
  | nil =>
    intro l membership
    cases membership
  | cons k below ih =>
    rw [wearing_cons, depth_wear]
    have further : ∀ l ∈ o.intercepting m below,
        o.depth ≤ l.below ∧ l.below < (o.wearing below).depth + 1 := by
      intro l inside
      obtain ⟨least, most⟩ := ih l inside
      exact ⟨least, Nat.lt_succ_of_lt most⟩
    cases declared : k.intercepts (o.wearing below).descriptor m with
    | false =>
      rw [intercepting_of_not_intercepts declared]
      exact further
    | true =>
      rw [intercepting_of_intercepts declared]
      intro l membership
      rcases List.mem_cons.mp membership with rfl | inside
      · refine ⟨?_, Nat.lt_succ_self _⟩
        simp only [wearing, depth, List.length_append]
        exact Nat.le_add_left _ _
      · exact further l inside

/-- The layers that intercept are different ones, also where they are of one interceptor. -/
theorem pairwise_intercepting (o : Observable σ κ) (m : Method) (layers : List (Layer σ κ)) :
    (o.intercepting m layers).Pairwise fun outer inner => inner.below < outer.below := by
  induction layers with
  | nil => exact .nil
  | cons l below ih =>
    cases declared : l.intercepts (o.wearing below).descriptor m with
    | false =>
      rw [intercepting_of_not_intercepts declared]
      exact ih
    | true =>
      rw [intercepting_of_intercepts declared]
      refine .cons ?_ ih
      intro inner inside
      exact (below_bounds_of_mem_intercepting inner inside).2

end

/-- A call that is let in is composed of the layers that intercept it and of the call of
what they are wrapped around. -/
theorem invoke_wearing_eq_compose {o : Observable σ κ} {m : Method} {layers : List (Layer σ κ)}
    {enter : Interceptor σ κ → Args κ → σ → Entry σ κ × σ}
    (admitted : layers = [] ∨ (o.wearing layers).admits m = true)
    (follows : ∀ l ∈ o.intercepting m layers, l.interceptor.Follows m (enter l.interceptor))
    (args : Args κ) (s : σ) :
    (o.wearing layers).invoke m args s =
      compose enter m (o.invoke m) (o.intercepting m layers) args s := by
  induction layers generalizing args s with
  | nil => rfl
  | cons l below ih =>
    have shown : l.exposes (o.wearing below).descriptor m = true := by
      rcases admitted with bare | admitted
      · cases bare
      · exact admitted
    have further : below = [] ∨ (o.wearing below).admits m = true :=
      .inr (admits_of_admits_wear shown)
    rw [wearing_cons]
    cases declared : l.intercepts (o.wearing below).descriptor m with
    | false =>
      rw [intercepting_of_not_intercepts declared] at follows ⊢
      rw [invoke_wear_of_not_intercepts shown declared]
      exact ih further follows args s
    | true =>
      rw [intercepting_of_intercepts declared] at follows ⊢
      have inner : (o.wearing below).invoke m =
          compose enter m (o.invoke m) (o.intercepting m below) := by
        funext args s
        exact ih further (fun k inside => follows k (List.mem_cons_of_mem _ inside)) args s
      rw [invoke_wear_of_intercepts shown declared, follows _ List.mem_cons_self, inner, compose]

theorem eq_nil_of_wearing_eq_self {o : Observable σ κ} {layers : List (Layer σ κ)}
    (same : o.wearing layers = o) : layers = [] := by
  have depths := congrArg depth same
  simp only [wearing, depth, List.length_append] at depths
  exact List.eq_nil_of_length_eq_zero (by omega)

end Observable

/-- A call of what a chain makes of `o`, if it gets past the outermost layer or there is
none, is the nested composition of the layers that intercept it around the call of `o`.
These are different layers of registered interceptors, in the order of registration from
the inside to the outside, and what happens within `o` is below all of them. -/
theorem applyAll_run_nested (moves : List (Move σ κ)) {o r : Observable σ κ} {m : Method}
    (applied : ((Chain.run {} moves).1.applyAll o).answer = .ok r)
    (admitted : r = o ∨ r.admits m = true) :
    ∃ layers, r = o.wearing layers ∧
      ((o.intercepting m layers).reverse.map (·.interceptor)).Sublist
        (moves.filterMap Move.appended?) ∧
      (o.intercepting m layers).Pairwise (fun outer inner => inner.below < outer.below) ∧
      (∀ l ∈ o.intercepting m layers, o.depth ≤ l.below) ∧
      (∀ args s, ∀ v ∈ (o.invoke m args s).visits, v.height ≤ o.depth) ∧
      ∀ enter, (∀ l ∈ o.intercepting m layers, l.interceptor.Follows m (enter l.interceptor)) →
        ∀ args s reply, r.invoke m args s = reply ↔
          Nested enter m (o.invoke m) (o.intercepting m layers) args s reply := by
  have answer := (Chain.faithful_empty.run moves).applyAll o
  rw [Chain.interceptors_run] at answer
  obtain ⟨layers, rfl, ordered⟩ := Observable.exists_wearing_of_foldlM (answer.symm.trans applied)
  refine ⟨layers, rfl, ?_, o.pairwise_intercepting m layers, ?_,
    o.height_le_depth m, ?_⟩
  · rw [List.map_reverse] at ordered ⊢
    exact (o.sublist_intercepting m layers).reverse.trans ordered
  · intro l inside
    exact (Observable.below_bounds_of_mem_intercepting l inside).1
  · intro enter follows args s reply
    have within : layers = [] ∨ (o.wearing layers).admits m = true :=
      admitted.imp_left Observable.eq_nil_of_wearing_eq_self
    rw [Observable.invoke_wearing_eq_compose within follows, nested_iff_eq_compose]

section

open Tracing

theorem Tracing.proceedsOnce_traced (label : String) (m : Method) (args : Args) :
    (traced label m args).ProceedsOnce m := by
  intro s
  refine ⟨rfl, fun o t => ?_⟩
  trivial

theorem Tracing.follows_tracer (label : String) (signatures : List Signature) (m : Method) :
    (tracer label signatures).Follows m fun args => (traced label m args).entry :=
  Interceptor.follows_entry (fun _ _ => rfl) (proceedsOnce_traced label m)

/-- One tracer appended twice, with another one between, one that declares another method
and one that nothing is realized for. -/
def Tracing.session : List (Move (List Mark)) :=
  [.append (tracer "A" [⟨executor, "update", ["String", "i64"]⟩]),
    .append (tracer "idle" [⟨⟨"Driver", [⟨"Driver", "start", []⟩], []⟩, "start", []⟩]),
    .validate,
    .append (tracer "B" [⟨executor, "update", ["String", "i64"]⟩]),
    .append (tracer "closing" [⟨executor, "close", []⟩]),
    .append (tracer "A" [⟨executor, "update", ["String", "i64"]⟩])]

theorem Tracing.exists_eq_tracer_of_mem_session :
    ∀ i ∈ session.filterMap Move.appended?, ∃ label signatures, i = tracer label signatures := by
  intro i membership
  simp only [session, Move.appended?, List.filterMap_cons, List.filterMap_nil, List.mem_cons,
    List.not_mem_nil, or_false] at membership
  rcases membership with rfl | rfl | rfl | rfl | rfl
  all_goals exact ⟨_, _, rfl⟩

theorem applyAll_run_nested_tracers :
    ∃ r, ((Chain.run {} session).1.applyAll (.ofTarget worker)).answer = .ok r ∧
      r.invoke update {} [] =
        ⟨.ok (.ofSize 3),
          [.before "A", .before "B", .before "A", .served "update",
            .after "A", .after "B", .after "A"],
          [.layer 3 update {}, .layer 1 update ⟨[.ofText "A"]⟩,
            .layer 0 update ⟨[.ofText "A", .ofText "B"]⟩,
            .target update ⟨[.ofText "A", .ofText "B", .ofText "A"]⟩]⟩ := by
  refine ⟨_, rfl, ?_⟩
  obtain ⟨layers, above, ordered, _, _, _, nested⟩ :=
    applyAll_run_nested session (o := .ofTarget worker) (m := update) rfl (.inr rfl)
  have listed := (congrArg Observable.layers above).trans (List.append_nil layers)
  subst listed
  refine (nested (fun i args => (traced i.name update args).entry) ?_ {} [] _).mpr ?_
  · intro l inside
    have registered := ordered.subset (List.mem_map_of_mem (List.mem_reverse.mpr inside))
    obtain ⟨label, signatures, same⟩ := exists_eq_tracer_of_mem_session _ registered
    rw [same]
    exact follows_tracer label signatures update
  · exact nested_iff_eq_compose.mpr rfl

end

end Interception
