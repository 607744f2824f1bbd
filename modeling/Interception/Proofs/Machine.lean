import Mathlib.Logic.Relation
import Interception.Proofs.Stack

/-!
# Calls step by step

A machine that takes a call one step at a time: it begins the call of an object, lets an
interceptor go on, or hands an answer to the interceptor that waits for it. Nothing in its
steps says that they come to an end. They do, and with the reply of the call
(`exists_performs_invoke`): an interceptor has only what its layer is wrapped around to call,
so the induction is on the layers and, for each of them, on the program of its interceptor.
-/

set_option autoImplicit false

namespace Interception

variable {σ κ : Type} [Kinds κ]

/-- A call of an object. -/
structure Call (σ : Type) (κ : Type := Kind) [Kinds κ] where
  object : Observable σ κ
  method : Method
  args : Args κ

/-- What the machine is about to do. -/
inductive Focus (σ : Type) (κ : Type := Kind) [Kinds κ] where
  | call (c : Call σ κ)
  | work (receiver : Observable σ κ) (program : Activity σ κ)
  | answer (outcome : Outcome κ)

/-- An interceptor that waits for its receiver to answer. -/
structure Frame (σ : Type) (κ : Type := Kind) [Kinds κ] where
  receiver : Observable σ κ
  next : Outcome κ → Activity σ κ

/-- `calls` are the calls begun so far. -/
structure Machine (σ : Type) (κ : Type := Kind) [Kinds κ] where
  focus : Focus σ κ
  waiting : List (Frame σ κ)
  state : σ
  calls : List (Call σ κ)

namespace Call

/-- What a call comes to at once. An object calls nothing but what it is wrapped around. -/
def begin (c : Call σ κ) (s : σ) : Focus σ κ × σ :=
  match c.object.layers with
  | [] =>
    let (outcome, state) := c.object.target.serve c.method c.args s
    (.answer outcome, state)
  | l :: below =>
    let receiver : Observable σ κ := { c.object with layers := below }
    match l.route receiver.descriptor c.method with
    | .refused =>
      (.answer (.error (.dispatch (.notExposed c.object.descriptor.name c.method.interface
        c.method.name))), s)
    | .intercepted =>
      (.work receiver (l.interceptor.intercept ⟨receiver.descriptor, c.method, c.args⟩), s)
    | .passed => (.call { c with object := receiver }, s)

/-- What is seen of a call: that it reached the target, or what a layer did with it, unless
the layer let it pass. -/
def visit? (c : Call σ κ) : Option (Visit κ) :=
  match c.object.layers with
  | [] => some (.target c.method c.args)
  | l :: below =>
    match l.route (c.object.target.describeUnder below) c.method with
    | .refused => some (.refused below.length c.method c.args)
    | .intercepted => some (.layer below.length c.method c.args)
    | .passed => none

end Call

namespace Machine

/-- The machine has come to its end when it has an answer and nobody waits for it. -/
def step : Machine σ κ → Option (Machine σ κ)
  | ⟨.call c, waiting, s, calls⟩ =>
    let (focus, s) := c.begin s
    some ⟨focus, waiting, s, calls ++ [c]⟩
  | ⟨.work _ (.finish o), waiting, s, calls⟩ => some ⟨.answer o, waiting, s, calls⟩
  | ⟨.work r (.read next), waiting, s, calls⟩ => some ⟨.work r (next s), waiting, s, calls⟩
  | ⟨.work r (.write t next), waiting, _, calls⟩ => some ⟨.work r next, waiting, t, calls⟩
  | ⟨.work r (.call m args next), waiting, s, calls⟩ =>
    some ⟨.call ⟨r, m, args⟩, ⟨r, next⟩ :: waiting, s, calls⟩
  | ⟨.answer o, ⟨r, next⟩ :: waiting, s, calls⟩ => some ⟨.work r (next o), waiting, s, calls⟩
  | ⟨.answer _, [], _, _⟩ => none

/-- Any number of steps. -/
abbrev Steps : Machine σ κ → Machine σ κ → Prop :=
  Relation.ReflTransGen fun x y => x.step = some y

/-- The machine before a call of `o`. -/
def start (o : Observable σ κ) (m : Method) (args : Args κ) (s : σ) : Machine σ κ :=
  ⟨.call ⟨o, m, args⟩, [], s, []⟩

end Machine

/-- The machine comes from `focus` in state `s` to the reply `r`, whoever waits for it, and
begins the calls `calls` on the way. -/
structure Focus.Performs (focus : Focus σ κ) (s : σ) (r : Reply σ κ) (calls : List (Call σ κ)) :
    Prop where
  steps : ∀ waiting earlier, Machine.Steps ⟨focus, waiting, s, earlier⟩
    ⟨.answer r.outcome, waiting, r.state, earlier ++ calls⟩
  visits : r.visits = calls.filterMap Call.visit?

namespace Focus

theorem performs_answer (outcome : Outcome κ) (s : σ) :
    (answer outcome).Performs s ⟨outcome, s, []⟩ [] where
  steps waiting earlier := by
    rw [List.append_nil]
  visits := rfl

theorem Performs.begin {c : Call σ κ} {focus : Focus σ κ} {s t : σ} {r : Reply σ κ}
    {calls : List (Call σ κ)} (begun : c.begin s = (focus, t)) (rest : focus.Performs t r calls) :
    (call c).Performs s { r with visits := c.visit?.toList ++ r.visits } (c :: calls) where
  steps waiting earlier := by
    have first : (Machine.mk (call c) waiting s earlier).step =
        some ⟨focus, waiting, t, earlier ++ [c]⟩ := by
      simp only [Machine.step, begun]
    have later := rest.steps waiting (earlier ++ [c])
    rw [List.append_assoc] at later
    exact .head first later
  visits := by
    rw [rest.visits, List.filterMap_cons]
    cases c.visit? <;> rfl

variable {receiver : Observable σ κ}

theorem performs_finish (outcome : Outcome κ) (s : σ) :
    (work receiver (.finish outcome)).Performs s ⟨outcome, s, []⟩ [] where
  steps waiting earlier := .head rfl ((performs_answer outcome s).steps waiting earlier)
  visits := rfl

theorem Performs.read {next : σ → Activity σ κ} {s : σ} {r : Reply σ κ} {calls : List (Call σ κ)}
    (rest : (work receiver (next s)).Performs s r calls) :
    (work receiver (.read next)).Performs s r calls where
  steps waiting earlier := .head rfl (rest.steps waiting earlier)
  visits := rest.visits

theorem Performs.write {next : Activity σ κ} {s t : σ} {r : Reply σ κ} {calls : List (Call σ κ)}
    (rest : (work receiver next).Performs t r calls) :
    (work receiver (.write t next)).Performs s r calls where
  steps waiting earlier := .head rfl (rest.steps waiting earlier)
  visits := rest.visits

theorem Performs.call {m : Method} {args : Args κ} {next : Outcome κ → Activity σ κ} {s : σ}
    {answer reply : Reply σ κ} {during after : List (Call σ κ)}
    (called : (Focus.call ⟨receiver, m, args⟩).Performs s answer during)
    (rest : (work receiver (next answer.outcome)).Performs answer.state reply after) :
    (work receiver (.call m args next)).Performs s
      { reply with visits := answer.visits ++ reply.visits } (during ++ after) where
  steps waiting earlier := by
    have inner := called.steps (⟨receiver, next⟩ :: waiting) earlier
    have outer := rest.steps waiting (earlier ++ during)
    rw [List.append_assoc] at outer
    exact .head rfl (inner.trans (.head rfl outer))
  visits := by
    rw [called.visits, rest.visits, List.filterMap_append]

/-- The calls that are begun while a program runs come in parts, one for each call that the
program makes. -/
theorem exists_performs_run {good : List (Call σ κ) → Prop}
    (each : ∀ m args s, ∃ calls,
      (Focus.call ⟨receiver, m, args⟩).Performs s (receiver.invoke m args s) calls ∧ good calls)
    (a : Activity σ κ) (s : σ) :
    ∃ parts, (work receiver a).Performs s (a.run receiver.invoke s) parts.flatten ∧
      (∀ part ∈ parts, good part) ∧ ((a.CallsOnly fun _ => False) → parts = []) ∧
      (a.CallsAtMostOnce → parts = [] ∨ ∃ part, parts = [part]) := by
  induction a generalizing s with
  | finish outcome =>
    refine ⟨[], performs_finish outcome s, ?_, fun _ => rfl, fun _ => .inl rfl⟩
    intro part inside
    cases inside
  | read next ih =>
    obtain ⟨parts, rest, fair, none, once⟩ := ih s s
    exact ⟨parts, rest.read, fair, fun silent => none (silent s), fun linear => once (linear s)⟩
  | write t next ih =>
    obtain ⟨parts, rest, fair, none, once⟩ := ih t
    exact ⟨parts, rest.write, fair, none, once⟩
  | call m args next ih =>
    obtain ⟨part, called, good⟩ := each m args s
    obtain ⟨parts, rest, fair, none, _⟩ :=
      ih (receiver.invoke m args s).outcome (receiver.invoke m args s).state
    refine ⟨part :: parts, called.call rest, List.forall_mem_cons.mpr ⟨good, fair⟩, ?_, ?_⟩
    · intro silent
      exact silent.1.elim
    · intro linear
      rw [none (linear _)]
      exact .inr ⟨part, rfl⟩

end Focus

/-- What a target under layers is wrapped in, from the outermost shell to the bare target. -/
def Target.shellsUnder (t : Target σ κ) : List (Layer σ κ) → List (Observable σ κ)
  | [] => [.ofTarget t]
  | l :: below => ⟨t, l :: below⟩ :: t.shellsUnder below

namespace Observable

/-- The object itself, then what its outermost layer is wrapped around, and so on down to the
target. -/
def shells (o : Observable σ κ) : List (Observable σ κ) :=
  o.target.shellsUnder o.layers

@[simp] theorem shells_ofTarget (t : Target σ κ) : (ofTarget t).shells = [ofTarget t] := rfl

@[simp] theorem shells_wear (o : Observable σ κ) (l : Layer σ κ) :
    (o.wear l).shells = o.wear l :: o.shells := rfl

theorem length_shells (o : Observable σ κ) : o.shells.length = o.depth + 1 := by
  induction o using induction_layers with
  | bare t => rfl
  | worn o l ih => simp [ih]

theorem depth_le_of_mem_shells {o p : Observable σ κ} (inside : p ∈ o.shells) :
    p.depth ≤ o.depth := by
  induction o using induction_layers with
  | bare t =>
    rw [shells_ofTarget, List.mem_singleton] at inside
    exact Nat.le_of_eq (congrArg depth inside)
  | worn o l ih =>
    rw [shells_wear] at inside
    rcases List.mem_cons.mp inside with rfl | lower
    · exact Nat.le_refl _
    · exact Nat.le_succ_of_le (ih lower)

/-- From one shell to the next it is one layer down. -/
theorem pairwise_shells (o : Observable σ κ) :
    o.shells.Pairwise fun outer inner => inner.depth < outer.depth := by
  induction o using induction_layers with
  | bare t => exact List.pairwise_singleton _ _
  | worn o l ih =>
    refine .cons ?_ ih
    intro p inside
    exact Nat.lt_succ_of_le (depth_le_of_mem_shells inside)

/-- No interceptor of the stack makes more than one call of its receiver. -/
def CallsAtMostOnce (o : Observable σ κ) : Prop :=
  ∀ l ∈ o.layers, ∀ i : Invocation κ, (l.interceptor.intercept i).CallsAtMostOnce

end Observable

namespace Call

variable (o : Observable σ κ) (l : Layer σ κ) (m : Method) (args : Args κ) (s : σ)

theorem begin_wear : (Call.mk (o.wear l) m args).begin s =
    match l.route o.descriptor m with
    | .refused =>
      (.answer (.error (.dispatch (.notExposed (o.wear l).descriptor.name m.interface m.name))), s)
    | .intercepted => (.work o (l.interceptor.intercept ⟨o.descriptor, m, args⟩), s)
    | .passed => (.call ⟨o, m, args⟩, s) := rfl

theorem visit?_wear : (Call.mk (o.wear l) m args).visit? =
    match l.route o.descriptor m with
    | .refused => some (.refused o.depth m args)
    | .intercepted => some (.layer o.depth m args)
    | .passed => none := rfl

variable {m args} {c : Call σ κ} {v : Visit κ}

theorem height_of_visit? (seen : c.visit? = some v) : v.height = c.object.depth := by
  obtain ⟨object, m, args⟩ := c
  induction object using Observable.induction_layers with
  | bare target =>
    cases seen
    rfl
  | worn o l _ =>
    rw [visit?_wear] at seen
    cases route : l.route o.descriptor m with
    | refused =>
      rw [route] at seen
      cases seen
      rfl
    | intercepted =>
      rw [route] at seen
      cases seen
      rfl
    | passed =>
      rw [route] at seen
      cases seen

/-- A call that is seen as the run of an interceptor sets to work the one of the outermost
layer, with what this layer is directly wrapped around as its receiver. -/
theorem exists_wear_of_visit?_layer {n : Nat} (seen : c.visit? = some (.layer n m args)) :
    ∃ p l, c = ⟨p.wear l, m, args⟩ ∧ p.depth = n ∧ ∀ t, c.begin t =
      (.work p (l.interceptor.intercept ⟨p.descriptor, m, args⟩), t) := by
  obtain ⟨object, k, given⟩ := c
  induction object using Observable.induction_layers with
  | bare target => cases seen
  | worn o l _ =>
    rw [visit?_wear] at seen
    cases route : l.route o.descriptor k with
    | refused =>
      rw [route] at seen
      cases seen
    | intercepted =>
      rw [route] at seen
      cases seen
      refine ⟨o, l, rfl, rfl, ?_⟩
      intro t
      rw [begin_wear, route]
    | passed =>
      rw [route] at seen
      cases seen

end Call

namespace Focus

variable {o : Observable σ κ} {l : Layer σ κ} {m : Method} {args : Args κ} {s : σ}
  {calls : List (Call σ κ)}

theorem performs_ofTarget (t : Target σ κ) (m : Method) (args : Args κ) (s : σ) :
    (call ⟨.ofTarget t, m, args⟩).Performs s ((Observable.ofTarget t).invoke m args s)
      [⟨.ofTarget t, m, args⟩] := by
  have begun : (Call.mk (.ofTarget t) m args).begin s =
      (.answer (t.serve m args s).1, (t.serve m args s).2) := rfl
  exact (performs_answer _ _).begin begun

/-- A call of an object with a layer, given what it comes to at once, what is seen of it and
what the reply has from the rest. -/
theorem Performs.wear {focus : Focus σ κ} {r : Reply σ κ} {v? : Option (Visit κ)}
    (rest : focus.Performs s r calls)
    (begun : (Call.mk (o.wear l) m args).begin s = (focus, s))
    (seen : (Call.mk (o.wear l) m args).visit? = v?)
    (invoked : (o.wear l).invoke m args s = { r with visits := v?.toList ++ r.visits }) :
    (Focus.call ⟨o.wear l, m, args⟩).Performs s ((o.wear l).invoke m args s)
      (⟨o.wear l, m, args⟩ :: calls) := by
  rw [invoked, ← seen]
  exact rest.begin begun

theorem performs_refused (hidden : l.exposes o.descriptor m = false) :
    (call ⟨o.wear l, m, args⟩).Performs s ((o.wear l).invoke m args s)
      [⟨o.wear l, m, args⟩] := by
  have route : l.route o.descriptor m = .refused := Layer.route_of_not_exposes hidden
  apply (performs_answer _ s).wear
  · rw [Call.begin_wear, route]
  · rw [Call.visit?_wear, route]
  · exact Observable.invoke_wear_of_not_exposes hidden

theorem Performs.passed (shown : l.exposes o.descriptor m = true)
    (undeclared : l.intercepts o.descriptor m = false)
    (rest : (Focus.call ⟨o, m, args⟩).Performs s (o.invoke m args s) calls) :
    (Focus.call ⟨o.wear l, m, args⟩).Performs s ((o.wear l).invoke m args s)
      (⟨o.wear l, m, args⟩ :: calls) := by
  have route : l.route o.descriptor m = .passed := Layer.route_of_not_intercepts shown undeclared
  apply rest.wear
  · rw [Call.begin_wear, route]
  · rw [Call.visit?_wear, route]
  · exact Observable.invoke_wear_of_not_intercepts shown undeclared

theorem Performs.intercepted (shown : l.exposes o.descriptor m = true)
    (declared : l.intercepts o.descriptor m = true)
    (rest : (work o (l.interceptor.intercept ⟨o.descriptor, m, args⟩)).Performs s
      ((l.interceptor.intercept ⟨o.descriptor, m, args⟩).run o.invoke s) calls) :
    (Focus.call ⟨o.wear l, m, args⟩).Performs s ((o.wear l).invoke m args s)
      (⟨o.wear l, m, args⟩ :: calls) := by
  have route : l.route o.descriptor m = .intercepted := Layer.route_of_intercepts shown declared
  apply rest.wear
  · rw [Call.begin_wear, route]
  · rw [Call.visit?_wear, route]
  · exact Observable.invoke_wear_of_intercepts shown declared

end Focus

/-- The machine comes to the end of every call, with the reply of the call. If no interceptor
makes more than one call of its receiver, the objects that are called are shells one inside
the other. -/
theorem exists_performs_invoke (o : Observable σ κ) (m : Method) (args : Args κ) (s : σ) :
    ∃ calls, (Focus.call ⟨o, m, args⟩).Performs s (o.invoke m args s) calls ∧
      (o.CallsAtMostOnce → calls.map (·.object) <+: o.shells) := by
  induction o using Observable.induction_layers generalizing m args s with
  | bare t => exact ⟨_, Focus.performs_ofTarget t m args s, fun _ => List.prefix_rfl⟩
  | worn o l ih =>
    cases shown : l.exposes o.descriptor m with
    | false => exact ⟨_, Focus.performs_refused shown, fun _ => ⟨o.shells, rfl⟩⟩
    | true =>
      cases declared : l.intercepts o.descriptor m with
      | false =>
        obtain ⟨calls, rest, descending⟩ := ih m args s
        refine ⟨_, rest.passed shown declared, fun linear => ?_⟩
        have inner := descending fun k inside => linear k (List.mem_cons_of_mem l inside)
        exact (List.prefix_cons_inj _).mpr inner
      | true =>
        obtain ⟨parts, rest, descending, _, once⟩ := Focus.exists_performs_run ih
          (l.interceptor.intercept ⟨o.descriptor, m, args⟩) s
        refine ⟨_, rest.intercepted shown declared, fun linear => ?_⟩
        have below : o.CallsAtMostOnce := fun k inside => linear k (List.mem_cons_of_mem l inside)
        have inner : parts.flatten.map (·.object) <+: o.shells := by
          rcases once (linear l List.mem_cons_self _) with rfl | ⟨part, rfl⟩
          · exact List.nil_prefix
          · rw [List.flatten_singleton]
            exact descending part List.mem_cons_self below
        exact (List.prefix_cons_inj _).mpr inner

end Interception
