import Interception.Proofs.Behaviour
import Interception.Proofs.ChainRun
import Interception.Proofs.Tracing

/-!
# Observables of one chain do not interfere

A host wraps several targets with one chain and calls what came out, in any order, and it may
validate the chain or apply it to something else in between. The observables share the
interceptors, and the chain learns as it goes. Still the calls of one of them come to the same
as if the host had made no others (`Host.answers_run`): a step that is about another observable
leaves everything alone that counts for this one, and a step that is about it goes by nothing
else.
-/

set_option autoImplicit false

namespace Interception

variable {σ ι κ : Type} [Kinds κ]

/-- A host with one chain. Of each of its targets it may hold what the chain has made of it. -/
structure Host (σ ι : Type) (κ : Type := Kind) [Kinds κ] where
  chain : Chain σ κ
  state : σ
  held : ι → Option (Observable σ κ) := fun _ => none

/-- What a host is asked to do. A target is wrapped to be held and called; whatever else the
chain is applied to is not kept. -/
inductive Request (σ ι : Type) (κ : Type := Kind) [Kinds κ] where
  | wrap (k : ι)
  | call (k : ι) (method : Method) (args : Args κ)
  | validate
  | apply (o : Observable σ κ)

/-- What a call of the observable of target `asked` came to. -/
structure Answer (ι : Type) (κ : Type := Kind) [Kinds κ] where
  asked : ι
  outcome : Outcome κ
  visits : List (Visit κ)

section

variable [DecidableEq ι]

def Request.isAbout (k : ι) : Request σ ι κ → Bool
  | wrap j | call j _ _ => decide (j = k)
  | validate | apply _ => false

def Answer.isAbout (k : ι) (a : Answer ι κ) : Bool :=
  decide (a.asked = k)

namespace Host

variable (targets : ι → Target σ κ)

/-- A chain that cannot be applied leaves what is held as it is, and so does a call of what is
not held. -/
def step (h : Host σ ι κ) : Request σ ι κ → Host σ ι κ × List (Answer ι κ)
  | .wrap k =>
    let applied := h.chain.applyAll (.ofTarget (targets k))
    match applied.answer with
    | .ok o =>
      ({ h with chain := applied.chain, held := fun j => if j = k then some o else h.held j }, [])
    | .error _ => ({ h with chain := applied.chain }, [])
  | .call k m args =>
    match h.held k with
    | some o =>
      let reply := o.invoke m args h.state
      ({ h with state := reply.state }, [⟨k, reply.outcome, reply.visits⟩])
    | none => (h, [])
  | .validate => ({ h with chain := h.chain.validate.chain }, [])
  | .apply o => ({ h with chain := (h.chain.applyAll o).chain }, [])

def run (h : Host σ ι κ) : List (Request σ ι κ) → Host σ ι κ × List (Answer ι κ)
  | [] => (h, [])
  | x :: rest =>
    let (next, answers) := h.step targets x
    let (last, more) := next.run rest
    (last, answers ++ more)

end Host

end

namespace Host

/-- The chain is one of `interceptors` and has learnt nothing wrong, and what is held are the
targets under layers of these interceptors. -/
structure Sound (targets : ι → Target σ κ) (interceptors : List (Interceptor σ κ))
    (h : Host σ ι κ) : Prop where
  faithful : h.chain.Faithful
  listed : h.chain.interceptors = interceptors
  target : ∀ k o, h.held k = some o → o.target = targets k
  layers : ∀ k o, h.held k = some o → ∀ l ∈ o.layers, l.interceptor ∈ interceptors

/-- Both hold the same of target `k`, and their states agree in the part of this target. -/
structure Aligned {τ : Type} (part : σ → τ) (k : ι) (h h' : Host σ ι κ) : Prop where
  held : h.held k = h'.held k
  part : part h.state = part h'.state

variable {targets : ι → Target σ κ} {interceptors : List (Interceptor σ κ)} {h h' : Host σ ι κ}
  {τ : Type} {part : σ → τ} {k : ι}

theorem sound_start {c : Chain σ κ} (faithful : c.Faithful) (s : σ) :
    Sound targets c.interceptors (⟨c, s, fun _ => none⟩ : Host σ ι κ) :=
  ⟨faithful, rfl, fun _ _ held => (nomatch held), fun _ _ held => (nomatch held)⟩

variable [DecidableEq ι]

/-- What wrapping a target leaves behind. -/
theorem step_wrap (sound : h.Sound targets interceptors) (k : ι) :
    (h.step targets (.wrap k)).1.state = h.state ∧
    (h.step targets (.wrap k)).2 = [] ∧
    (h.step targets (.wrap k)).1.chain = (h.chain.applyAll (.ofTarget (targets k))).chain ∧
    ∀ j, (h.step targets (.wrap k)).1.held j =
      match interceptors.foldlM Observable.wrap (.ofTarget (targets k)) with
      | .ok o => if j = k then some o else h.held j
      | .error _ => h.held j := by
  have answer := sound.faithful.applyAll (.ofTarget (targets k))
  rw [sound.listed] at answer
  simp only [step, answer]
  split <;> exact ⟨rfl, rfl, rfl, fun _ => rfl⟩

theorem step_call_of_held {o : Observable σ κ} (held : h.held k = some o) (m : Method)
    (args : Args κ) :
    h.step targets (.call k m args) =
      ({ h with state := (o.invoke m args h.state).state },
        [⟨k, (o.invoke m args h.state).outcome, (o.invoke m args h.state).visits⟩]) := by
  simp only [step, held]

theorem step_call_of_not_held (missing : h.held k = none) (m : Method) (args : Args κ) :
    h.step targets (.call k m args) = (h, []) := by
  simp only [step, missing]

theorem Sound.step (sound : h.Sound targets interceptors) (x : Request σ ι κ) :
    (h.step targets x).1.Sound targets interceptors := by
  have walked {α : Type} (act : Interceptor σ κ → SignatureMap → α → α) (a : α) :
      (h.chain.walked act a).chain.interceptors = interceptors :=
    (h.chain.interceptors_walked act a).trans sound.listed
  cases x with
  | wrap k =>
    obtain ⟨_, _, chain, held⟩ := step_wrap sound k
    have known : ∀ j o, (h.step targets (.wrap k)).1.held j = some o →
        o.target = targets j ∧ ∀ l ∈ o.layers, l.interceptor ∈ interceptors := by
      intro j o found
      rw [held] at found
      split at found
      · next o' wrapped =>
        split at found
        · next here =>
          cases found
          subst here
          obtain ⟨layers, rfl, ordered⟩ := Observable.exists_wearing_of_foldlM wrapped
          refine ⟨rfl, fun l inside => ordered.subset ?_⟩
          rw [List.map_reverse, List.mem_reverse]
          refine List.mem_map_of_mem ?_
          simpa [Observable.wearing, Observable.ofTarget] using inside
        · exact ⟨sound.target j o found, sound.layers j o found⟩
      · exact ⟨sound.target j o found, sound.layers j o found⟩
    refine ⟨?_, ?_, fun j o found => (known j o found).1, fun j o found => (known j o found).2⟩
    · rw [chain]
      exact sound.faithful.walked _ _
    · rw [chain]
      exact walked _ _
  | call k m args =>
    cases held : h.held k with
    | none =>
      rw [step_call_of_not_held held]
      exact sound
    | some o =>
      rw [step_call_of_held held]
      exact ⟨sound.faithful, sound.listed, sound.target, sound.layers⟩
  | validate => exact ⟨sound.faithful.walked _ _, walked _ _, sound.target, sound.layers⟩
  | apply o => exact ⟨sound.faithful.walked _ _, walked _ _, sound.target, sound.layers⟩

theorem Sound.run (sound : h.Sound targets interceptors) (requests : List (Request σ ι κ)) :
    (h.run targets requests).1.Sound targets interceptors := by
  induction requests generalizing h with
  | nil => exact sound
  | cons x rest ih => exact ih (sound.step x)

/-- A call of one observable leaves the part of every other target alone. -/
theorem part_step_call (sound : h.Sound targets interceptors) {j : ι}
    (apart : (targets j).Spares part) (spares : ∀ i ∈ interceptors, i.Spares part) (m : Method)
    (args : Args κ) : part (h.step targets (.call j m args)).1.state = part h.state := by
  cases held : h.held j with
  | none => rw [step_call_of_not_held held]
  | some o =>
    rw [step_call_of_held held]
    refine Observable.part_invoke ?_ (fun l inside => spares _ (sound.layers j o held l inside)) ..
    rw [sound.target j o held]
    exact apart

/-- What a step answers is about what the step is about. -/
theorem filter_answers_step (h : Host σ ι κ) (x : Request σ ι κ) (k : ι) :
    (h.step targets x).2.filter (Answer.isAbout k) =
      if x.isAbout k then (h.step targets x).2 else [] := by
  cases x with
  | wrap j =>
    simp only [step]
    split <;> simp
  | call j m args =>
    cases held : h.held j with
    | none => simp [step_call_of_not_held held]
    | some o =>
      rw [step_call_of_held held]
      by_cases here : j = k <;> simp [Request.isAbout, Answer.isAbout, here]
  | validate => rfl
  | apply o => rfl

/-- A step about a target does the same to hosts that are aligned in it. -/
theorem Aligned.step_of_isAbout (aligned : Aligned part k h h')
    (sound : h.Sound targets interceptors) (sound' : h'.Sound targets interceptors)
    (owns : (targets k).Owns part) (steady : ∀ i ∈ interceptors, i.Steady)
    (spares : ∀ i ∈ interceptors, i.Spares part) {x : Request σ ι κ} (about : x.isAbout k) :
    Aligned part k (h.step targets x).1 (h'.step targets x).1 ∧
      (h.step targets x).2 = (h'.step targets x).2 := by
  cases x with
  | validate => cases about
  | apply o => cases about
  | wrap j =>
    cases of_decide_eq_true about
    obtain ⟨state, silent, _, held⟩ := step_wrap sound k
    obtain ⟨state', silent', _, held'⟩ := step_wrap sound' k
    refine ⟨⟨?_, ?_⟩, silent.trans silent'.symm⟩
    · rw [held, held', aligned.held]
    · rw [state, state', aligned.part]
  | call j m args =>
    cases of_decide_eq_true about
    cases held : h.held k with
    | none =>
      rw [step_call_of_not_held held, step_call_of_not_held (aligned.held.symm.trans held)]
      exact ⟨aligned, rfl⟩
    | some o =>
      have target := sound.target k o held
      have respects := Observable.respects_invoke (target ▸ owns)
        (fun l inside => steady _ (sound.layers k o held l inside))
        fun l inside => spares _ (sound.layers k o held l inside)
      obtain ⟨outcome, visits, state⟩ := respects m args _ _ aligned.part
      rw [step_call_of_held held, step_call_of_held (aligned.held.symm.trans held)]
      exact ⟨⟨aligned.held, state⟩, by rw [outcome, visits]⟩

/-- A step about anything else leaves a host aligned in the target. -/
theorem Aligned.step_of_not_isAbout (aligned : Aligned part k h h')
    (sound : h.Sound targets interceptors) (apart : ∀ j ≠ k, (targets j).Spares part)
    (spares : ∀ i ∈ interceptors, i.Spares part) {x : Request σ ι κ} (other : ¬ x.isAbout k) :
    Aligned part k (h.step targets x).1 h' := by
  cases x with
  | validate => exact ⟨aligned.held, aligned.part⟩
  | apply o => exact ⟨aligned.held, aligned.part⟩
  | wrap j =>
    have elsewhere : k ≠ j := fun here => other (decide_eq_true here.symm)
    obtain ⟨state, _, _, held⟩ := step_wrap sound j
    refine ⟨?_, (congrArg part state).trans aligned.part⟩
    rw [held]
    simp only [elsewhere, if_false]
    split <;> exact aligned.held
  | call j m args =>
    have elsewhere : j ≠ k := fun here => other (decide_eq_true here)
    refine ⟨?_, (part_step_call sound (apart j elsewhere) spares m args).trans aligned.part⟩
    cases held : h.held j with
    | none =>
      rw [step_call_of_not_held held]
      exact aligned.held
    | some o =>
      rw [step_call_of_held held]
      exact aligned.held

/-- Aligned hosts answer the same about the target, whether or not one of them is asked about
anything else, and stay aligned. -/
theorem Aligned.run (aligned : Aligned part k h h') (sound : h.Sound targets interceptors)
    (sound' : h'.Sound targets interceptors) (owns : (targets k).Owns part)
    (apart : ∀ j ≠ k, (targets j).Spares part) (steady : ∀ i ∈ interceptors, i.Steady)
    (spares : ∀ i ∈ interceptors, i.Spares part) (requests : List (Request σ ι κ)) :
    Aligned part k (h.run targets requests).1
        (h'.run targets (requests.filter (Request.isAbout k))).1 ∧
      (h.run targets requests).2.filter (Answer.isAbout k) =
        (h'.run targets (requests.filter (Request.isAbout k))).2 := by
  induction requests generalizing h h' with
  | nil => exact ⟨aligned, rfl⟩
  | cons x rest ih =>
    simp only [Host.run, List.filter_append, filter_answers_step]
    by_cases about : x.isAbout k
    · obtain ⟨next, answers⟩ :=
        aligned.step_of_isAbout sound sound' owns steady spares about
      obtain ⟨last, more⟩ := ih next (sound.step x) (sound'.step x)
      simp only [List.filter_cons_of_pos about, if_pos about, Host.run]
      exact ⟨last, by rw [answers, more]⟩
    · have next := aligned.step_of_not_isAbout sound apart spares about
      simp only [List.filter_cons_of_neg about, if_neg about, List.nil_append]
      exact ih next (sound.step x) sound'

/-- The targets own disjoint parts of the state, which the interceptors of the chain spare, and
what these do is a matter of the invocation. Then what a host is answered about one of its
targets, and what becomes of the part of this target, is as if the host had asked for nothing
else; and a call of the observable of a target leaves the parts of all others as they are. -/
theorem answers_run {τ : ι → Type} {part : ∀ k, σ → τ k} {moves : List (Move σ κ)} {c : Chain σ κ}
    (made : (Chain.run {} moves).1 = c) (owns : ∀ k, (targets k).Owns (part k))
    (apart : ∀ j k, j ≠ k → (targets j).Spares (part k))
    (steady : ∀ i ∈ c.interceptors, i.Steady)
    (spares : ∀ i ∈ c.interceptors, ∀ k, i.Spares (part k)) (k : ι) (s : σ)
    (requests : List (Request σ ι κ)) :
    let full := Host.run targets ⟨c, s, fun _ => none⟩ requests
    let own := Host.run targets ⟨c, s, fun _ => none⟩ (requests.filter (Request.isAbout k))
    full.2.filter (Answer.isAbout k) = own.2 ∧
      part k full.1.state = part k own.1.state ∧
      full.1.held k = own.1.held k ∧
      (∀ o, full.1.held k = some o → o.target = targets k) ∧
      ∀ j, j ≠ k → ∀ m args,
        part j (full.1.step targets (.call k m args)).1.state = part j full.1.state := by
  intro full own
  have faithful : c.Faithful := made ▸ Chain.faithful_empty.run moves
  have start : Host.Sound targets _ _ := sound_start faithful s
  have sound : full.1.Sound targets c.interceptors := start.run requests
  obtain ⟨aligned, answers⟩ := Aligned.run ⟨rfl, rfl⟩ start start (owns k) (apart · k) steady
    (spares · · k) requests
  exact ⟨answers, aligned.part, aligned.held, sound.target k, fun j other =>
    part_step_call sound (apart k j other.symm) (spares · · j)⟩

end Host

section

open Tracing

/-- Two workers on one ledger. It holds a trace and for each of them how often it has served,
which is also what the worker answers. -/
def Tracing.employee (k : Bool) : Target (List Mark × (Bool → Nat)) where
  descriptor := worker.descriptor
  serve _ _ ledger :=
    (.ok (.ofSize (.ofNat (ledger.2 k + 1))),
      ledger.1, fun j => if j = k then ledger.2 j + 1 else ledger.2 j)

def Tracing.clerk : Interceptor (List Mark × (Bool → Nat)) where
  name := "Clerk"
  signatures := [⟨executor, "update", ["String", "i64"]⟩]
  intercept i :=
    .modify (fun ledger => (ledger.1 ++ [.before i.method.name], ledger.2)) <|
      .call i.method i.args .finish

theorem Tracing.owns_employee (k : Bool) : (employee k).Owns (·.2 k) := by
  intro m args s s' same
  simp only [employee, same, if_true, true_and]

theorem Tracing.spares_employee {j k : Bool} (other : j ≠ k) : (employee j).Spares (·.2 k) := by
  intro m args s
  simp only [employee, other.symm, if_false]

theorem Tracing.steady_clerk : clerk.Steady := fun given =>
  ⟨.call given.method given.args .finish, fun _ => ⟨_, rfl, fun _ _ => rfl⟩⟩

theorem Tracing.spares_clerk (k : Bool) : clerk.Spares (·.2 k) := fun _ _ =>
  ⟨rfl, fun _ _ => trivial⟩

theorem Host.answers_run_employee :
    let requests : List (Request (List Mark × (Bool → Nat)) Bool) :=
      [.wrap true, .call true update {}, .wrap false, .call false update {}, .validate,
        .call true update {}]
    let c := (Chain.run {} [.append clerk]).1
    let full := Host.run employee ⟨c, ([], fun _ => 0), fun _ => none⟩ requests
    let own := Host.run employee ⟨c, ([], fun _ => 0), fun _ => none⟩
      [.wrap true, .call true update {}, .call true update {}]
    full.2.map (·.outcome) = [.ok (.ofSize 1), .ok (.ofSize 1), .ok (.ofSize 2)] ∧
      own.2.map (·.outcome) = [.ok (.ofSize 1), .ok (.ofSize 2)] ∧
      full.2.filter (Answer.isAbout true) = own.2 ∧
      full.1.state.2 true = own.1.state.2 true ∧
      full.1.state.2 false = 1 ∧ own.1.state.2 false = 0 := by
  obtain ⟨answers, tally, _⟩ := Host.answers_run
    (rfl : (Chain.run {} [.append clerk]).1 = _) owns_employee (fun _ _ => spares_employee)
    (fun i inside => List.mem_singleton.mp inside ▸ steady_clerk)
    (fun i inside => List.mem_singleton.mp inside ▸ spares_clerk) true ([], fun _ => 0)
    [.wrap true, .call true update {}, .wrap false, .call false update {}, .validate,
      .call true update {}]
  exact ⟨rfl, rfl, answers, tally, rfl, rfl⟩

end

end Interception
