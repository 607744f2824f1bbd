import Interception.Proofs.ChainRun
import Interception.Proofs.Machine
import Interception.Proofs.Tracing

/-!
# Calls that only go down

If no interceptor calls its receiver more than once for a call that it is given, a call goes
down the layers and comes back. Interceptors may send it on as a call of another method, with
other arguments, or end it, and may make up for a failure on the way back; no layer is reached
a second time.
-/

set_option autoImplicit false

namespace Interception

variable {σ κ : Type} [Kinds κ]

theorem Visit.isTarget_iff {v : Visit κ} : v.isTarget = true ↔ v.height = 0 := by
  cases v <;> simp [isTarget, height]

/-- Nothing is lower than the target. -/
theorem countP_isTarget_le_one {visits : List (Visit κ)}
    (descending : visits.Pairwise fun earlier later => later.height < earlier.height) :
    visits.countP Visit.isTarget ≤ 1 := by
  induction descending with
  | nil => exact Nat.zero_le 1
  | @cons v rest below _ ih =>
    rw [List.countP_cons]
    by_cases reached : v.isTarget = true
    · have ground : v.height = 0 := Visit.isTarget_iff.mp reached
      have none : rest = [] := by
        rw [List.eq_nil_iff_forall_not_mem]
        intro later inside
        have lower := below later inside
        omega
      rw [none]
      simp [reached]
    · simp only [reached, Bool.false_eq_true, if_false, Nat.add_zero]
      exact ih

/-- A call in which no interceptor calls its receiver more than once. The machine comes to
the end of it, with the reply of the call. The objects that are called on the way are shells
of the outermost one, each directly inside the one before; where the interceptor of a layer
runs, its receiver is what the layer is directly wrapped around. So runs and refusals are at
lower and lower layers, and the target is reached at most once. -/
theorem Observable.invoke_descends {o : Observable σ κ} (linear : o.CallsAtMostOnce) {m : Method}
    {args : Args κ} {s : σ} {reply : Reply σ κ} (called : o.invoke m args s = reply) :
    ∃ (calls : List (Call σ κ)) (final : Machine σ κ),
      final = ⟨.answer reply.outcome, [], reply.state, calls⟩ ∧
      Machine.Steps (.start o m args s) final ∧ final.step = none ∧
      calls.map (·.object) <+: o.shells ∧
      calls.Pairwise (fun earlier later => later.object.depth < earlier.object.depth) ∧
      calls.length ≤ o.depth + 1 ∧
      reply.visits = calls.filterMap Call.visit? ∧
      (∀ n k given, .layer n k given ∈ reply.visits → ∃ p l,
        p.wear l ∈ o.shells ∧ p.depth = n ∧ ⟨p.wear l, k, given⟩ ∈ calls ∧
        ∀ t, (Call.mk (p.wear l) k given).begin t =
          (.work p (l.interceptor.intercept ⟨p.descriptor, k, given⟩), t)) ∧
      reply.visits.Pairwise (fun earlier later => later.height < earlier.height) ∧
      reply.visits.countP Visit.isTarget ≤ 1 := by
  subst called
  obtain ⟨calls, performed, descending⟩ := exists_performs_invoke o m args s
  have shells : calls.map (·.object) <+: o.shells := descending linear
  have lower : calls.Pairwise fun earlier later => later.object.depth < earlier.object.depth :=
    List.pairwise_map.mp (o.pairwise_shells.sublist shells.sublist)
  have visits : (o.invoke m args s).visits.Pairwise
      fun earlier later => later.height < earlier.height := by
    rw [performed.visits]
    refine lower.filterMap _ ?_
    intro c d below v seen w seen'
    rw [Call.height_of_visit? seen, Call.height_of_visit? seen']
    exact below
  refine ⟨calls, _, rfl, ?_, rfl, shells, lower, ?_, performed.visits, ?_, visits,
    countP_isTarget_le_one visits⟩
  · exact performed.steps [] []
  · rw [← o.length_shells, ← List.length_map (·.object)]
    exact shells.length_le
  · intro n k given ran
    rw [performed.visits] at ran
    obtain ⟨c, inside, seen⟩ := List.mem_filterMap.mp ran
    obtain ⟨p, l, rfl, depth, begun⟩ := Call.exists_wear_of_visit?_layer seen
    exact ⟨p, l, shells.subset (List.mem_map_of_mem inside), depth, inside, begun⟩

section

open Tracing

/-- Sends each call on as a call of another method, and makes up for a failure. -/
def Tracing.redirector (label : String) (signatures : List Signature) (other : Method) :
    Interceptor (List Mark) where
  name := label
  signatures := signatures
  intercept i :=
    .modify (· ++ [.before label]) <|
      .call other (i.args.push (.ofText label)) fun o =>
        .finish (match o with
          | .ok v => .ok v
          | .error _ => .ok .ofUnit)

/-- The outermost layer sends on what it is asked for; the one below it is interested in
what it is sent, the innermost one is not. -/
def Tracing.redirecting : List (Move (List Mark)) :=
  [.append (tracer "inner" [⟨executor, "update", ["String", "i64"]⟩]),
    .append (tracer "middle" [⟨executor, "close", []⟩]),
    .append (redirector "outer" [⟨executor, "update", ["String", "i64"]⟩] close)]

theorem Tracing.callsAtMostOnce_tracer (label : String) (signatures : List Signature)
    (i : Invocation) : ((tracer label signatures).intercept i).CallsAtMostOnce :=
  fun _ _ _ => trivial

theorem Tracing.callsAtMostOnce_redirector (label : String) (signatures : List Signature)
    (other : Method) (i : Invocation) :
    ((redirector label signatures other).intercept i).CallsAtMostOnce :=
  fun _ _ => trivial

theorem Observable.invoke_descends_redirecting :
    ∃ r calls, ((Chain.run {} redirecting).1.applyAll (.ofTarget worker)).answer = .ok r ∧
      Machine.Steps (.start r update {} [])
        ⟨.answer (.ok (.ofSize 2)), [],
          [.before "outer", .before "middle", .served "close", .after "middle"], calls⟩ ∧
      calls.map (·.object) <+: r.shells ∧ r.shells.length = 4 ∧
      [.layer 2 update {}, .layer 1 close ⟨[.ofText "outer"]⟩,
        .target close ⟨[.ofText "outer", .ofText "middle"]⟩] = calls.filterMap Call.visit? := by
  obtain ⟨r, applied⟩ : ∃ r,
      ((Chain.run {} redirecting).1.applyAll (.ofTarget worker)).answer = .ok r := ⟨_, rfl⟩
  have linear : r.CallsAtMostOnce := by
    cases applied
    intro l inside i
    change l ∈ [_, _, _] at inside
    simp only [List.mem_cons, List.not_mem_nil, or_false] at inside
    rcases inside with rfl | rfl | rfl
    · exact callsAtMostOnce_redirector _ _ _ i
    · exact callsAtMostOnce_tracer _ _ i
    · exact callsAtMostOnce_tracer _ _ i
  obtain ⟨reply, called⟩ : ∃ reply, r.invoke update {} [] = reply := ⟨_, rfl⟩
  obtain ⟨calls, final, rfl, steps, _, shells, _, _, visits, _⟩ := invoke_descends linear called
  cases applied
  cases called
  exact ⟨_, calls, rfl, steps, shells, rfl, visits⟩

end

end Interception
