import Mathlib.Data.List.Forall2
import Interception.Proofs.Dispatch

/-!
# Outlines

An observable without what its interceptors do is an outline: the target, and for each layer
what was declared and what that resolved to. Which methods are shown and where a call goes is
settled by the outline. Wrapping, in turn, makes the same outline of interceptors that declare
the same, whatever else they do.
-/

set_option autoImplicit false

namespace Interception

variable {σ κ : Type} [Kinds κ]

/-- What an interceptor says about itself before any call. -/
structure Declaration where
  name : String
  signatures : List Signature

namespace Interceptor

def declaration (i : Interceptor σ κ) : Declaration :=
  ⟨i.name, i.signatures⟩

/-- Both declare the same. -/
def Alike (i j : Interceptor σ κ) : Prop :=
  i.declaration = j.declaration

theorem Alike.resolve_eq {i j : Interceptor σ κ} (alike : i.Alike j) : i.resolve = j.resolve := by
  have names : i.name = j.name := congrArg Declaration.name alike
  have signatures : i.signatures = j.signatures := congrArg Declaration.signatures alike
  rw [resolve, resolve, names, signatures]

end Interceptor

namespace Layer

def outline (l : Layer σ κ) : Declaration × SignatureMap :=
  (l.interceptor.declaration, l.signatures)

/-- Both have the same outline. -/
def Alike (l l' : Layer σ κ) : Prop :=
  l.outline = l'.outline

variable {l l' : Layer σ κ}

theorem Alike.describe_eq (alike : l.Alike l') (d : TypeDescriptor) :
    l.describe d = l'.describe d := by
  have signatures : l.signatures = l'.signatures := congrArg Prod.snd alike
  rw [describe, describe, signatures]

theorem Alike.route_eq (alike : l.Alike l') (d : TypeDescriptor) (m : Method) :
    l.route d m = l'.route d m := by
  obtain ⟨i, map⟩ := l
  obtain ⟨j, map'⟩ := l'
  obtain rfl : map = map' := congrArg Prod.snd alike
  rfl

end Layer

namespace Target

/-- Where a call of `m` would go at each layer, the outermost first. -/
def routesUnder (t : Target σ κ) (m : Method) : List (Layer σ κ) → List Route
  | [] => []
  | l :: below => l.route (t.describeUnder below) m :: t.routesUnder m below

variable {layers layers' : List (Layer σ κ)}

theorem describeUnder_congr (t : Target σ κ) (alike : List.Forall₂ Layer.Alike layers layers') :
    t.describeUnder layers = t.describeUnder layers' := by
  induction alike with
  | nil => rfl
  | cons head _ ih => rw [describeUnder, describeUnder, ih, head.describe_eq]

theorem routesUnder_congr (t : Target σ κ) (m : Method)
    (alike : List.Forall₂ Layer.Alike layers layers') :
    t.routesUnder m layers = t.routesUnder m layers' := by
  induction alike with
  | nil => rfl
  | cons head tail ih =>
    rw [routesUnder, routesUnder, t.describeUnder_congr tail, ih, head.route_eq]

end Target

namespace Observable

def outline (o : Observable σ κ) : Target σ κ × List (Declaration × SignatureMap) :=
  (o.target, o.layers.map Layer.outline)

/-- Where a call of `m` would go at each layer, the outermost first. -/
def routes (o : Observable σ κ) (m : Method) : List Route :=
  o.target.routesUnder m o.layers

variable {p q : Observable σ κ} {i j : Interceptor σ κ}

theorem outline_eq_iff : p.outline = q.outline ↔
    p.target = q.target ∧ List.Forall₂ Layer.Alike p.layers q.layers := by
  rw [outline, outline, Prod.mk.injEq, ← List.forall₂_eq_eq_eq, List.forall₂_map_left_iff,
    List.forall₂_map_right_iff]
  rfl

theorem descriptor_congr (outlines : p.outline = q.outline) : p.descriptor = q.descriptor := by
  obtain ⟨targets, layers⟩ := outline_eq_iff.mp outlines
  rw [descriptor, descriptor, targets]
  exact q.target.describeUnder_congr layers

theorem routes_congr (outlines : p.outline = q.outline) (m : Method) :
    p.routes m = q.routes m := by
  obtain ⟨targets, layers⟩ := outline_eq_iff.mp outlines
  rw [routes, routes, targets]
  exact q.target.routesUnder_congr m layers

theorem outline_wrapResolved (outlines : p.outline = q.outline) (alike : i.Alike j)
    (map : SignatureMap) : (p.wrapResolved i map).outline = (q.wrapResolved j map).outline := by
  rw [wrapResolved, wrapResolved, descriptor_congr outlines]
  by_cases empty : (map.covered q.descriptor).isEmpty = true
  · rw [if_pos empty, if_pos empty]
    exact outlines
  · rw [if_neg empty, if_neg empty]
    obtain ⟨targets, layers⟩ := outline_eq_iff.mp outlines
    have layer : Layer.Alike ⟨i, map⟩ ⟨j, map⟩ := congrArg (·, map) alike
    exact outline_eq_iff.mpr ⟨targets, .cons layer layers⟩

theorem outline_foldlM_wrap {interceptors interceptors' : List (Interceptor σ κ)}
    (alike : List.Forall₂ Interceptor.Alike interceptors interceptors')
    (outlines : p.outline = q.outline) :
    (interceptors.foldlM wrap p).map outline = (interceptors'.foldlM wrap q).map outline := by
  induction alike generalizing p q with
  | nil => exact congrArg Except.ok outlines
  | @cons i j rest rest' head _ ih =>
    cases resolved : j.resolve with
    | error e =>
      have failed : p.wrap i = .error e := by
        rw [wrap, head.resolve_eq, resolved]
        rfl
      have failed' : q.wrap j = .error e := by
        rw [wrap, resolved]
        rfl
      rw [List.foldlM_cons, List.foldlM_cons, failed, failed']
      rfl
    | ok map =>
      have wrapped : p.wrap i = .ok (p.wrapResolved i map) :=
        wrap_of_resolve (head.resolve_eq.trans resolved)
      have wrapped' : q.wrap j = .ok (q.wrapResolved j map) := wrap_of_resolve resolved
      rw [foldlM_wrap_cons wrapped, foldlM_wrap_cons wrapped']
      exact ih (outline_wrapResolved outlines head map)

end Observable

namespace Chain

/-- The interceptors of both chains declare the same, and none of the two keeps anything but
what its own interceptors resolve to. -/
structure Alike (c d : Chain σ κ) : Prop where
  left : c.Faithful
  right : d.Faithful
  interceptors : List.Forall₂ Interceptor.Alike c.interceptors d.interceptors

variable {c d : Chain σ κ}

theorem interceptors_run_of_no_append {moves : List (Move σ κ)}
    (still : moves.filterMap Move.appended? = []) (c : Chain σ κ) :
    (c.run moves).1.interceptors = c.interceptors := by
  rw [interceptors_run, still, List.append_nil]

namespace Alike

theorem run (alike : c.Alike d) {before after : List (Move σ κ)}
    (still : before.filterMap Move.appended? = []) (still' : after.filterMap Move.appended? = []) :
    (c.run before).1.Alike (d.run after).1 where
  left := alike.left.run before
  right := alike.right.run after
  interceptors := by
    rw [interceptors_run_of_no_append still, interceptors_run_of_no_append still']
    exact alike.interceptors

theorem outline_applyAll (alike : c.Alike d) (o : Observable σ κ) :
    (c.applyAll o).answer.map Observable.outline =
      (d.applyAll o).answer.map Observable.outline := by
  rw [alike.left.applyAll, alike.right.applyAll]
  exact Observable.outline_foldlM_wrap alike.interceptors rfl

theorem applyAll_eq_error_iff (alike : c.Alike d) {o : Observable σ κ} {e : PluginError} :
    (c.applyAll o).answer = .error e ↔ (d.applyAll o).answer = .error e := by
  have same := alike.outline_applyAll o
  rw [← map_eq_error_iff, same, map_eq_error_iff]

theorem exists_applyAll (alike : c.Alike d) {o : Observable σ κ}
    (succeeds : ∀ e, (c.applyAll o).answer ≠ .error e) :
    ∃ p q, (c.applyAll o).answer = .ok p ∧ (d.applyAll o).answer = .ok q ∧
      p.outline = q.outline := by
  have same := alike.outline_applyAll o
  cases first : (c.applyAll o).answer with
  | error e => exact absurd first (succeeds e)
  | ok p =>
    cases second : (d.applyAll o).answer with
    | error e => exact absurd (alike.applyAll_eq_error_iff.mpr second) (succeeds e)
    | ok q =>
      rw [first, second] at same
      exact ⟨p, q, rfl, rfl, Except.ok.inj same⟩

end Alike

end Chain

end Interception
