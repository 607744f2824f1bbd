import Interception.Proofs.ChainRun

/-!
# Looking at declarations

A walk along the entries looks at what an entry declares if the entry keeps nothing yet, and
an entry that resolves keeps it from then on. It stops at the first entry that does not
resolve. What one walk looks at, reports and leaves behind is said here for each place of the
chain, and does not depend on what the walk is made for.
-/

set_option autoImplicit false

namespace Interception

variable {σ α κ : Type} [Kinds κ]

namespace Interceptor

/-- Everything that is declared is found. -/
def resolves (i : Interceptor σ κ) : Bool :=
  i.resolve.isOk

/-- What is reported of a look at the declarations. -/
def report (i : Interceptor σ κ) : Event :=
  match i.resolve with
  | .ok _ => .resolved i.name
  | .error e => .resolutionFailed i.name e

variable {i : Interceptor σ κ}

theorem resolves_of_ok {map : SignatureMap} (resolved : i.resolve = .ok map) :
    i.resolves = true := by
  rw [resolves, resolved]
  rfl

theorem resolves_of_error {e : PluginError} (failed : i.resolve = .error e) :
    i.resolves = false := by
  rw [resolves, failed]
  rfl

theorem report_of_ok {map : SignatureMap} (resolved : i.resolve = .ok map) :
    i.report = .resolved i.name := by
  rw [report, resolved]

theorem report_of_error {e : PluginError} (failed : i.resolve = .error e) :
    i.report = .resolutionFailed i.name e := by
  rw [report, failed]

theorem level_and_message_report (i : Interceptor σ κ) :
    (i.report.level, i.report.message) =
      if i.resolves = true then ("DEBUG", "Resolved interceptor signatures")
      else ("ERROR", "Signature resolution failed") := by
  cases resolved : i.resolve with
  | ok map =>
    rw [report_of_ok resolved, resolves_of_ok resolved]
    rfl
  | error e =>
    rw [report_of_error resolved, resolves_of_error resolved]
    rfl

end Interceptor

/-- Whether the event is about a look at declarations. -/
def Event.isLook : Event → Bool
  | resolved _ | resolutionFailed _ _ => true
  | appending _ _ | registered _ _ | loaded _ _ => false

namespace Journal

/-- How often the declarations of the entry at `place` were looked at. -/
def looks (j : Journal) (place : Nat) : Nat :=
  j.readings.countP (·.position == place)

@[simp] theorem looks_append (a b : Journal) (place : Nat) :
    (a ++ b).looks place = a.looks place + b.looks place :=
  List.countP_append

@[simp] theorem looks_empty (place : Nat) : ({} : Journal).looks place = 0 := rfl

theorem looks_single (events : List Event) (position place : Nat) (origin : String) :
    (Journal.mk events [⟨position, origin⟩]).looks place = if position = place then 1 else 0 := by
  simp only [looks, List.countP_singleton, beq_iff_eq]

/-- Each look, in order, is reported as that of the interceptor at its place. -/
def Reports (j : Journal) (interceptors : List (Interceptor σ κ)) : Prop :=
  (j.events.filter Event.isLook).map some =
    j.readings.map fun r => (interceptors[r.position]?).map Interceptor.report

theorem Reports.append {a b : Journal} {interceptors : List (Interceptor σ κ)}
    (first : a.Reports interceptors) (second : b.Reports interceptors) :
    (a ++ b).Reports interceptors := by
  simp only [Reports, events_append, readings_append, List.filter_append, List.map_append] at *
  rw [first, second]

theorem Reports.more {j : Journal} {interceptors : List (Interceptor σ κ)}
    (reports : j.Reports interceptors) (more : List (Interceptor σ κ)) :
    j.Reports (interceptors ++ more) := by
  rw [Reports, reports]
  refine List.map_congr_left ?_
  intro r inside
  -- A look that is reported is at a place within the shorter list.
  have reported : (interceptors[r.position]?).map Interceptor.report ∈
      (j.events.filter Event.isLook).map some := by
    rw [reports]
    exact List.mem_map_of_mem inside
  obtain ⟨e, _, entry⟩ := List.mem_map.mp reported
  obtain ⟨i, listed, _⟩ := Option.map_eq_some_iff.mp entry.symm
  obtain ⟨within, _⟩ := List.getElem?_eq_some_iff.mp listed
  rw [List.getElem?_append_left within]

end Journal

namespace Chain

/-- A walk comes to the entry at `place`: there is one and all before it resolve. -/
def reaches (c : Chain σ κ) (place : Nat) : Bool :=
  decide (place < c.length) && (c.interceptors.take place).all Interceptor.resolves

theorem reaches_iff {c : Chain σ κ} {place : Nat} : c.reaches place = true ↔
    place < c.length ∧ ∀ i ∈ c.interceptors.take place, i.resolves = true := by
  rw [reaches, Bool.and_eq_true, decide_eq_true_iff, List.all_eq_true]

def resolvesAt (c : Chain σ κ) (place : Nat) : Bool :=
  (c.interceptors[place]?).any Interceptor.resolves

def keepsAt (c : Chain σ κ) (place : Nat) : Bool :=
  (c.entries[place]?).any (·.resolved.isSome)

section

variable (e : ChainEntry σ κ) (rest : List (ChainEntry σ κ)) (place : Nat)

theorem reaches_cons_zero : (Chain.mk (e :: rest)).reaches 0 = true := by
  simp [reaches, length]

theorem reaches_cons_succ : (Chain.mk (e :: rest)).reaches (place + 1) =
    (e.interceptor.resolves && (Chain.mk rest).reaches place) := by
  rw [Bool.eq_iff_iff, Bool.and_eq_true, reaches_iff, reaches_iff]
  simp only [length, interceptors, List.length_cons, Nat.add_lt_add_iff_right, List.map_cons,
    List.take_succ_cons, List.forall_mem_cons]
  exact and_left_comm

theorem resolvesAt_cons_zero : (Chain.mk (e :: rest)).resolvesAt 0 = e.interceptor.resolves := rfl

theorem resolvesAt_cons_succ : (Chain.mk (e :: rest)).resolvesAt (place + 1) =
    (Chain.mk rest).resolvesAt place := rfl

theorem keepsAt_cons_zero : (Chain.mk (e :: rest)).keepsAt 0 = e.resolved.isSome := rfl

theorem keepsAt_cons_succ : (Chain.mk (e :: rest)).keepsAt (place + 1) =
    (Chain.mk rest).keepsAt place := rfl

end

theorem looks_walk_of_lt (act : Interceptor σ κ → SignatureMap → α → α) {position place : Nat}
    (before : place < position) (entries : List (ChainEntry σ κ)) (x : α) :
    (walk act position entries x).2.2.looks place = 0 := by
  induction entries generalizing position x with
  | nil => rfl
  | cons e rest ih =>
    have apart : position ≠ place := Nat.ne_of_gt before
    rcases e.resolve_cases position with
      ⟨map, _, same⟩ | ⟨map, _, _, learnt⟩ | ⟨err, _, _, failed⟩
    · rw [walk_cons_of_ok same, Journal.looks_append, ih (Nat.lt_succ_of_lt before)]
      rfl
    · rw [walk_cons_of_ok learnt, Journal.looks_append, ih (Nat.lt_succ_of_lt before),
        Journal.looks_single, if_neg apart]
    · rw [walk_cons_of_error failed, Journal.looks_single, if_neg apart]

/-- A walk looks once at each entry that it comes to and that keeps nothing. -/
theorem looks_walk (act : Interceptor σ κ → SignatureMap → α → α) (position place : Nat)
    {entries : List (ChainEntry σ κ)} (faithful : ∀ e ∈ entries, e.Faithful) (x : α) :
    (walk act position entries x).2.2.looks (position + place) =
      if (Chain.mk entries).reaches place = true ∧ (Chain.mk entries).keepsAt place = false then 1
      else 0 := by
  induction entries generalizing position place x with
  | nil => simp [walk, reaches, length]
  | cons e rest ih =>
    obtain ⟨head, tail⟩ := List.forall_mem_cons.mp faithful
    have next : ∀ place, position + (place + 1) = position + 1 + place := by
      intro place
      omega
    -- Kept from before, learnt here, or failing here: only the last two are looks.
    rcases e.resolve_cases position with
      ⟨map, kept, same⟩ | ⟨map, empty, fresh, learnt⟩ | ⟨err, empty, fresh, failed⟩
    · have resolved := Interceptor.resolves_of_ok (head map kept)
      rw [walk_cons_of_ok same, Journal.looks_append, Journal.looks_empty, Nat.zero_add]
      cases place with
      | zero =>
        rw [Nat.add_zero position, looks_walk_of_lt act (Nat.lt_add_one position),
          keepsAt_cons_zero, kept]
        simp
      | succ place =>
        rw [next place, ih (position + 1) place tail, reaches_cons_succ, keepsAt_cons_succ,
          resolved, Bool.true_and]
    · rw [walk_cons_of_ok learnt, Journal.looks_append, Journal.looks_single]
      cases place with
      | zero =>
        rw [Nat.add_zero position, looks_walk_of_lt act (Nat.lt_add_one position),
          keepsAt_cons_zero, empty, reaches_cons_zero]
        simp
      | succ place =>
        rw [next place, ih (position + 1) place tail, reaches_cons_succ, keepsAt_cons_succ,
          Interceptor.resolves_of_ok fresh, Bool.true_and, if_neg (by omega), Nat.zero_add]
    · rw [walk_cons_of_error failed, Journal.looks_single]
      cases place with
      | zero =>
        rw [Nat.add_zero position, keepsAt_cons_zero, empty, reaches_cons_zero]
        simp
      | succ place =>
        rw [reaches_cons_succ, Interceptor.resolves_of_error fresh, if_neg (by omega)]
        simp

/-- Behind a walk those entries keep something that did before or that it came to and that
resolve. -/
theorem keepsAt_walk (act : Interceptor σ κ → SignatureMap → α → α) (position place : Nat)
    {entries : List (ChainEntry σ κ)} (faithful : ∀ e ∈ entries, e.Faithful) (x : α) :
    (Chain.mk (walk act position entries x).2.1).keepsAt place =
      ((Chain.mk entries).keepsAt place ||
        ((Chain.mk entries).reaches place && (Chain.mk entries).resolvesAt place)) := by
  induction entries generalizing position place x with
  | nil => simp [walk, reaches, length]
  | cons e rest ih =>
    obtain ⟨head, tail⟩ := List.forall_mem_cons.mp faithful
    rcases e.resolve_cases position with
      ⟨map, kept, same⟩ | ⟨map, empty, fresh, learnt⟩ | ⟨err, empty, fresh, failed⟩
    · have resolved := Interceptor.resolves_of_ok (head map kept)
      rw [walk_cons_of_ok same]
      cases place with
      | zero => simp [keepsAt_cons_zero, kept]
      | succ place =>
        simp only [keepsAt_cons_succ, reaches_cons_succ, resolvesAt_cons_succ, resolved,
          Bool.true_and, ih _ _ tail]
    · rw [walk_cons_of_ok learnt]
      have resolved := Interceptor.resolves_of_ok fresh
      cases place with
      | zero => simp [keepsAt_cons_zero, reaches_cons_zero, resolvesAt_cons_zero, resolved]
      | succ place =>
        simp only [keepsAt_cons_succ, reaches_cons_succ, resolvesAt_cons_succ, resolved,
          Bool.true_and, ih _ _ tail]
    · -- The entries behind stay as they are, and none of them is reached.
      rw [walk_cons_of_error failed]
      have unresolved := Interceptor.resolves_of_error fresh
      cases place with
      | zero => simp [resolvesAt_cons_zero, unresolved]
      | succ place => simp [reaches_cons_succ, unresolved]

/-- `base` is what has been walked along before. -/
theorem reports_walk (act : Interceptor σ κ → SignatureMap → α → α)
    (base : List (Interceptor σ κ)) (entries : List (ChainEntry σ κ)) (x : α) :
    (walk act base.length entries x).2.2.Reports (base ++ entries.map (·.interceptor)) := by
  induction entries generalizing base x with
  | nil => rfl
  | cons e rest ih =>
    have here : (base ++ e.interceptor :: rest.map (·.interceptor))[base.length]? =
        some e.interceptor := by
      simp
    have later := ih (base ++ [e.interceptor])
    rw [List.length_append, List.append_assoc] at later
    rcases e.resolve_cases base.length with
      ⟨map, _, same⟩ | ⟨map, _, fresh, learnt⟩ | ⟨err, _, fresh, failed⟩
    · rw [walk_cons_of_ok same]
      exact Journal.Reports.append rfl (later _)
    · rw [walk_cons_of_ok learnt]
      refine Journal.Reports.append ?_ (later _)
      simp only [Journal.Reports, List.map_cons, List.map_nil, here, Option.map_some,
        Interceptor.report_of_ok fresh]
      rfl
    · rw [walk_cons_of_error failed]
      simp only [Journal.Reports, List.map_cons, List.map_nil, here, Option.map_some,
        Interceptor.report_of_error fresh]
      rfl

/-- A walk reports nothing but its looks. -/
theorem isLook_of_mem_walk (act : Interceptor σ κ → SignatureMap → α → α) (position : Nat)
    (entries : List (ChainEntry σ κ)) (x : α) :
    ∀ e ∈ (walk act position entries x).2.2.events, e.isLook = true := by
  induction entries generalizing position x with
  | nil =>
    intro e inside
    cases inside
  | cons k rest ih =>
    rcases k.resolve_cases position with
      ⟨map, _, same⟩ | ⟨map, _, _, learnt⟩ | ⟨err, _, _, failed⟩
    · rw [walk_cons_of_ok same]
      exact ih _ _
    · rw [walk_cons_of_ok learnt]
      intro e inside
      rcases List.mem_cons.mp inside with rfl | later
      · rfl
      · exact ih _ _ e later
    · rw [walk_cons_of_error failed]
      intro e inside
      rw [List.mem_singleton.mp inside]
      rfl

/-- What a walk reports and leaves behind does not depend on what it is made for. -/
theorem walk_snd_eq {β : Type} (act : Interceptor σ κ → SignatureMap → α → α)
    (act' : Interceptor σ κ → SignatureMap → β → β) (position : Nat)
    (entries : List (ChainEntry σ κ)) (x : α) (y : β) :
    (walk act position entries x).2 = (walk act' position entries y).2 := by
  induction entries generalizing position x y with
  | nil => rfl
  | cons e rest ih =>
    rcases resolved : e.resolve position with ⟨err | map, e', journal⟩
    · rw [walk_cons_of_error resolved, walk_cons_of_error resolved]
    · rw [walk_cons_of_ok resolved, walk_cons_of_ok resolved]
      exact congrArg (fun left => (e' :: left.1, journal ++ left.2)) (ih _ _ _)

/-- The entries that keep something stand in front of all others, and each of them resolves
to what it keeps. -/
def KeptInFront (entries : List (ChainEntry σ κ)) : Prop :=
  ∃ kept fresh, entries = kept ++ fresh ∧
    (∀ e ∈ kept, ∃ map, e.resolved = some map ∧ e.interceptor.resolve = .ok map) ∧
    ∀ e ∈ fresh, e.resolved = none

theorem keptInFront_of_none {entries : List (ChainEntry σ κ)}
    (empty : ∀ e ∈ entries, e.resolved = none) : KeptInFront entries :=
  ⟨[], entries, rfl, fun _ impossible => absurd impossible List.not_mem_nil, empty⟩

section

variable {e : ChainEntry σ κ} {rest : List (ChainEntry σ κ)}

theorem KeptInFront.cons {map : SignatureMap} (front : KeptInFront rest)
    (kept : e.resolved = some map) (resolved : e.interceptor.resolve = .ok map) :
    KeptInFront (e :: rest) := by
  obtain ⟨before, fresh, rfl, filled, empty⟩ := front
  refine ⟨e :: before, fresh, rfl, ?_, empty⟩
  intro k inside
  rcases List.mem_cons.mp inside with rfl | inside
  · exact ⟨map, kept, resolved⟩
  · exact filled k inside

theorem KeptInFront.cases (front : KeptInFront (e :: rest)) :
    ((∃ map, e.resolved = some map) ∧ KeptInFront rest) ∨ ∀ k ∈ e :: rest, k.resolved = none := by
  obtain ⟨kept, fresh, split, filled, empty⟩ := front
  cases kept with
  | nil =>
    rw [split]
    exact .inr empty
  | cons head kept =>
    cases split
    obtain ⟨map, keeps, _⟩ := filled e List.mem_cons_self
    exact .inl ⟨⟨map, keeps⟩, kept, fresh, rfl,
      fun k inside => filled k (List.mem_cons_of_mem e inside), empty⟩

end

theorem KeptInFront.walk {entries : List (ChainEntry σ κ)} (front : KeptInFront entries)
    (faithful : ∀ e ∈ entries, e.Faithful) (act : Interceptor σ κ → SignatureMap → α → α)
    (position : Nat) (x : α) : KeptInFront (walk act position entries x).2.1 := by
  induction entries generalizing position x with
  | nil => exact front
  | cons e rest ih =>
    obtain ⟨head, tail⟩ := List.forall_mem_cons.mp faithful
    have inner : KeptInFront rest := by
      rcases front.cases with ⟨_, inner⟩ | empty
      · exact inner
      · exact keptInFront_of_none fun k inside => empty k (List.mem_cons_of_mem e inside)
    rcases e.resolve_cases position with
      ⟨map, kept, same⟩ | ⟨map, _, fresh, learnt⟩ | ⟨err, _, _, failed⟩
    · rw [walk_cons_of_ok same]
      exact (ih inner tail _ _).cons kept (head map kept)
    · rw [walk_cons_of_ok learnt]
      exact (ih inner tail _ _).cons rfl fresh
    · rw [walk_cons_of_error failed]
      exact front

end Chain

end Interception
