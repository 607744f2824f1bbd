/-!
# The first failure along a list

Declarations and chain entries are both gone through in order: each element is
looked up on its own, a result changes the value carried along, and the first
failure ends the walk. Whether a walk fails and what it fails with therefore depend
on the elements only and not on the value.
-/

set_option autoImplicit false

namespace Interception

section

variable {α β γ ε : Type}

instance decidableEqExcept [DecidableEq ε] [DecidableEq α] : DecidableEq (Except ε α)
  | .ok a, .ok b => decidable_of_iff (a = b) (by rw [Except.ok.injEq])
  | .error e, .error f => decidable_of_iff (e = f) (by rw [Except.error.injEq])
  | .ok _, .error _ => isFalse (by simp)
  | .error _, .ok _ => isFalse (by simp)

theorem map_eq_ok_iff {f : α → β} {x : Except ε α} {b : β} :
    x.map f = .ok b ↔ ∃ a, x = .ok a ∧ f a = b := by
  cases x with
  | error e => simp [Except.map]
  | ok a => simp [Except.map]

theorem map_eq_error_iff {f : α → β} {x : Except ε α} {e : ε} :
    x.map f = .error e ↔ x = .error e := by
  cases x with
  | error e' => simp [Except.map]
  | ok a => simp [Except.map]

theorem exists_of_bind_eq_ok {first : Except ε α} {next : α → Except ε β} {b : β}
    (done : (first >>= next) = .ok b) : ∃ a, first = .ok a ∧ next a = .ok b := by
  cases first with
  | error e => cases done
  | ok a => exact ⟨a, rfl, done⟩

/-- The elements in front have a result and the next one fails with `e`. -/
def FirstFailure (look : α → Except ε γ) (xs : List α) (e : ε) : Prop :=
  ∃ before x after, xs = before ++ x :: after ∧
    (∀ y ∈ before, ∃ g, look y = .ok g) ∧ look x = .error e

theorem not_firstFailure_nil (look : α → Except ε γ) (e : ε) : ¬FirstFailure look [] e := by
  rintro ⟨before, x, after, split, _⟩
  cases before <;> cases split

theorem firstFailure_cons_of_error {look : α → Except ε γ} {x : α} {xs : List α} {e e' : ε}
    (failed : look x = .error e') : FirstFailure look (x :: xs) e ↔ e' = e := by
  constructor
  · rintro ⟨before, y, after, split, found, failure⟩
    cases before with
    | nil =>
      cases split
      rw [failed] at failure
      cases failure
      rfl
    | cons head before =>
      cases split
      obtain ⟨g, found⟩ := found x List.mem_cons_self
      rw [failed] at found
      cases found
  · rintro rfl
    refine ⟨[], x, xs, rfl, ?_, failed⟩
    intro y membership
    cases membership

theorem firstFailure_cons_of_ok {look : α → Except ε γ} {x : α} {xs : List α} {e : ε} {g : γ}
    (looked : look x = .ok g) : FirstFailure look (x :: xs) e ↔ FirstFailure look xs e := by
  constructor
  · rintro ⟨before, y, after, split, found, failure⟩
    cases before with
    | nil =>
      cases split
      rw [looked] at failure
      cases failure
    | cons head before =>
      cases split
      exact ⟨before, y, after, rfl, fun z inside => found z (List.mem_cons_of_mem x inside),
        failure⟩
  · rintro ⟨before, y, after, rfl, found, failure⟩
    refine ⟨x :: before, y, after, rfl, ?_, failure⟩
    intro z membership
    rcases List.mem_cons.mp membership with rfl | inside
    · exact ⟨g, looked⟩
    · exact found z inside

/-- Goes through `xs` and lets each result act on the value carried along. -/
def foldLooked (look : α → Except ε γ) (act : α → γ → β → β) (xs : List α) (b : β) :
    Except ε β :=
  xs.foldlM (fun b x => (look x).map (act x · b)) b

theorem foldLooked_nil (look : α → Except ε γ) (act : α → γ → β → β) (b : β) :
    foldLooked look act [] b = .ok b := rfl

theorem foldLooked_cons_of_ok {look : α → Except ε γ} (act : α → γ → β → β) {x : α} {g : γ}
    (looked : look x = .ok g) (xs : List α) (b : β) :
    foldLooked look act (x :: xs) b = foldLooked look act xs (act x g b) := by
  simp only [foldLooked, List.foldlM_cons, looked]
  rfl

theorem foldLooked_cons_of_error {look : α → Except ε γ} (act : α → γ → β → β) {x : α} {e : ε}
    (failed : look x = .error e) (xs : List α) (b : β) :
    foldLooked look act (x :: xs) b = .error e := by
  simp only [foldLooked, List.foldlM_cons, failed]
  rfl

theorem foldLooked_eq_error_iff {look : α → Except ε γ} {act : α → γ → β → β} {xs : List α}
    {b : β} {e : ε} : foldLooked look act xs b = .error e ↔ FirstFailure look xs e := by
  induction xs generalizing b with
  | nil =>
    constructor
    · intro failed
      cases failed
    · intro failure
      exact absurd failure (not_firstFailure_nil look e)
  | cons x xs ih =>
    cases looked : look x with
    | error e' =>
      rw [foldLooked_cons_of_error act looked, firstFailure_cons_of_error looked,
        Except.error.injEq]
    | ok g => rw [foldLooked_cons_of_ok act looked, firstFailure_cons_of_ok looked, ih]

theorem exists_foldLooked_eq_ok_iff {look : α → Except ε γ} {act : α → γ → β → β} {xs : List α}
    {b : β} : (∃ r, foldLooked look act xs b = .ok r) ↔ ∀ x ∈ xs, ∃ g, look x = .ok g := by
  induction xs generalizing b with
  | nil => simp [foldLooked_nil]
  | cons x xs ih =>
    cases looked : look x with
    | error e => simp [foldLooked_cons_of_error act looked, looked]
    | ok g => simp [foldLooked_cons_of_ok act looked, looked, ih]

end

end Interception
