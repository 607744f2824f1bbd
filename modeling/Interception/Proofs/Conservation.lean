import Mathlib.Data.List.Perm.Basic
import Interception.Args.Operation
import Interception.Proofs.FirstFailure

/-!
# What becomes of arguments

Operations on an argument list come one after another, each on the list that those before it have
left. Reading and editing look at a place in the same way. What fails changes nothing, and what
succeeds changes one place at most. So nothing is lost and nothing is made up: the values that
are left and those that replacing handed back are the ones that were there and the ones that were
put in.
-/

set_option autoImplicit false

namespace Interception.Args

variable {κ : Type} [Kinds κ]
  {a b : Args κ} {index : Nat} {k : κ} {v : Value κ}

/-! ## Places -/

theorem slot_eq_ok_iff : a.slot index = .ok v ↔ a.values[index]? = some v := by
  rw [slot]
  cases a.values[index]? <;> simp

theorem slot_eq_error_iff {err : DispatchError} :
    a.slot index = .error err ↔ a.size ≤ index ∧ err = .missingArgument index := by
  rw [slot, size, ← List.getElem?_eq_none_iff]
  cases a.values[index]? <;> simp [eq_comm]

theorem get_of_slot_eq_error {err : DispatchError} (missing : a.slot index = .error err) :
    a.get index k = .error err := by
  rw [get, missing]
  rfl

theorem get_of_as? {x : Kinds.Carrier k} (there : a.slot index = .ok v) (fits : v.as? k = some x) :
    a.get index k = .ok x := by
  rw [get, there]
  simp only [bind, Except.bind, fits]

theorem get_of_as?_eq_none (there : a.slot index = .ok v) (other : v.as? k = none) :
    a.get index k = .error (.argumentType index (Kinds.typeName k)) := by
  rw [get, there]
  simp only [bind, Except.bind, other]

theorem get_eq_ok_iff {x : Kinds.Carrier k} :
    a.get index k = .ok x ↔ a.values[index]? = some ⟨k, x⟩ := by
  rw [← slot_eq_ok_iff]
  cases there : a.slot index with
  | error err =>
    rw [get_of_slot_eq_error there]
    exact iff_of_false nofun nofun
  | ok v =>
    rw [Except.ok.injEq, ← Value.as?_eq_some]
    cases fits : v.as? k with
    | none => simp [get_of_as?_eq_none there fits]
    | some y => simp [get_of_as? there fits]

/-- Either the place is missing, or what is there is of another kind. -/
theorem get_eq_error_iff {err : DispatchError} :
    a.get index k = .error err ↔
      (a.size ≤ index ∧ err = .missingArgument index) ∨
      ((∃ v, a.values[index]? = some v ∧ v.kind ≠ k) ∧
        err = .argumentType index (Kinds.typeName k)) := by
  simp only [← slot_eq_error_iff, ← slot_eq_ok_iff]
  cases there : a.slot index with
  | error missing => simp [get_of_slot_eq_error there]
  | ok v =>
    simp only [ne_eq, ← Value.as?_isSome]
    cases fits : v.as? k with
    | none => simp [get_of_as?_eq_none there fits, fits, eq_comm (b := err)]
    | some x => simp [get_of_as? there fits, fits]

theorem get_eq_missing_iff :
    a.get index k = .error (.missingArgument index) ↔ a.size ≤ index := by
  simp [get_eq_error_iff]

theorem get_eq_mistyped_iff :
    a.get index k = .error (.argumentType index (Kinds.typeName k)) ↔
      ∃ v, a.values[index]? = some v ∧ v.kind ≠ k := by
  simp [get_eq_error_iff]

theorem amend_eq_map (a : Args κ) (index : Nat) (e : Edit κ) :
    a.amend index e =
      (a.get index e.kind).map fun x => ⟨a.values.set index ⟨e.kind, e.apply x⟩⟩ := by
  rw [amend, edit]
  cases a.get index e.kind <;> rfl

theorem amend_eq_error_iff {e : Edit κ} {err : DispatchError} :
    a.amend index e = .error err ↔ a.get index e.kind = .error err := by
  rw [amend_eq_map, map_eq_error_iff]

theorem amend_eq_ok_iff {e : Edit κ} :
    a.amend index e = .ok b ↔
      ∃ x, a.get index e.kind = .ok x ∧ b = ⟨a.values.set index ⟨e.kind, e.apply x⟩⟩ := by
  simp only [amend_eq_map, map_eq_ok_iff, eq_comm (a := b)]

theorem replace_eq_map (a : Args κ) (index : Nat) (v : Value κ) :
    a.replace index v =
      (a.slot index).map fun previous => (previous, ⟨a.values.set index v⟩) := by
  rw [replace]
  cases a.slot index <;> rfl

theorem replace_eq_error_iff {err : DispatchError} :
    a.replace index v = .error err ↔ a.size ≤ index ∧ err = .missingArgument index := by
  rw [replace_eq_map, map_eq_error_iff, slot_eq_error_iff]

theorem replace_eq_ok_iff {previous : Value κ} :
    a.replace index v = .ok (previous, b) ↔
      a.values[index]? = some previous ∧ b = ⟨a.values.set index v⟩ := by
  simp [replace_eq_map, map_eq_ok_iff, slot_eq_ok_iff, eq_comm (a := b)]

/-! ## Single operations -/

namespace Operation

def edits : Operation κ → Bool
  | edit .. => true
  | _ => false

def drains : Operation κ → Bool
  | drain => true
  | _ => false

/-- The place that an operation writes to, if it is one that is there already. -/
def place? : Operation κ → Option Nat
  | edit index _ | replace index _ => some index
  | _ => none

theorem drains_of_place? {op : Operation κ} (placed : op.place? = some index) :
    op.drains = false := by
  cases op with
  | edit _ _ => rfl
  | replace _ _ => rfl
  | _ => cases placed

/-- What an operation with this answer has handed back. -/
def returned : Operation κ → Answer κ → List (Value κ)
  | replace _ _, .outcome (.ok previous) => [previous]
  | _, _ => []

/-- What an operation with this answer has put in. -/
def supplied : Operation κ → Answer κ → List (Value κ)
  | push v, _ => [v]
  | replace _ v, .outcome (.ok _) => [v]
  | _, _ => []

end Operation

/-- What operations do: their answers and the lists after them. An operation that fails and one
that only reads leave the list as it is. -/
inductive Does (a : Args κ) : Operation κ → Answer κ → Args κ → Prop
  | pushed (v : Value κ) : Does a (.push v) (.size (a.size + 1)) ⟨a.values ++ [v]⟩
  | edited {index : Nat} {e : Edit κ} {x : Kinds.Carrier e.kind}
      (there : a.values[index]? = some ⟨e.kind, x⟩) :
      Does a (.edit index e) (.outcome (.ok ⟨e.kind, e.apply x⟩))
        ⟨a.values.set index ⟨e.kind, e.apply x⟩⟩
  | replaced {index : Nat} {v previous : Value κ} (there : a.values[index]? = some previous) :
      Does a (.replace index v) (.outcome (.ok previous)) ⟨a.values.set index v⟩
  | kept {op : Operation κ} {answer : Answer κ} (returned : op.returned answer = [])
      (supplied : op.supplied answer = []) : Does a op answer a

theorem does_edit (a : Args κ) (index : Nat) (e : Edit κ) :
    Does a (.edit index e) (a.perform (.edit index e)).1 (a.perform (.edit index e)).2 := by
  rw [perform, amend_eq_map]
  cases found : a.get index e.kind with
  | error err => exact .kept rfl rfl
  | ok x =>
    have there := get_eq_ok_iff.mp found
    obtain ⟨inside, _⟩ := List.getElem?_eq_some_iff.mp there
    have now : (Args.mk (a.values.set index ⟨e.kind, e.apply x⟩)).slot index =
        .ok ⟨e.kind, e.apply x⟩ :=
      slot_eq_ok_iff.mpr (List.getElem?_set_self inside)
    simp only [Except.map, now]
    exact .edited there

theorem does_replace (a : Args κ) (index : Nat) (v : Value κ) :
    Does a (.replace index v) (a.perform (.replace index v)).1
      (a.perform (.replace index v)).2 := by
  rw [perform, replace_eq_map]
  cases found : a.slot index with
  | error err => exact .kept rfl rfl
  | ok previous => exact .replaced (slot_eq_ok_iff.mp found)

theorem does_perform {op : Operation κ} (undrained : op.drains = false) (a : Args κ) :
    Does a op (a.perform op).1 (a.perform op).2 := by
  cases op with
  | push v =>
    rw [perform, size_push]
    exact .pushed v
  | edit index e => exact does_edit a index e
  | replace index v => exact does_replace a index v
  | drain => cases undrained
  | get index k => exact .kept rfl rfl
  | count => exact .kept rfl rfl
  | describe => exact .kept rfl rfl
  | downcast v k => exact .kept rfl rfl

/-- What fails changes nothing. -/
theorem perform_of_failed {op : Operation κ} {err : DispatchError}
    (failed : (a.perform op).1 = .outcome (.error err)) : (a.perform op).2 = a := by
  cases drained : op.drains with
  | true =>
    cases op <;> cases drained
    cases failed
  | false =>
    have does := does_perform drained a
    rw [failed] at does
    generalize (a.perform op).2 = b at does ⊢
    cases does
    rfl

section

variable {op : Operation κ} {answer : Answer κ}

theorem Does.size_le (does : Does a op answer b) : a.size ≤ b.size := by
  cases does <;> simp [size]

theorem Does.size_eq (does : Does a op answer b) (placed : op.place? = some index) :
    b.size = a.size := by
  cases does with
  | pushed v => cases placed
  | edited there => simp [size]
  | replaced there => simp [size]
  | kept _ _ => rfl

/-- A place that is there and that the operation does not write to stays as it is. -/
theorem Does.getElem?_eq (does : Does a op answer b) (inside : index < a.size)
    (elsewhere : op.place? ≠ some index) : b.values[index]? = a.values[index]? := by
  cases does with
  | pushed v => exact List.getElem?_append_left inside
  | edited there => exact List.getElem?_set_ne fun same => elsewhere (congrArg some same)
  | replaced there => exact List.getElem?_set_ne fun same => elsewhere (congrArg some same)
  | kept _ _ => rfl

/-- An edit leaves what `g` tells of a value as it is. -/
def Operation.Keeps {β : Type} (g : Value κ → β) : Operation κ → Prop
  | edit _ e => ∀ x, g ⟨e.kind, e.apply x⟩ = g ⟨e.kind, x⟩
  | _ => True

open scoped List in
theorem perm_set_append {α : Type} {l : List α} {x : α} (there : l[index]? = some x) (y : α) :
    l.set index y ++ [x] ~ l ++ [y] := by
  obtain ⟨inside, rfl⟩ := List.getElem?_eq_some_iff.mp there
  calc
    l.set index y ++ [l[index]] ~ l[index] :: l.set index y := List.perm_append_singleton _ _
    _ ~ l[index] :: y :: l.eraseIdx index := (List.set_perm_cons_eraseIdx inside y).cons _
    _ ~ y :: l[index] :: l.eraseIdx index := List.Perm.swap _ _ _
    _ ~ y :: l := (List.getElem_cons_eraseIdx_perm inside).cons y
    _ ~ l ++ [y] := (List.perm_append_singleton _ _).symm

/-- An edit that keeps what `g` tells of a value keeps it for the whole list. -/
theorem map_set_of_same {β : Type} {g : Value κ → β} {x y : Value κ}
    (there : a.values[index]? = some x) (same : g y = g x) :
    (a.values.set index y).map g = a.values.map g := by
  obtain ⟨inside, rfl⟩ := List.getElem?_eq_some_iff.mp there
  have mapped : index < (a.values.map g).length := by rwa [List.length_map]
  have kept := List.set_getElem_self mapped
  rwa [List.getElem_map, ← same, ← List.map_set] at kept

theorem Does.perm {β : Type} {g : Value κ → β} (does : Does a op answer b) (keeps : op.Keeps g) :
    ((b.values ++ op.returned answer).map g).Perm ((a.values ++ op.supplied answer).map g) := by
  cases does with
  | pushed v => simp [Operation.returned, Operation.supplied]
  | edited there =>
    rw [List.map_append, List.map_append]
    exact .append_right _ (.of_eq (map_set_of_same there (keeps _)))
  | replaced there => exact (perm_set_append there _).map g
  | kept returned supplied => rw [returned, supplied]

end

/-! ## Runs -/

/-- The list after operations that follow one another. -/
def after (a : Args κ) (ops : List (Operation κ)) : Args κ :=
  ops.foldl (fun a op => (a.perform op).2) a

/-- All that was handed back, in order. -/
def returned (a : Args κ) (ops : List (Operation κ)) : List (Value κ) :=
  (List.zipWith Operation.returned ops (a.performAll ops)).flatten

/-- All that was put in, in order. -/
def supplied (a : Args κ) (ops : List (Operation κ)) : List (Value κ) :=
  (List.zipWith Operation.supplied ops (a.performAll ops)).flatten

section

variable {op : Operation κ} {ops : List (Operation κ)}

theorem returned_cons : a.returned (op :: ops) =
    op.returned (a.perform op).1 ++ (a.perform op).2.returned ops := rfl

theorem supplied_cons : a.supplied (op :: ops) =
    op.supplied (a.perform op).1 ++ (a.perform op).2.supplied ops := rfl

theorem performAll_append (a : Args κ) (ops more : List (Operation κ)) :
    a.performAll (ops ++ more) = a.performAll ops ++ (a.after ops).performAll more := by
  induction ops generalizing a with
  | nil => rfl
  | cons op rest ih => exact congrArg (List.cons _) (ih _)

theorem size_le_after (undrained : ∀ op ∈ ops, op.drains = false) :
    a.size ≤ (a.after ops).size := by
  induction ops generalizing a with
  | nil => exact Nat.le_refl _
  | cons op rest ih =>
    rw [List.forall_mem_cons] at undrained
    exact Nat.le_trans (does_perform undrained.1 a).size_le (ih undrained.2)

/-- What no operation writes to stays as it is. -/
theorem getElem?_after (undrained : ∀ op ∈ ops, op.drains = false) (inside : index < a.size)
    (elsewhere : ∀ op ∈ ops, op.place? ≠ some index) :
    (a.after ops).values[index]? = a.values[index]? := by
  induction ops generalizing a with
  | nil => rfl
  | cons op rest ih =>
    rw [List.forall_mem_cons] at undrained elsewhere
    have does := does_perform undrained.1 a
    calc
      ((a.perform op).2.after rest).values[index]? = (a.perform op).2.values[index]? :=
        ih undrained.2 (Nat.lt_of_lt_of_le inside does.size_le) elsewhere.2
      _ = a.values[index]? := does.getElem?_eq inside elsewhere.1

open scoped List in
/-- Two balances add up, the second of which begins where the first ends. -/
theorem perm_append_trans {α : Type} {l m n out out' input input' : List α}
    (first : m ++ out ~ l ++ input) (later : n ++ out' ~ m ++ input') :
    n ++ (out ++ out') ~ l ++ (input ++ input') := by
  calc
    n ++ (out ++ out') ~ out ++ (n ++ out') := List.perm_append_comm_assoc _ _ _
    _ ~ out ++ (m ++ input') := later.append_left out
    _ ~ m ++ (out ++ input') := List.perm_append_comm_assoc _ _ _
    _ = (m ++ out) ++ input' := (List.append_assoc _ _ _).symm
    _ ~ (l ++ input) ++ input' := first.append_right input'
    _ = l ++ (input ++ input') := List.append_assoc _ _ _

open scoped List in
/-- What is left and what was handed back is what was there and what was put in, as far as edits
do not change it. -/
theorem perm_after {β : Type} (g : Value κ → β) (undrained : ∀ op ∈ ops, op.drains = false)
    (keeps : ∀ op ∈ ops, op.Keeps g) :
    ((a.after ops).values ++ a.returned ops).map g ~ (a.values ++ a.supplied ops).map g := by
  induction ops generalizing a with
  | nil => exact .refl _
  | cons op rest ih =>
    rw [List.forall_mem_cons] at undrained keeps
    have first := (does_perform undrained.1 a).perm keeps.1
    have later := ih undrained.2 keeps.2 (a := (a.perform op).2)
    simp only [List.map_append] at first later
    rw [returned_cons, supplied_cons]
    simp only [List.map_append]
    exact perm_append_trans first later

theorem Operation.keeps_of_not_edits {β : Type} (g : Value κ → β) (unedited : op.edits = false) :
    op.Keeps g := by
  cases op with
  | edit _ _ => cases unedited
  | _ => exact trivial

theorem Operation.keeps_kind (op : Operation κ) : op.Keeps Value.kind := by
  cases op with
  | edit _ _ => exact fun _ => rfl
  | _ => exact trivial

end

open scoped List in
/-- Wherever operations have led, reading a place succeeds if it is there and holds the kind asked
for, and an edit succeeds and fails just as reading does. Replacing fails only where there is
no place. What fails changes nothing; what succeeds keeps the number of places and all places
but its own. In the end no place has gone. The values, in the order of their places, and those
that were handed back are the ones that were there and the ones that were put in: in their kinds
always, and in full if nothing was edited. -/
theorem operations_conserve (a : Args κ) (ops : List (Operation κ))
    (undrained : ∀ op ∈ ops, op.drains = false) :
    let b := a.after ops
    (∀ op, a.performAll (ops ++ [op]) = a.performAll ops ++ [(b.perform op).1]) ∧
    (∀ index k,
      (∀ x, b.get index k = .ok x ↔ b.values[index]? = some ⟨k, x⟩) ∧
      (b.get index k = .error (.missingArgument index) ↔ b.size ≤ index) ∧
      (b.get index k = .error (.argumentType index (Kinds.typeName k)) ↔
        ∃ v, b.values[index]? = some v ∧ v.kind ≠ k)) ∧
    (∀ index (e : Edit κ),
      (∀ err, b.amend index e = .error err ↔ b.get index e.kind = .error err) ∧
      ∀ c, b.amend index e = .ok c ↔
        ∃ x, b.get index e.kind = .ok x ∧ c = ⟨b.values.set index ⟨e.kind, e.apply x⟩⟩) ∧
    (∀ index v,
      (∀ err, b.replace index v = .error err ↔
        b.size ≤ index ∧ err = .missingArgument index) ∧
      ∀ previous c, b.replace index v = .ok (previous, c) ↔
        b.values[index]? = some previous ∧ c = ⟨b.values.set index v⟩) ∧
    (∀ op err, (b.perform op).1 = .outcome (.error err) → (b.perform op).2 = b) ∧
    (∀ op index, op.place? = some index →
      (b.perform op).2.size = b.size ∧
      ∀ other < b.size, other ≠ index → (b.perform op).2.values[other]? = b.values[other]?) ∧
    (∀ index < a.size, (∀ op ∈ ops, op.place? ≠ some index) →
      b.values[index]? = a.values[index]?) ∧
    ∃ vs, (b.perform .drain).1 = .values vs ∧ a.size ≤ vs.length ∧
      (∀ index v, vs[index]? = some v ↔ b.slot index = .ok v) ∧
      (vs ++ a.returned ops).map Value.kind ~ (a.values ++ a.supplied ops).map Value.kind ∧
      ((∀ op ∈ ops, op.edits = false) → vs ++ a.returned ops ~ a.values ++ a.supplied ops) := by
  intro b
  refine ⟨fun op => performAll_append a ops [op], ?_, ?_, ?_, ?_, ?_, ?_, ?_⟩
  · exact fun index k => ⟨fun x => get_eq_ok_iff, get_eq_missing_iff, get_eq_mistyped_iff⟩
  · exact fun index e => ⟨fun err => amend_eq_error_iff, fun c => amend_eq_ok_iff⟩
  · exact fun index v => ⟨fun err => replace_eq_error_iff, fun _ _ => replace_eq_ok_iff⟩
  · exact fun op err => perform_of_failed
  · intro op index placed
    have does : Does b op (b.perform op).1 (b.perform op).2 :=
      does_perform (Operation.drains_of_place? placed) b
    refine ⟨does.size_eq placed, fun other inside apart => does.getElem?_eq inside ?_⟩
    rw [placed]
    exact fun same => apart (Option.some.inj same).symm
  · exact fun index inside elsewhere => getElem?_after undrained inside elsewhere
  · refine ⟨b.values, rfl, size_le_after undrained, fun _ _ => slot_eq_ok_iff.symm, ?_, ?_⟩
    · exact perm_after Value.kind undrained fun op _ => op.keeps_kind
    · intro unedited
      have balance := perm_after (a := a) id undrained fun op inside =>
        op.keeps_of_not_edits id (unedited op inside)
      rwa [List.map_id, List.map_id] at balance

/-- A place changes its kind, a replacement has nowhere to go, and a value comes in addition. -/
theorem operations_conserve_replaced :
    let a : Args := ⟨[.ofSigned 1, .ofText "a"]⟩
    let ops : List Operation :=
      [.replace 1 (.ofFlag true), .get 1 .text, .replace 7 .ofUnit, .push (.ofText "b")]
    (∀ op ∈ ops, op.drains = false) ∧ (∀ op ∈ ops, op.edits = false) ∧
      a.performAll (ops ++ [.drain]) =
        [.outcome (.ok (.ofText "a")),
          .outcome (.error (.argumentType 1 "alloc::string::String")),
          .outcome (.error (.missingArgument 7)), .size 3,
          .values [.ofSigned 1, .ofFlag true, .ofText "b"]] ∧
      ([.ofSigned 1, .ofFlag true, .ofText "b"] ++ [.ofText "a"] : List Value).Perm
        ([.ofSigned 1, .ofText "a"] ++ [.ofFlag true, .ofText "b"]) := by
  intro a ops
  have undrained : ∀ op ∈ ops, op.drains = false := by decide
  have unedited : ∀ op ∈ ops, op.edits = false := by decide
  obtain ⟨next, _, _, _, _, _, _, vs, drained, _, _, _, balance⟩ :=
    operations_conserve a ops undrained
  obtain rfl : (a.after ops).values = vs := Answer.values.inj drained
  exact ⟨undrained, unedited, next .drain, balance unedited⟩

end Interception.Args
