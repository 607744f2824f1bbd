import Interception.Proofs.UniqueNames

/-!
# The walk in preorder

The hierarchy above a list of interfaces, laid out in full, shows an interface once for each
way that leads to it. The walk stops at a name that it knows, together with everything above
it. Where names are unique all of that has been listed by then, since the interface cannot be
one whose hierarchy the walk is still inside of. So the walk comes to the same as going
through the whole layout and keeping each name where it occurs first.
-/

set_option autoImplicit false

namespace Interception

namespace Interface

theorem lists_append {seen more : List Interface} {name : String} :
    Lists (seen ++ more) name ↔ Lists seen name ∨ Lists more name := by
  simp only [Lists, List.mem_append, or_and_right, exists_or]

theorem lists_singleton {i : Interface} {name : String} : Lists [i] name ↔ i.name = name := by
  simp only [Lists, List.mem_singleton, exists_eq_left]

/-- Puts an interface behind the others, unless its name is listed. -/
def note (seen : List Interface) (i : Interface) : List Interface :=
  if seen.any (·.name == i.name) then seen else seen ++ [i]

theorem note_of_lists {seen : List Interface} {i : Interface} (known : Lists seen i.name) :
    note seen i = seen :=
  if_pos (any_name_iff.mpr known)

theorem note_of_not_lists {seen : List Interface} {i : Interface}
    (fresh : ¬Lists seen i.name) : note seen i = seen ++ [i] :=
  if_neg fun known => fresh (any_name_iff.mp known)

theorem lists_note {seen : List Interface} {i : Interface} {name : String} :
    Lists (note seen i) name ↔ Lists seen name ∨ i.name = name := by
  by_cases known : Lists seen i.name
  · rw [note_of_lists known, or_iff_left_of_imp]
    rintro rfl
    exact known
  · rw [note_of_not_lists known, lists_append, lists_singleton]

def noteAll (seen interfaces : List Interface) : List Interface :=
  interfaces.foldl note seen

theorem noteAll_cons (seen : List Interface) (i : Interface) (rest : List Interface) :
    noteAll seen (i :: rest) = noteAll (note seen i) rest := rfl

theorem noteAll_append (seen first second : List Interface) :
    noteAll seen (first ++ second) = noteAll (noteAll seen first) second :=
  List.foldl_append

theorem lists_noteAll {seen interfaces : List Interface} {name : String} :
    Lists (noteAll seen interfaces) name ↔ Lists seen name ∨ Lists interfaces name := by
  induction interfaces generalizing seen with
  | nil => simp [noteAll, Lists]
  | cons i rest ih =>
    rw [noteAll_cons, ih, lists_note, or_assoc, ← lists_singleton, ← lists_append]
    rfl

/-- What is listed already is not noted again. -/
theorem noteAll_of_lists {seen interfaces : List Interface}
    (known : ∀ i ∈ interfaces, Lists seen i.name) : noteAll seen interfaces = seen := by
  induction interfaces with
  | nil => rfl
  | cons i rest ih =>
    rw [noteAll_cons, note_of_lists (known i List.mem_cons_self)]
    exact ih fun k later => known k (List.mem_cons_of_mem i later)

theorem noteAll_eq_append (seen interfaces : List Interface) :
    noteAll seen interfaces =
      seen ++ (interfaces.filter fun i => !seen.any (·.name == i.name)).eraseDupsBy same := by
  induction interfaces generalizing seen with
  | nil => exact (List.append_nil seen).symm
  | cons i rest ih =>
    rw [noteAll_cons, ih, List.filter_cons]
    by_cases known : Lists seen i.name
    · rw [note_of_lists known, any_name_iff.mpr known]
      rfl
    · have fresh : seen.any (·.name == i.name) = false := by
        rw [← Bool.not_eq_true, any_name_iff]
        exact known
      have later : (rest.filter fun k => !(seen ++ [i]).any (·.name == k.name)) =
          (rest.filter fun k => !seen.any (·.name == k.name)).filter
            fun k => decide (same k i = false) := by
        rw [List.filter_filter]
        apply List.filter_congr
        intro k _
        simp only [same, List.any_append, List.any_cons, List.any_nil, Bool.or_false,
          Bool.not_or, Bool.decide_eq_false, Bool.and_comm, BEq.comm (a := k.name)]
      rw [note_of_not_lists known, fresh, later, List.append_assoc]
      exact congrArg (seen ++ ·) (List.eraseDupsBy_cons).symm

/-- Noting a list is keeping each name where it occurs first. -/
theorem noteAll_nil_eq (interfaces : List Interface) :
    noteAll [] interfaces = interfaces.eraseDupsBy same := by
  rw [noteAll_eq_append, List.nil_append]
  exact congrArg _ (List.filter_eq_self.mpr fun _ _ => rfl)

theorem not_reaches_of_mem_supers {i j : Interface} (direct : j ∈ i.supers) : ¬Reaches j i := by
  induction i using induction_supers generalizing j with
  | step i above =>
    intro reached
    cases reached with
    | refl => exact above i direct direct (.refl i)
    | step next further => exact above j direct next (further.trans (.step direct (.refl j)))

/-- Whatever is listed by name of what `roots` reach is listed with all that it reaches. -/
def Settled (seen roots : List Interface) : Prop :=
  ∀ k, ReachedFrom roots k → Lists seen k.name → ∀ j, Reaches k j → Lists seen j.name

theorem settled_nil (roots : List Interface) : Settled [] roots := by
  rintro k _ ⟨j, inside, _⟩
  cases inside

theorem Settled.of_roots {seen roots others : List Interface} (settled : Settled seen roots)
    (below : ∀ i ∈ others, ReachedFrom roots i) : Settled seen others :=
  fun k reached => settled k (reached.of_roots below)

/-- Noting a whole hierarchy leaves nothing half done. -/
theorem Settled.noteAll {seen roots : List Interface} {i : Interface}
    (settled : Settled seen roots) (unique : UniqueNames roots) (inside : i ∈ roots) :
    Settled (noteAll seen i.hierarchy) roots := by
  intro k reached listed j further
  rw [lists_noteAll] at listed ⊢
  rcases listed with before | ⟨k', above, named⟩
  · exact .inl (settled k reached before j further)
  · rw [mem_hierarchy_iff] at above
    obtain rfl : k' = k := unique k' k ⟨i, inside, above⟩ reached named
    exact .inr ⟨j, mem_hierarchy_iff.mpr (above.trans further), rfl⟩

/-- An interface that is not listed yet may be put behind the others before what it extends. -/
theorem Settled.supers {seen : List Interface} {i : Interface} (settled : Settled seen [i])
    (unique : UniqueNames [i]) : Settled (seen ++ [i]) i.supers := by
  have own : ReachedFrom [i] i := .of_mem List.mem_cons_self
  rintro k ⟨j, direct, further⟩ listed
  have reached : ReachedFrom [i] k := own.trans (.step direct further)
  rcases lists_append.mp listed with before | same
  · exact fun l onwards => lists_append.mpr (.inl (settled k reached before l onwards))
  · rw [lists_singleton] at same
    obtain rfl : i = k := unique i k own reached same
    exact absurd further (not_reaches_of_mem_supers direct)

theorem visitAll_eq_noteAll_of {roots : List Interface}
    (each : ∀ i ∈ roots, ∀ seen, Settled seen [i] → visit seen i = noteAll seen i.hierarchy)
    (unique : UniqueNames roots) {seen : List Interface} (settled : Settled seen roots) :
    visitAll seen roots = noteAll seen (hierarchies roots) := by
  induction roots generalizing seen with
  | nil => rfl
  | cons i rest ih =>
    have first : visit seen i = noteAll seen i.hierarchy :=
      each i List.mem_cons_self seen
        (settled.of_roots (List.forall_mem_singleton.mpr (.of_mem List.mem_cons_self)))
    have others : ∀ k ∈ rest, ReachedFrom (i :: rest) k :=
      fun k inside => .of_mem (List.mem_cons_of_mem i inside)
    rw [visitAll, hierarchies, noteAll_append, first]
    apply ih (fun k inside => each k (List.mem_cons_of_mem i inside)) (unique.of_roots others)
    exact (settled.noteAll unique List.mem_cons_self).of_roots others

theorem visit_eq_noteAll {i : Interface} (unique : UniqueNames [i]) {seen : List Interface}
    (settled : Settled seen [i]) : visit seen i = noteAll seen i.hierarchy := by
  induction i using induction_supers generalizing seen with
  | step i above =>
    have own : ReachedFrom [i] i := .of_mem List.mem_cons_self
    rw [visit_eq]
    split
    · next known =>
      rw [any_name_iff] at known
      symm
      apply noteAll_of_lists
      intro j inside
      exact settled i own known j (mem_hierarchy_iff.mp inside)
    · next fresh =>
      rw [any_name_iff] at fresh
      have supers : ∀ j ∈ i.supers, ReachedFrom [i] j :=
        fun j direct => own.trans (.step direct (.refl j))
      rw [hierarchy_eq, noteAll_cons, note_of_not_lists fresh]
      apply visitAll_eq_noteAll_of _ (unique.of_roots supers) (settled.supers unique)
      intro j direct seen settled
      exact above j direct
        (unique.of_roots (List.forall_mem_singleton.mpr (supers j direct))) settled

theorem visitAll_eq_noteAll {roots : List Interface} (unique : UniqueNames roots) :
    visitAll [] roots = noteAll [] (hierarchies roots) := by
  apply visitAll_eq_noteAll_of _ unique (settled_nil roots)
  intro i inside seen settled
  exact visit_eq_noteAll
    (unique.of_roots (List.forall_mem_singleton.mpr (.of_mem inside))) settled

theorem hierarchies_eq_flatMap (interfaces : List Interface) :
    hierarchies interfaces = interfaces.flatMap hierarchy := by
  induction interfaces with
  | nil => rfl
  | cons i rest ih => rw [hierarchies, ih, List.flatMap_cons]

theorem hierarchies_append (first second : List Interface) :
    hierarchies (first ++ second) = hierarchies first ++ hierarchies second := by
  simp only [hierarchies_eq_flatMap, List.flatMap_append]

end Interface

namespace TypeDescriptor

open Interface

variable {d : TypeDescriptor}

theorem mem_declared_iff {i : Interface} :
    i ∈ d.declared ↔ ∃ level ∈ d.levels, i ∈ level.interfaces :=
  List.mem_flatMap

theorem allInterfaces_eq_noteAll (unique : UniqueNames d.declared) :
    d.allInterfaces = noteAll [] (hierarchies d.declared) :=
  visitAll_eq_noteAll unique

/-- A name that is realized is one that some declared interface has or extends. -/
theorem isOrExtends_of_realizes {name : String} (realized : d.realizes name = true) :
    ∃ i ∈ d.declared, i.isOrExtends name = true := by
  obtain ⟨j, listed, named⟩ := realizes_iff.mp realized
  obtain ⟨i, declared, reached⟩ := reaches_of_mem_allInterfaces listed
  exact ⟨i, declared, isOrExtends_iff.mpr ⟨j, reached, named⟩⟩

theorem realizes_iff_isOrExtends (unique : UniqueNames d.declared) {name : String} :
    d.realizes name = true ↔ ∃ i ∈ d.declared, i.isOrExtends name = true := by
  refine ⟨isOrExtends_of_realizes, ?_⟩
  rintro ⟨i, declared, found⟩
  obtain ⟨j, reached, named⟩ := isOrExtends_iff.mp found
  exact (realizes_iff_reachedFrom unique).mpr ⟨j, ⟨i, declared, reached⟩, named⟩

/-- What the listing of a type's interfaces is. No name is listed twice, whatever is listed
is reached from an interface of some level, and the names are those of all levels together
with those of everything that a listed interface extends directly. Where names are unique
this is the whole hierarchy of all levels in preorder, each name where it occurs first. -/
theorem allInterfaces_lists_hierarchy (d : TypeDescriptor) :
    (d.allInterfaces.map (·.name)).Nodup ∧
    (∀ j ∈ d.allInterfaces, ∃ level ∈ d.levels, ∃ i ∈ level.interfaces, Reaches i j) ∧
    (∀ level ∈ d.levels, ∀ i ∈ level.interfaces, ∃ j ∈ d.allInterfaces, j.name = i.name) ∧
    (∀ j ∈ d.allInterfaces, ∀ k ∈ j.supers, ∃ l ∈ d.allInterfaces, l.name = k.name) ∧
    (UniqueNames d.declared →
      d.allInterfaces =
        (d.levels.flatMap fun level => level.interfaces.flatMap hierarchy).eraseDupsBy same ∧
      ∀ name, d.realizes name = true ↔
        ∃ level ∈ d.levels, ∃ i ∈ level.interfaces, i.isOrExtends name = true) := by
  refine ⟨nodup_names_visitAll .nil, ?_, ?_, ?_, ?_⟩
  · intro j listed
    obtain ⟨i, declared, reached⟩ := reaches_of_mem_allInterfaces listed
    obtain ⟨level, above, inside⟩ := mem_declared_iff.mp declared
    exact ⟨level, above, i, inside, reached⟩
  · intro level above i inside
    exact lists_of_mem_declared (mem_declared_iff.mpr ⟨level, above, inside⟩)
  · intro j listed k direct
    exact lists_supers_of_mem_allInterfaces listed direct
  · intro unique
    constructor
    · rw [allInterfaces_eq_noteAll unique, noteAll_nil_eq, hierarchies_eq_flatMap, declared,
        List.flatMap_assoc]
    · intro name
      rw [realizes_iff_isOrExtends unique]
      constructor
      · rintro ⟨i, declared, found⟩
        obtain ⟨level, above, inside⟩ := mem_declared_iff.mp declared
        exact ⟨level, above, i, inside, found⟩
      · rintro ⟨level, above, i, inside, found⟩
        exact ⟨i, mem_declared_iff.mpr ⟨level, above, inside⟩, found⟩

/-- A second interface of a name hides what it extends, so that the walk is no preorder. -/
example : (TypeDescriptor.mk ⟨"T", [⟨"A", [], []⟩, ⟨"B", [], [⟨"A", [], [⟨"C", [], []⟩]⟩]⟩]⟩
    []).allInterfaces.map (·.name) = ["A", "B"] := by
  decide

end TypeDescriptor

end Interception
