import Interception.TypeDescriptor

/-!
# Searches over the interface hierarchy

What the recursions over interfaces find, said with `Reaches`. The walk that lists
the interfaces of a type never leaves what the type declares: a listed interface is
one that some declared interface is or extends. The converse does not hold for each
object, since a name that was seen before stops the walk.
-/

set_option autoImplicit false

namespace Interception

namespace Interface

/-- Induction over the hierarchy above an interface. -/
@[elab_as_elim]
theorem induction_supers {P : Interface → Prop}
    (step : ∀ i : Interface, (∀ j ∈ i.supers, P j) → P i) (i : Interface) : P i := by
  refine @Interface.rec P (fun supers => ∀ j ∈ supers, P j) ?_ ?_ ?_ i
  · intro name methods supers above
    exact step ⟨name, methods, supers⟩ above
  · intro j membership
    cases membership
  · intro head tail atHead inTail j membership
    rcases List.mem_cons.mp membership with rfl | membership
    · exact atHead
    · exact inTail j membership

theorem Reaches.trans {i j k : Interface} (first : Reaches i j) (second : Reaches j k) :
    Reaches i k := by
  induction first with
  | refl _ => exact second
  | step direct _ ih => exact .step direct (ih second)

theorem anyIsOrExtends_eq_any (name : String) (interfaces : List Interface) :
    anyIsOrExtends name interfaces = interfaces.any (isOrExtends name) := by
  induction interfaces with
  | nil => rfl
  | cons i rest ih => simp only [anyIsOrExtends, List.any_cons, ih]

theorem isOrExtends_eq (name : String) (i : Interface) :
    i.isOrExtends name = (i.name == name || i.supers.any (isOrExtends name)) := by
  cases i
  rw [isOrExtends, anyIsOrExtends_eq_any]

theorem isOrExtends_iff {name : String} {i : Interface} :
    i.isOrExtends name = true ↔ ∃ j, Reaches i j ∧ j.name = name := by
  induction i using induction_supers with
  | step i above =>
    rw [isOrExtends_eq, Bool.or_eq_true, beq_iff_eq, List.any_eq_true]
    constructor
    · rintro (own | ⟨j, direct, found⟩)
      · exact ⟨i, .refl i, own⟩
      · obtain ⟨k, reached, named⟩ := (above j direct).mp found
        exact ⟨k, .step direct reached, named⟩
    · rintro ⟨k, reached, named⟩
      cases reached with
      | refl => exact .inl named
      | @step _ j _ direct further =>
        exact .inr ⟨j, direct, (above j direct).mpr ⟨k, further, named⟩⟩

theorem isOrExtends_of_reaches {name : String} {i j : Interface} (reached : Reaches i j)
    (found : j.isOrExtends name = true) : i.isOrExtends name = true := by
  obtain ⟨k, further, named⟩ := isOrExtends_iff.mp found
  exact isOrExtends_iff.mpr ⟨k, reached.trans further, named⟩

theorem hierarchy_eq (i : Interface) : i.hierarchy = i :: hierarchies i.supers := by
  cases i
  rw [hierarchy]

theorem mem_hierarchies_iff {interfaces : List Interface} {j : Interface} :
    j ∈ hierarchies interfaces ↔ ∃ i ∈ interfaces, j ∈ i.hierarchy := by
  induction interfaces with
  | nil => simp [hierarchies]
  | cons i rest ih => simp [hierarchies, ih]

theorem mem_hierarchy_iff {i j : Interface} : j ∈ i.hierarchy ↔ Reaches i j := by
  induction i using induction_supers with
  | step i above =>
    rw [hierarchy_eq, List.mem_cons, mem_hierarchies_iff]
    constructor
    · rintro (rfl | ⟨k, direct, further⟩)
      · exact .refl j
      · exact .step direct ((above k direct).mp further)
    · intro reached
      cases reached with
      | refl => exact .inl rfl
      | @step _ k _ direct further => exact .inr ⟨k, direct, (above k direct).mpr further⟩

theorem findMethod?_eq (name : String) (params : List String) (i : Interface) :
    i.findMethod? name params =
      match i.methods.find? (·.fits name params) with
      | some m => some m
      | none => findMethodAmong? name params i.supers := by
  cases i
  exact findMethod?.eq_1 name params _ _ _

theorem findMethodAmong?_eq_find?_of {name : String} {params : List String}
    {interfaces : List Interface}
    (each : ∀ i ∈ interfaces, i.findMethod? name params =
      (i.hierarchy.flatMap (·.methods)).find? (·.fits name params)) :
    findMethodAmong? name params interfaces =
      ((hierarchies interfaces).flatMap (·.methods)).find? (·.fits name params) := by
  induction interfaces with
  | nil => rfl
  | cons i rest ih =>
    have later := ih fun k inside => each k (List.mem_cons_of_mem i inside)
    rw [findMethodAmong?, hierarchies, List.flatMap_append, List.find?_append,
      ← each i List.mem_cons_self, ← later]
    cases i.findMethod? name params <;> rfl

/-- Looking for a method is going through the methods of the whole hierarchy in its order. -/
theorem findMethod?_eq_find? (name : String) (params : List String) (i : Interface) :
    i.findMethod? name params =
      (i.hierarchy.flatMap (·.methods)).find? (·.fits name params) := by
  induction i using induction_supers with
  | step i above =>
    rw [findMethod?_eq, findMethodAmong?_eq_find?_of above, hierarchy_eq, List.flatMap_cons,
      List.find?_append]
    cases i.methods.find? (·.fits name params) <;> rfl

theorem listed_of_findMethod? {name : String} {params : List String} {i : Interface} {m : Method}
    (found : i.findMethod? name params = some m) :
    (∃ j, Reaches i j ∧ m ∈ j.methods) ∧ m.name = name ∧ m.params = params := by
  rw [findMethod?_eq_find?] at found
  have fits := List.find?_some found
  rw [Method.fits_iff] at fits
  obtain ⟨j, above, listed⟩ := List.mem_flatMap.mp (List.mem_of_find?_eq_some found)
  exact ⟨⟨j, mem_hierarchy_iff.mp above, listed⟩, fits⟩

/-- A method is found exactly if some interface that is reached lists a fitting one. -/
theorem exists_findMethod?_iff {name : String} {params : List String} {i : Interface} :
    (∃ m, i.findMethod? name params = some m) ↔
      ∃ j, Reaches i j ∧ ∃ m ∈ j.methods, m.name = name ∧ m.params = params := by
  constructor
  · rintro ⟨m, found⟩
    obtain ⟨⟨j, reached, listed⟩, fits⟩ := listed_of_findMethod? found
    exact ⟨j, reached, m, listed, fits⟩
  · rintro ⟨j, reached, m, listed, fits⟩
    have inside : m ∈ i.hierarchy.flatMap (·.methods) :=
      List.mem_flatMap.mpr ⟨j, mem_hierarchy_iff.mpr reached, listed⟩
    rw [findMethod?_eq_find?, ← Option.isSome_iff_exists, List.find?_isSome]
    exact ⟨m, inside, Method.fits_iff.mpr fits⟩

theorem visit_eq (seen : List Interface) (i : Interface) :
    visit seen i =
      if seen.any (·.name == i.name) then seen else visitAll (seen ++ [i]) i.supers := by
  cases i
  rw [visit]

/-- A name is listed, be it for the sake of another interface that has it. -/
def Lists (interfaces : List Interface) (name : String) : Prop :=
  ∃ k ∈ interfaces, k.name = name

theorem Lists.mono {fewer more : List Interface} {name : String} (listed : Lists fewer name)
    (subset : fewer ⊆ more) : Lists more name := by
  obtain ⟨k, inside, named⟩ := listed
  exact ⟨k, subset inside, named⟩

theorem any_name_iff {seen : List Interface} {name : String} :
    seen.any (·.name == name) = true ↔ Lists seen name := by
  simp only [List.any_eq_true, beq_iff_eq, Lists]

theorem visitAll_keeps_of {P : List Interface → Prop} {interfaces : List Interface}
    (each : ∀ i ∈ interfaces, ∀ seen, P seen → P (visit seen i)) {seen : List Interface}
    (start : P seen) : P (visitAll seen interfaces) := by
  induction interfaces generalizing seen with
  | nil => exact start
  | cons i rest ih =>
    exact ih (fun k later => each k (List.mem_cons_of_mem i later))
      (each i List.mem_cons_self seen start)

/-- A walk keeps what is kept whenever an interface that is not listed yet is put behind the
others. -/
theorem visit_keeps (P : List Interface → Prop) {i : Interface}
    (add : ∀ k, Reaches i k → ∀ seen, ¬Lists seen k.name → P seen → P (seen ++ [k]))
    {seen : List Interface} (start : P seen) : P (visit seen i) := by
  induction i using induction_supers generalizing seen with
  | step i above =>
    rw [visit_eq]
    split
    · exact start
    · next fresh =>
      rw [any_name_iff] at fresh
      have own : P (seen ++ [i]) := add i (.refl i) seen fresh start
      refine visitAll_keeps_of (fun j direct _ => above j direct ?_) own
      exact fun k reached => add k (.step direct reached)

theorem visitAll_keeps (P : List Interface → Prop) {interfaces : List Interface}
    (add : ∀ i ∈ interfaces, ∀ k, Reaches i k → ∀ seen, ¬Lists seen k.name → P seen →
      P (seen ++ [k]))
    {seen : List Interface} (start : P seen) : P (visitAll seen interfaces) :=
  visitAll_keeps_of (fun i inside _ => visit_keeps P (add i inside)) start

theorem mem_visitAll {interfaces seen : List Interface} {j : Interface}
    (listed : j ∈ visitAll seen interfaces) : j ∈ seen ∨ ∃ i ∈ interfaces, Reaches i j := by
  refine visitAll_keeps (fun l => ∀ j ∈ l, j ∈ seen ∨ ∃ i ∈ interfaces, Reaches i j) ?_
    (fun _ before => .inl before) j listed
  intro i inside k reached _ _ earlier j listed
  rcases List.mem_append.mp listed with before | added
  · exact earlier j before
  · rw [List.mem_singleton.mp added]
    exact .inr ⟨i, inside, reached⟩

theorem nodup_names_visitAll {interfaces seen : List Interface}
    (distinct : (seen.map (·.name)).Nodup) : ((visitAll seen interfaces).map (·.name)).Nodup := by
  refine visitAll_keeps (fun l => (l.map (·.name)).Nodup) ?_ distinct
  intro _ _ k _ found fresh distinct
  rw [List.map_append, List.map_singleton, List.nodup_append]
  refine ⟨distinct, List.pairwise_singleton _ k.name, ?_⟩
  rintro name earlier _ own rfl
  rw [List.mem_singleton.mp own] at earlier
  exact fresh (List.mem_map.mp earlier)

theorem subset_visitAll (seen interfaces : List Interface) : seen ⊆ visitAll seen interfaces :=
  visitAll_keeps (seen ⊆ ·)
    (fun _ _ k _ _ _ before => List.subset_append_of_subset_left [k] before)
    (List.Subset.refl seen)

theorem lists_visit (seen : List Interface) (i : Interface) : Lists (visit seen i) i.name := by
  rw [visit_eq]
  split
  · next known => exact any_name_iff.mp known
  · exact ⟨i, subset_visitAll _ _ (List.mem_append_right seen List.mem_cons_self), rfl⟩

theorem lists_visitAll (seen : List Interface) {interfaces : List Interface} {i : Interface}
    (inside : i ∈ interfaces) : Lists (visitAll seen interfaces) i.name := by
  induction interfaces generalizing seen with
  | nil => cases inside
  | cons k rest ih =>
    rcases List.mem_cons.mp inside with rfl | later
    · exact (lists_visit seen i).mono (subset_visitAll _ rest)
    · exact ih (visit seen k) later

theorem lists_supers_visitAll_of {interfaces : List Interface}
    (complete : ∀ i ∈ interfaces, ∀ seen, ∀ j ∈ visit seen i, j ∈ seen ∨
      ∀ k ∈ j.supers, Lists (visit seen i) k.name)
    {seen : List Interface} {j : Interface} (listed : j ∈ visitAll seen interfaces) :
    j ∈ seen ∨ ∀ k ∈ j.supers, Lists (visitAll seen interfaces) k.name := by
  induction interfaces generalizing seen with
  | nil => exact .inl listed
  | cons i rest ih =>
    rcases ih (fun k later => complete k (List.mem_cons_of_mem i later)) listed with
      earlier | above
    · rcases complete i List.mem_cons_self seen j earlier with before | above
      · exact .inl before
      · exact .inr fun k direct => (above k direct).mono (subset_visitAll _ rest)
    · exact .inr above

/-- What a walk adds comes with the names of everything that it extends directly. The
interfaces behind these names may be others, unless names are unique. -/
theorem lists_supers_visit {i : Interface} (seen : List Interface) (j : Interface)
    (listed : j ∈ visit seen i) : j ∈ seen ∨ ∀ k ∈ j.supers, Lists (visit seen i) k.name := by
  induction i using induction_supers generalizing seen j with
  | step i above =>
    rw [visit_eq] at listed ⊢
    split at listed
    · exact .inl listed
    · next fresh =>
      rw [if_neg fresh]
      rcases lists_supers_visitAll_of above listed with before | complete
      · rcases List.mem_append.mp before with before | own
        · exact .inl before
        · rw [List.mem_singleton] at own
          subst own
          exact .inr fun k direct => lists_visitAll _ direct
      · exact .inr complete

end Interface

namespace TypeDescriptor

/-- Whatever is realized is reached from an interface that some level declares. -/
theorem reaches_of_mem_allInterfaces {d : TypeDescriptor} {j : Interface}
    (listed : j ∈ d.allInterfaces) : ∃ i ∈ d.declared, Interface.Reaches i j := by
  rcases Interface.mem_visitAll listed with impossible | reached
  · cases impossible
  · exact reached

theorem lists_of_mem_declared {d : TypeDescriptor} {i : Interface} (declared : i ∈ d.declared) :
    Interface.Lists d.allInterfaces i.name :=
  Interface.lists_visitAll [] declared

theorem lists_supers_of_mem_allInterfaces {d : TypeDescriptor} {j k : Interface}
    (listed : j ∈ d.allInterfaces) (direct : k ∈ j.supers) :
    Interface.Lists d.allInterfaces k.name := by
  rcases Interface.lists_supers_visitAll_of (fun _ _ => Interface.lists_supers_visit) listed with
    impossible | above
  · cases impossible
  · exact above k direct

theorem realizes_iff {d : TypeDescriptor} {name : String} :
    d.realizes name = true ↔ ∃ j ∈ d.allInterfaces, j.name = name := by
  simp [realizes]

end TypeDescriptor

end Interception
