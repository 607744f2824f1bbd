import Mathlib.Data.List.Nodup
import Interception.Proofs.Hierarchy

/-!
# Hierarchies in which names are unique

The walk that lists the interfaces of a type stops at a name that it has met before.
Where a name stands for one interface only, it has then met this interface, and nothing
is missed: what a type realizes is all that is reached from what it declares.
-/

set_option autoImplicit false

namespace Interception

namespace Interface

/-- `j` is one of `roots` or is extended by one of them, at any depth. -/
def ReachedFrom (roots : List Interface) (j : Interface) : Prop :=
  ∃ i ∈ roots, Reaches i j

theorem ReachedFrom.of_mem {roots : List Interface} {i : Interface} (inside : i ∈ roots) :
    ReachedFrom roots i :=
  ⟨i, inside, .refl i⟩

theorem ReachedFrom.trans {roots : List Interface} {j k : Interface}
    (reached : ReachedFrom roots j) (further : Reaches j k) : ReachedFrom roots k := by
  obtain ⟨i, inside, reached⟩ := reached
  exact ⟨i, inside, reached.trans further⟩

/-- Roots that are themselves reached reach nothing new. -/
theorem ReachedFrom.of_roots {roots others : List Interface} {j : Interface}
    (reached : ReachedFrom others j) (below : ∀ i ∈ others, ReachedFrom roots i) :
    ReachedFrom roots j := by
  obtain ⟨i, inside, further⟩ := reached
  exact (below i inside).trans further

/-- Of the interfaces that are reached from `roots`, no two share a name. -/
def UniqueNames (roots : List Interface) : Prop :=
  ∀ i j, ReachedFrom roots i → ReachedFrom roots j → i.name = j.name → i = j

theorem UniqueNames.of_roots {roots others : List Interface} (unique : UniqueNames roots)
    (below : ∀ i ∈ others, ReachedFrom roots i) : UniqueNames others := by
  intro i j first second named
  exact unique i j (first.of_roots below) (second.of_roots below) named

theorem UniqueNames.left {roots others : List Interface} (unique : UniqueNames (roots ++ others)) :
    UniqueNames roots :=
  unique.of_roots fun _ inside => .of_mem (List.mem_append_left others inside)

theorem uniqueNames_iff {roots : List Interface} :
    UniqueNames roots ↔
      ∀ i ∈ hierarchies roots, ∀ j ∈ hierarchies roots, i.name = j.name → i = j := by
  simp only [UniqueNames, ReachedFrom, mem_hierarchies_iff, mem_hierarchy_iff]
  exact ⟨fun unique i first j => unique i j first, fun unique i j first => unique i first j⟩

/-- A list of differently named interfaces that holds whole hierarchies. -/
theorem uniqueNames_of_subset {roots : List Interface} (all : List Interface)
    (holds : hierarchies roots ⊆ all) (distinct : (all.map (·.name)).Nodup) :
    UniqueNames roots := by
  rw [uniqueNames_iff]
  intro i first j second
  exact List.inj_on_of_nodup_map distinct (holds first) (holds second)

end Interface

namespace TypeDescriptor

open Interface

theorem reachedFrom_of_mem_allInterfaces {d : TypeDescriptor} {j : Interface}
    (listed : j ∈ d.allInterfaces) : ReachedFrom d.declared j :=
  reaches_of_mem_allInterfaces listed

theorem mem_allInterfaces_of_reaches {d : TypeDescriptor} (unique : UniqueNames d.declared)
    {i j : Interface} (listed : i ∈ d.allInterfaces) (reached : Reaches i j) :
    j ∈ d.allInterfaces := by
  induction reached with
  | refl _ => exact listed
  | @step i k _ direct _ ih =>
    obtain ⟨k', listed', named⟩ := lists_supers_of_mem_allInterfaces listed direct
    have above : ReachedFrom d.declared k :=
      (reachedFrom_of_mem_allInterfaces listed).trans (.step direct (.refl k))
    have same : k' = k := unique k' k (reachedFrom_of_mem_allInterfaces listed') above named
    exact ih (same ▸ listed')

theorem mem_allInterfaces_iff {d : TypeDescriptor} (unique : UniqueNames d.declared)
    {j : Interface} : j ∈ d.allInterfaces ↔ ReachedFrom d.declared j := by
  constructor
  · exact reachedFrom_of_mem_allInterfaces
  · rintro ⟨i, declared, reached⟩
    obtain ⟨i', listed, named⟩ := lists_of_mem_declared declared
    have same : i' = i :=
      unique i' i (reachedFrom_of_mem_allInterfaces listed) (.of_mem declared) named
    exact mem_allInterfaces_of_reaches unique (same ▸ listed) reached

theorem realizes_iff_reachedFrom {d : TypeDescriptor} (unique : UniqueNames d.declared)
    {name : String} : d.realizes name = true ↔ ∃ j, ReachedFrom d.declared j ∧ j.name = name := by
  simp only [realizes_iff, mem_allInterfaces_iff unique]

end TypeDescriptor

end Interception
