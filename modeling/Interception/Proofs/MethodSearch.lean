import Interception.Proofs.Declared
import Interception.Proofs.Preorder

/-!
# Looking for methods

All methods that an interface offers, laid out in preorder: its own in order, then all that the
interfaces it extends offer, one after another. Looking for a method finds the first that fits
in this order, so a method hides the ones that it inherits, and whatever the first of two
extended interfaces offers, be it from far up, comes before all that the second does.
-/

set_option autoImplicit false

namespace Interception

namespace Interface

/-- The methods of the whole hierarchy, in preorder. -/
def offered (i : Interface) : List Method :=
  i.hierarchy.flatMap (·.methods)

theorem offered_eq (i : Interface) : i.offered = i.methods ++ i.supers.flatMap offered := by
  rw [offered, hierarchy_eq, List.flatMap_cons, hierarchies_eq_flatMap, List.flatMap_assoc]
  rfl

theorem mem_offered_iff {i : Interface} {m : Method} :
    m ∈ i.offered ↔ ∃ j, Reaches i j ∧ m ∈ j.methods := by
  simp only [offered, List.mem_flatMap, mem_hierarchy_iff]

section

variable {name : String} {params : List String} {i : Interface}

theorem findMethod?_eq_find?_offered :
    i.findMethod? name params = i.offered.find? (·.fits name params) :=
  findMethod?_eq_find? name params i

theorem findMethod?_eq_some_iff {m : Method} :
    i.findMethod? name params = some m ↔
      (m.name = name ∧ m.params = params) ∧
      ∃ earlier later, i.offered = earlier ++ m :: later ∧
        ∀ k ∈ earlier, ¬(k.name = name ∧ k.params = params) := by
  rw [findMethod?_eq_find?_offered, List.find?_eq_some_iff_append, Method.fits_iff]
  simp only [← Method.fits_iff, Bool.not_eq_true', Bool.not_eq_true]

/-- No method of a list is the one looked for. -/
theorem find?_fits_eq_none_iff {methods : List Method} :
    methods.find? (·.fits name params) = none ↔
      ∀ m ∈ methods, ¬(m.name = name ∧ m.params = params) := by
  simp only [List.find?_eq_none, Method.fits_iff]

/-- What an interface declares itself hides whatever it inherits. -/
theorem findMethod?_of_own (own : ∃ m ∈ i.methods, m.name = name ∧ m.params = params) :
    i.findMethod? name params = i.methods.find? (·.fits name params) := by
  obtain ⟨m, listed, fits⟩ := own
  have present : (i.methods.find? (·.fits name params)).isSome := by
    rw [List.find?_isSome]
    exact ⟨m, listed, Method.fits_iff.mpr fits⟩
  obtain ⟨first, found⟩ := Option.isSome_iff_exists.mp present
  rw [findMethod?_eq_find?_offered, offered_eq, List.find?_append, found, Option.some_or]

/-- Of the interfaces that are extended, the first that offers a fitting method decides, however
far up it has this method from. -/
theorem findMethod?_of_super {before after : List Interface} {j : Interface}
    (order : i.supers = before ++ j :: after)
    (own : ∀ m ∈ i.methods, ¬(m.name = name ∧ m.params = params))
    (earlier : ∀ k ∈ before, k.findMethod? name params = none)
    (offers : ∃ m, j.findMethod? name params = some m) :
    i.findMethod? name params = j.findMethod? name params := by
  obtain ⟨m, found⟩ := offers
  have notOwn := find?_fits_eq_none_iff.mpr own
  have notEarlier : (before.flatMap offered).find? (·.fits name params) = none := by
    rw [find?_fits_eq_none_iff]
    intro m listed
    obtain ⟨k, inside, offered⟩ := List.mem_flatMap.mp listed
    have nothing := earlier k inside
    rw [findMethod?_eq_find?_offered] at nothing
    exact find?_fits_eq_none_iff.mp nothing m offered
  rw [found, findMethod?_eq_find?_offered, offered_eq, order, List.flatMap_append,
    List.flatMap_cons]
  rw [findMethod?_eq_find?_offered] at found
  simp only [List.find?_append, notOwn, notEarlier, found, Option.none_or, Option.some_or]

/-- Where methods name the interface that lists them, a method that is found is declared by what
the interface is or extends. -/
theorem isOrExtends_of_findMethod? {m : Method} (named : MethodsNamed [i])
    (found : i.findMethod? name params = some m) : i.isOrExtends m.interface = true := by
  obtain ⟨⟨j, reached, listed⟩, _⟩ := listed_of_findMethod? found
  have own : m.interface = j.name := named j ⟨i, List.mem_cons_self, reached⟩ m listed
  exact isOrExtends_iff.mpr ⟨j, reached, own.symm⟩

end

/-- Looking for a method goes through all that is reached in preorder and takes the first that
fits. It finds one if there is any; one that an interface declares itself hides what it
inherits, and what an earlier interface of those extended offers hides what a later one does.
Extending is being above, at any depth, and is kept along the way up; a method is found on what
declares it, if methods name the interface that lists them. -/
theorem findMethod?_takes_first (i : Interface) :
    i.offered = i.methods ++ i.supers.flatMap offered ∧
    (∀ m, m ∈ i.offered ↔ ∃ j, Reaches i j ∧ m ∈ j.methods) ∧
    (∀ name params,
      ((∃ m, i.findMethod? name params = some m) ↔
        ∃ j, Reaches i j ∧ ∃ m ∈ j.methods, m.name = name ∧ m.params = params) ∧
      (∀ m, i.findMethod? name params = some m ↔
        (m.name = name ∧ m.params = params) ∧
        ∃ earlier later, i.offered = earlier ++ m :: later ∧
          ∀ k ∈ earlier, ¬(k.name = name ∧ k.params = params)) ∧
      ((∃ m ∈ i.methods, m.name = name ∧ m.params = params) →
        i.findMethod? name params = i.methods.find? (·.fits name params)) ∧
      (∀ before j after, i.supers = before ++ j :: after →
        (∀ m ∈ i.methods, ¬(m.name = name ∧ m.params = params)) →
        (∀ k ∈ before, k.findMethod? name params = none) →
        (∃ l, Reaches j l ∧ ∃ m ∈ l.methods, m.name = name ∧ m.params = params) →
        i.findMethod? name params = j.findMethod? name params)) ∧
    (∀ name, i.isOrExtends name = true ↔ ∃ j, Reaches i j ∧ j.name = name) ∧
    (∀ j name, Reaches i j → j.isOrExtends name = true → i.isOrExtends name = true) ∧
    (MethodsNamed [i] → ∀ name params m, i.findMethod? name params = some m →
      i.isOrExtends m.interface = true) := by
  refine ⟨offered_eq i, fun m => mem_offered_iff, ?_, fun name => isOrExtends_iff, ?_, ?_⟩
  · intro name params
    refine ⟨exists_findMethod?_iff, fun m => findMethod?_eq_some_iff, findMethod?_of_own, ?_⟩
    intro before j after order own earlier offers
    exact findMethod?_of_super order own earlier (exists_findMethod?_iff.mpr offers)
  · exact fun j name => isOrExtends_of_reaches
  · exact fun named name params m => isOrExtends_of_findMethod? named

/-- The method that is found comes from what the first interface extends, although the second
declares one itself. On the second alone its own method hides the inherited one. -/
theorem findMethod?_takes_first_diamond :
    let base : Interface := ⟨"Base", [⟨"Base", "close", []⟩], []⟩
    let left : Interface := ⟨"Left", [], [base]⟩
    let right : Interface := ⟨"Right", [⟨"Right", "close", []⟩], [base]⟩
    let both : Interface := ⟨"Both", [⟨"Both", "open", []⟩], [left, right]⟩
    both.findMethod? "close" [] = left.findMethod? "close" [] ∧
      left.findMethod? "close" [] = some ⟨"Base", "close", []⟩ ∧
      right.findMethod? "close" [] = some ⟨"Right", "close", []⟩ ∧
      both.isOrExtends "Base" = true := by
  intro base left right both
  have offers : ∃ l, Reaches left l ∧ ∃ m ∈ l.methods, m.name = "close" ∧ m.params = [] :=
    ⟨base, .step List.mem_cons_self (.refl base), _, List.mem_cons_self, rfl, rfl⟩
  have named : MethodsNamed [both] := by
    rintro j ⟨root, inside, reached⟩
    rw [List.mem_singleton.mp inside, ← mem_hierarchy_iff] at reached
    change j ∈ [both, left, base, right, base] at reached
    simp only [List.mem_cons, List.not_mem_nil, or_false] at reached
    rcases reached with rfl | rfl | rfl | rfl | rfl <;> decide
  obtain ⟨_, _, search, _, _, declared⟩ := findMethod?_takes_first both
  obtain ⟨_, _, ofLeft, _⟩ := findMethod?_takes_first left
  obtain ⟨_, _, ofRight, _⟩ := findMethod?_takes_first right
  have first : both.findMethod? "close" [] = left.findMethod? "close" [] :=
    (search "close" []).2.2.2 [] left [right] rfl (by decide) (by simp) offers
  have found : left.findMethod? "close" [] = some ⟨"Base", "close", []⟩ :=
    ((ofLeft "close" []).2.1 _).mpr ⟨⟨rfl, rfl⟩, [], [], rfl, by simp⟩
  refine ⟨first, found, ?_, declared named _ _ _ (first.trans found)⟩
  exact (ofRight "close" []).2.2.1 ⟨_, List.mem_cons_self, rfl, rfl⟩

end Interface

end Interception
