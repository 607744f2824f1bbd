/-!
# Tables

Values under names, in the order in which the names came up. A name that is set
again keeps its place. In a table no name comes twice; entries may repeat names.
-/

set_option autoImplicit false

namespace Interception

abbrev Entries (α : Type) := List (String × α)

namespace Entries

variable {α β : Type}

def names (entries : Entries α) : List String :=
  entries.map Prod.fst

/-- Changes the value under `key`, which starts as `initial` if there is none. -/
def update (key : String) (initial : α) (f : α → α) : Entries α → Entries α
  | [] => [(key, f initial)]
  | (k, v) :: rest =>
    if k = key then (k, f v) :: rest else (k, v) :: update key initial f rest

/-- An entry in front decides for its own name and for no other. -/
theorem lookup_entry (key other : String) (value : α) (entries : Entries α) :
    List.lookup other ((key, value) :: entries) =
      if other = key then some value else entries.lookup other := by
  by_cases h : other = key
  · rw [List.lookup_cons]
    simp [h]
  · have apart : (other == key) = false := by simpa using h
    rw [List.lookup_cons]
    simp [h, apart]

theorem lookup_update (key other : String) (initial : α) (f : α → α) (entries : Entries α) :
    (update key initial f entries).lookup other =
      if other = key then some (f ((entries.lookup key).getD initial))
      else entries.lookup other := by
  induction entries with
  | nil => simp [update, lookup_entry]
  | cons entry rest ih =>
    obtain ⟨k, v⟩ := entry
    by_cases hk : k = key
    · subst hk
      by_cases h : other = k <;> simp [update, lookup_entry, h]
    · by_cases h : other = key
      · subst h
        have apart : ¬other = k := fun e => hk e.symm
        simp [update, lookup_entry, hk, apart, ih]
      · simp [update, lookup_entry, hk, h, ih]

theorem map_update {f : α → α} {g : α → β} {f' : β → β} (agree : ∀ a, g (f a) = f' (g a))
    (key : String) (initial : α) (entries : Entries α) :
    (update key initial f entries).map (fun entry => (entry.1, g entry.2)) =
      update key (g initial) f' (entries.map fun entry => (entry.1, g entry.2)) := by
  induction entries with
  | nil => simp [update, agree]
  | cons entry rest ih =>
    by_cases here : entry.1 = key
    · simp [update, here, agree]
    · simp [update, here, ih]

theorem lookup_eq_none_iff {key : String} {entries : Entries α} :
    entries.lookup key = none ↔ key ∉ entries.names := by
  induction entries with
  | nil => simp [names]
  | cons entry rest ih =>
    rw [lookup_entry]
    by_cases h : key = entry.1
    · simp [names, h]
    · rw [if_neg h, ih]
      simp [names, h]

theorem mem_names_update {key other : String} {initial : α} {f : α → α} {entries : Entries α}
    (listed : other ∈ (update key initial f entries).names) :
    other = key ∨ other ∈ entries.names := by
  by_cases h : other = key
  · exact .inl h
  · refine .inr ?_
    rw [← Decidable.not_not (p := other ∈ names _), ← lookup_eq_none_iff] at listed ⊢
    rwa [lookup_update, if_neg h] at listed

theorem nodup_update (key : String) (initial : α) (f : α → α) {entries : Entries α}
    (distinct : entries.names.Nodup) : (update key initial f entries).names.Nodup := by
  induction entries with
  | nil => simp [update, names]
  | cons entry rest ih =>
    rw [names, List.map_cons, List.nodup_cons] at distinct
    by_cases here : entry.1 = key
    · rw [update, if_pos here]
      exact List.nodup_cons.mpr distinct
    · rw [update, if_neg here]
      refine List.nodup_cons.mpr ⟨fun again => ?_, ih distinct.2⟩
      exact (mem_names_update again).elim here distinct.1

theorem lookup_of_mem {entries : Entries α} (distinct : entries.names.Nodup)
    {entry : String × α} (inside : entry ∈ entries) : entries.lookup entry.1 = some entry.2 := by
  induction entries with
  | nil => cases inside
  | cons head rest ih =>
    rw [names, List.map_cons, List.nodup_cons] at distinct
    rw [lookup_entry]
    rcases List.mem_cons.mp inside with rfl | inside
    · exact if_pos rfl
    · have apart : entry.1 ≠ head.1 := fun same =>
        distinct.1 (same ▸ List.mem_map_of_mem inside)
      rw [if_neg apart, ih distinct.2 inside]

end Entries

/-- A value for each of some names, all of which are different. -/
structure Table (α : Type) where
  names : List String
  nodup : names.Nodup
  value : {name // name ∈ names} → α

namespace Table

variable {α β : Type}

def entries (t : Table α) : Entries α :=
  t.names.attach.map fun name => (name.1, t.value name)

theorem names_entries (t : Table α) : t.entries.names = t.names := by
  simp [entries, Entries.names, Function.comp_def]

theorem nodup_entries (t : Table α) : t.entries.names.Nodup :=
  t.names_entries.symm ▸ t.nodup

/-- The table of these entries. -/
def ofDistinct (entries : Entries α) (distinct : entries.names.Nodup) : Table α where
  names := entries.names
  nodup := distinct
  value name := (entries.lookup name.1).get <| by
    rw [Option.isSome_iff_ne_none, Ne, Entries.lookup_eq_none_iff, Decidable.not_not]
    exact name.2

@[simp] theorem entries_ofDistinct (entries : Entries α) (distinct : entries.names.Nodup) :
    (ofDistinct entries distinct).entries = entries := by
  refine List.ext_getElem (by simp [Table.entries, ofDistinct, Entries.names]) fun n _ inside => ?_
  have found := Entries.lookup_of_mem distinct (List.getElem_mem inside)
  simp [Table.entries, ofDistinct, Entries.names, found]

theorem ext_entries {t u : Table α} (same : t.entries = u.entries) : t = u := by
  have names : t.names = u.names := by rw [← names_entries, same, names_entries]
  obtain ⟨ns, nodup, value⟩ := t
  obtain ⟨_, _, value'⟩ := u
  cases names
  have values : value = value' := by
    funext name
    have each := List.map_inj_left.mp same name (List.mem_attach _ _)
    exact congrArg Prod.snd each
  rw [values]

theorem entries_inj {t u : Table α} : t.entries = u.entries ↔ t = u :=
  ⟨ext_entries, congrArg entries⟩

instance [DecidableEq α] : DecidableEq (Table α) := fun _ _ =>
  decidable_of_decidable_of_iff entries_inj

instance : EmptyCollection (Table α) := ⟨⟨[], .nil, nofun⟩⟩

instance : Inhabited (Table α) := ⟨∅⟩

def get? (t : Table α) (key : String) : Option α :=
  t.entries.lookup key

/-- Changes the value under `key`, which starts as `initial` if there is none. -/
def update (key : String) (initial : α) (f : α → α) (t : Table α) : Table α :=
  ofDistinct (t.entries.update key initial f) (Entries.nodup_update key initial f t.nodup_entries)

def set (key : String) (value : α) (t : Table α) : Table α :=
  t.update key value fun _ => value

/-- Sets one entry after another, so that the last value given to a name counts. -/
def setAll (t : Table α) (entries : Entries α) : Table α :=
  entries.foldl (fun t entry => t.set entry.1 entry.2) t

def ofEntries (entries : Entries α) : Table α :=
  setAll ∅ entries

def map (f : α → β) (t : Table α) : Table β :=
  ⟨t.names, t.nodup, fun name => f (t.value name)⟩

@[simp] theorem entries_empty : (∅ : Table α).entries = [] := rfl

@[simp] theorem entries_update (key : String) (initial : α) (f : α → α) (t : Table α) :
    (t.update key initial f).entries = t.entries.update key initial f :=
  entries_ofDistinct _ _

theorem entries_map (f : α → β) (t : Table α) :
    (t.map f).entries = t.entries.map fun entry => (entry.1, f entry.2) := by
  simp [entries, map]

theorem map_empty (f : α → β) : (∅ : Table α).map f = ∅ :=
  ext_entries rfl

theorem map_update {f : α → α} {g : α → β} {f' : β → β} (agree : ∀ a, g (f a) = f' (g a))
    (key : String) (initial : α) (t : Table α) :
    (t.update key initial f).map g = (t.map g).update key (g initial) f' := by
  refine ext_entries ?_
  rw [entries_map, entries_update, entries_update, entries_map]
  exact Entries.map_update agree key initial t.entries

theorem map_set (g : α → β) (key : String) (value : α) (t : Table α) :
    (t.set key value).map g = (t.map g).set key (g value) := by
  have agree : ∀ a, g ((fun _ => value) a) = (fun _ => g value) (g a) := fun _ => rfl
  exact map_update agree key value t

@[simp] theorem get?_update (key other : String) (initial : α) (f : α → α) (t : Table α) :
    (t.update key initial f).get? other =
      if other = key then some (f ((t.get? key).getD initial)) else t.get? other := by
  rw [get?, entries_update]
  exact Entries.lookup_update key other initial f t.entries

@[simp] theorem get?_set (key other : String) (value : α) (t : Table α) :
    (t.set key value).get? other = if other = key then some value else t.get? other :=
  get?_update key other value (fun _ => value) t

end Table

end Interception
