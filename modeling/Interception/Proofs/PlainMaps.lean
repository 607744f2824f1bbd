import Interception.Proofs.Origins

/-!
# Maps of plugins and the eager flag

A document that has nothing but the two fields of a configuration, neither of which is a table,
is laid over what is there field by field, and each field is taken whole. So a table that such
documents were merged into holds for each field what the last document says that has it at all,
and a configuration is decoded from it field by field.
-/

set_option autoImplicit false

namespace Interception

theorem Entries.update_const {α : Type} (key : String) (initial value : α)
    (entries : Entries α) :
    update key initial (fun _ => value) entries = update key value (fun _ => value) entries := by
  induction entries with
  | nil => rfl
  | cons entry rest ih => simp only [update, ih]

namespace Table

variable {α : Type}

/-- Where the new value does not depend on the old one, it does not matter what is filled in. -/
theorem update_const (key : String) (initial value : α) (t : Table α) :
    t.update key initial (fun _ => value) = t.set key value := by
  refine ext_entries ?_
  rw [set, entries_update, entries_update]
  exact Entries.update_const key initial value t.entries

theorem get?_setAll {entries : Entries α} (distinct : entries.names.Nodup) (t : Table α)
    (key : String) : (t.setAll entries).get? key = (entries.lookup key).or (t.get? key) := by
  induction entries generalizing t with
  | nil => rfl
  | cons head rest ih =>
    rw [Entries.names, List.map_cons, List.nodup_cons] at distinct
    rw [setAll, List.foldl_cons]
    refine (ih distinct.2 _).trans ?_
    rw [get?_set, Entries.lookup_entry]
    by_cases here : key = head.1
    · subst here
      simp [Entries.lookup_eq_none_iff.mpr distinct.1]
    · simp [here]

end Table

open Yaml

namespace Settings

mutual

/-- No number in it is written as infinite or as no number, which is refused wherever it
stands in what is read. -/
def readable : Node → Bool
  | .real s => (Number.Binary64.read? s).isSome
  | .sequence items => readableAll items
  | .mapping pairs => readablePairs pairs
  | _ => true

def readableAll : List Node → Bool
  | [] => true
  | n :: rest => readable n && readableAll rest

def readablePairs : List (Node × Node) → Bool
  | [] => true
  | (key, value) :: rest =>
    ((fieldName? key).isNone || readable value) && readablePairs rest

end

mutual

theorem isOk_ofNode (origin : Option String) (n : Node) :
    (ofNode origin n).isOk = readable n := by
  match n with
  | .null => rfl
  | .invalid => rfl
  | .boolean b => rfl
  | .integer i => rfl
  | .text s => rfl
  | .real s =>
    simp only [ofNode, readable]
    cases Number.Binary64.read? s <;> rfl
  | .sequence items =>
    have read := isOk_ofNodes origin items
    simp only [ofNode, readable, ← read]
    cases ofNodes origin items <;> rfl
  | .mapping pairs =>
    have read := isOk_ofPairs origin ∅ pairs
    simp only [ofNode, readable, ← read]
    cases ofPairs origin ∅ pairs <;> rfl

theorem isOk_ofNodes (origin : Option String) (ns : List Node) :
    (ofNodes origin ns).isOk = readableAll ns := by
  match ns with
  | [] => rfl
  | n :: rest =>
    simp only [ofNodes, readableAll, ← isOk_ofNode origin n, ← isOk_ofNodes origin rest]
    cases ofNode origin n with
    | error e => rfl
    | ok s => cases ofNodes origin rest <;> rfl

theorem isOk_ofPairs (origin : Option String) (fields : Table Setting)
    (pairs : List (Node × Node)) :
    (ofPairs origin fields pairs).isOk = readablePairs pairs := by
  match pairs with
  | [] => rfl
  | (key, value) :: rest =>
    simp only [ofPairs, readablePairs]
    cases fieldName? key with
    | none => exact isOk_ofPairs origin fields rest
    | some name =>
      rw [← isOk_ofNode origin value]
      cases ofNode origin value with
      | error e => rfl
      | ok s => exact isOk_ofPairs origin (fields.set name s) rest

end

/-- What is read of a node is a list for a sequence, a table for a map and else a scalar. -/
theorem ofNode_cases {origin : Option String} {n : Node} {s : Setting}
    (read : ofNode origin n = .ok s) :
    (∃ scalar, s = .scalar origin scalar) ∨
    (∃ items settings, n = .sequence items ∧ ofNodes origin items = .ok settings ∧
      s = .list origin settings) ∨
    ∃ pairs fields, n = .mapping pairs ∧ ofPairs origin ∅ pairs = .ok fields ∧
      s = .table origin fields := by
  cases n with
  | sequence items =>
    obtain ⟨settings, listed, same⟩ := map_eq_ok_iff.mp read
    exact .inr (.inl ⟨items, settings, rfl, listed, same.symm⟩)
  | mapping pairs =>
    obtain ⟨fields, made, same⟩ := map_eq_ok_iff.mp read
    exact .inr (.inr ⟨pairs, fields, rfl, made, same.symm⟩)
  | real s =>
    simp only [ofNode] at read
    split at read
    · exact .inl ⟨_, (Except.ok.inj read).symm⟩
    · cases read
  | null => exact .inl ⟨_, (Except.ok.inj read).symm⟩
  | invalid => exact .inl ⟨_, (Except.ok.inj read).symm⟩
  | boolean b => exact .inl ⟨_, (Except.ok.inj read).symm⟩
  | integer i => exact .inl ⟨_, (Except.ok.inj read).symm⟩
  | text s => exact .inl ⟨_, (Except.ok.inj read).symm⟩

def isMapping : Node → Bool
  | .mapping _ => true
  | _ => false

theorem ne_table_of_ofNode {origin : Option String} {n : Node} {s : Setting}
    (read : ofNode origin n = .ok s) (scalar : isMapping n = false) (origin' : Option String)
    (fields : Table Setting) : s ≠ .table origin' fields := by
  rintro rfl
  rcases ofNode_cases read with ⟨_, same⟩ | ⟨_, _, _, _, same⟩ | ⟨pairs, _, rfl, _, _⟩
  · cases same
  · cases same
  · cases scalar

end Settings

open Settings

namespace Configuration

def fieldNames : List String := ["plugins", "eager_validation"]

/-- A map that has nothing but the fields of a configuration, none of which is a map. -/
def Plain (pairs : List (Node × Node)) : Prop :=
  ∀ pair ∈ pairs, (∃ field ∈ fieldNames, pair.1 = .text field) ∧ isMapping pair.2 = false

instance (pairs : List (Node × Node)) : Decidable (Plain pairs) :=
  inferInstanceAs (Decidable (∀ pair ∈ pairs, _ ∧ _))

/-- What a map binds a field to, by the last of its pairs that does. -/
def boundTo? (field : String) (pairs : List (Node × Node)) : Option Node :=
  (pairs.reverse.find? fun pair => fieldName? pair.1 == some field).map Prod.snd

theorem boundTo?_append (field : String) (lower upper : List (Node × Node)) :
    boundTo? field (lower ++ upper) = (boundTo? field upper).or (boundTo? field lower) := by
  rw [boundTo?, List.reverse_append, List.find?_append, Option.map_or]
  rfl

theorem boundTo?_singleton (name field : String) (value : Node) :
    boundTo? name [(.text field, value)] = if name = field then some value else none := by
  by_cases same : name = field
  · simp [boundTo?, fieldName?, same]
  · simp [boundTo?, fieldName?, same, Ne.symm same]

theorem Plain.of_boundTo? {pairs : List (Node × Node)} (plain : Plain pairs) {field : String}
    {n : Node} (bound : boundTo? field pairs = some n) :
    field ∈ fieldNames ∧ isMapping n = false := by
  obtain ⟨pair, found, rfl⟩ := Option.map_eq_some_iff.mp bound
  obtain ⟨⟨name, listed, key⟩, scalar⟩ :=
    plain pair (List.mem_reverse.mp (List.mem_of_find?_eq_some found))
  have same := List.find?_some found
  simp only [key, fieldName?, beq_iff_eq, Option.some.injEq] at same
  exact ⟨same ▸ listed, scalar⟩

/-- The table has for each field what the map, a plain one, binds it to. -/
structure Mirrors (t : Table Setting) (pairs : List (Node × Node)) : Prop where
  plain : Plain pairs
  bound : ∀ name, (t.get? name).map Except.ok = (boundTo? name pairs).map (ofNode none)

theorem mirrors_empty : Mirrors ∅ [] where
  plain _ inside := nomatch inside
  bound _ := rfl

section

variable {t : Table Setting} {lower upper pairs : List (Node × Node)}

theorem Mirrors.exists_node (mirrors : Mirrors t pairs) {name : String} {s : Setting}
    (found : t.get? name = some s) : ∃ n, boundTo? name pairs = some n ∧ ofNode none n = .ok s := by
  have bound := mirrors.bound name
  rw [found, Option.map_some, eq_comm, Option.map_eq_some_iff] at bound
  exact bound

/-- Fields of plain maps are no tables. -/
theorem Mirrors.flat (mirrors : Mirrors t pairs) {field : String × Setting}
    (inside : field ∈ t.entries) :
    field.1 ∈ fieldNames ∧ ∀ origin inner, field.2 ≠ .table origin inner := by
  obtain ⟨n, bound, read⟩ :=
    mirrors.exists_node (Entries.lookup_of_mem t.nodup_entries inside)
  obtain ⟨listed, scalar⟩ := mirrors.plain.of_boundTo? bound
  exact ⟨listed, ne_table_of_ofNode read scalar⟩

/-! ## Reading -/

theorem Mirrors.set (mirrors : Mirrors t lower) {field : String} (listed : field ∈ fieldNames)
    {value : Node} (scalar : isMapping value = false) {s : Setting}
    (read : ofNode none value = .ok s) :
    Mirrors (t.set field s) (lower ++ [(.text field, value)]) where
  plain := by
    refine List.forall_mem_append.mpr ⟨mirrors.plain, ?_⟩
    rw [List.forall_mem_singleton]
    exact ⟨⟨field, listed, rfl⟩, scalar⟩
  bound name := by
    rw [Table.get?_set, boundTo?_append, boundTo?_singleton]
    by_cases same : name = field
    · simp [same, read]
    · simpa [same] using mirrors.bound name

theorem Mirrors.exists_ofPairs (mirrors : Mirrors t lower) (plain : Plain pairs)
    (clear : readablePairs pairs) :
    ∃ t', ofPairs none t pairs = .ok t' ∧ Mirrors t' (lower ++ pairs) := by
  induction pairs generalizing t lower with
  | nil => exact ⟨t, rfl, by rwa [List.append_nil]⟩
  | cons pair rest ih =>
    obtain ⟨key, value⟩ := pair
    obtain ⟨⟨field, listed, rfl⟩, scalar⟩ := plain (key, value) List.mem_cons_self
    simp only [readablePairs, fieldName?, Option.isNone_some, Bool.false_or,
      Bool.and_eq_true] at clear
    cases read : ofNode none value with
    | error e =>
      have ok := isOk_ofNode none value
      rw [read, clear.1] at ok
      cases ok
    | ok s =>
      obtain ⟨t', made, mirrors'⟩ := ih (mirrors.set listed scalar read)
        (fun pair inside => plain pair (List.mem_cons_of_mem _ inside)) clear.2
      refine ⟨t', ?_, by rwa [List.append_cons]⟩
      simp only [ofPairs, fieldName?, read]
      exact made

/-! ## Merging -/

/-- A plain field replaces what is there as a whole. -/
theorem put_plain {field : String} (listed : field ∈ fieldNames) {s : Setting}
    (flat : ∀ origin inner, s ≠ .table origin inner) (t : Table Setting) :
    Setting.put s (.ofKey field) (.table none t) = .table none (t.set field s) := by
  have path : ∀ field ∈ fieldNames, Path.ofKey field = [.name field] := by decide +kernel
  have small : ∀ field ∈ fieldNames, Text.lower field = field := by decide +kernel
  have replaced := congrArg (Setting.table none) (Table.update_const field Setting.nil s t)
  rw [path field listed, Setting.put]
  cases s with
  | table origin inner => exact absurd rfl (flat origin inner)
  | scalar origin s =>
    rw [Setting.assign, small field listed]
    exact replaced
  | list origin items =>
    rw [Setting.assign, small field listed]
    exact replaced

theorem overlay_plain {source : Fields}
    (flat : ∀ field ∈ source,
      field.1 ∈ fieldNames ∧ ∀ origin inner, field.2 ≠ .table origin inner)
    (t : Table Setting) :
    (Setting.table none t).overlay source = .table none (t.setAll source) := by
  induction source generalizing t with
  | nil => rfl
  | cons field rest ih =>
    rw [List.forall_mem_cons] at flat
    rw [Setting.overlay, List.foldl_cons, put_plain flat.1.1 flat.1.2]
    exact ih flat.2 _

theorem Mirrors.overlay {source : Table Setting} (mirrors : Mirrors t lower)
    (mirrors' : Mirrors source upper) :
    ∃ t', (Setting.table none t).overlay source.entries = .table none t' ∧
      Mirrors t' (lower ++ upper) := by
  refine ⟨_, overlay_plain (fun field inside => mirrors'.flat inside) t, ?_, ?_⟩
  · exact List.forall_mem_append.mpr ⟨mirrors.plain, mirrors'.plain⟩
  · intro name
    rw [Table.get?_setAll source.nodup_entries, boundTo?_append, Option.map_or, Option.map_or,
      mirrors.bound, ← mirrors'.bound]
    rfl

end

/-- The fields of a map, as they are read from a document that is this map. -/
def readMap (origin : Option String) (pairs : List (Node × Node)) : Except ConfigError Fields :=
  ((ofPairs origin ∅ pairs).map Table.entries).mapError (.document · origin)

theorem readDocument_of_mapping (origin : Option String) {text : String}
    {pairs : List (Node × Node)} (document : documents text = .ok [.mapping pairs]) :
    readDocument origin text = readMap origin pairs := by
  have fields : fieldsOfDocuments origin [.mapping pairs] =
      (ofPairs origin ∅ pairs).map Table.entries := by
    change (ofNode origin (.mapping pairs)).bind rootFields = _
    rw [ofNode]
    cases ofPairs origin ∅ pairs <;> rfl
  rw [readDocument, document, readMap, ← fields]

theorem isOk_readMap (origin : Option String) (pairs : List (Node × Node)) :
    (readMap origin pairs).isOk = readablePairs pairs := by
  rw [← isOk_ofPairs origin ∅, readMap]
  cases ofPairs origin ∅ pairs <;> rfl

/-- If all of them were read, each of them can be. -/
theorem isOk_of_mapM {maps : List (List (Node × Node))} {sources : List Fields}
    (read : maps.mapM (readMap none) = .ok sources) : ∀ m ∈ maps, (readMap none m).isOk := by
  induction maps generalizing sources with
  | nil => exact fun m inside => nomatch inside
  | cons m rest ih =>
    rw [List.mapM_cons] at read
    obtain ⟨source, first, read⟩ := exists_of_bind_eq_ok read
    obtain ⟨sources, more, _⟩ := exists_of_bind_eq_ok read
    rw [List.forall_mem_cons, first]
    exact ⟨rfl, ih more⟩

theorem exists_readMap {pairs : List (Node × Node)} (plain : Plain pairs)
    (clear : readablePairs pairs) :
    ∃ source, readMap none pairs = .ok source.entries ∧ Mirrors source pairs := by
  obtain ⟨source, made, mirrors⟩ := mirrors_empty.exists_ofPairs plain clear
  exact ⟨source, by rw [readMap, made]; rfl, mirrors⟩

theorem exists_mapM_readMap {maps : List (List (Node × Node))} (plain : ∀ m ∈ maps, Plain m)
    (clear : ∀ m ∈ maps, readablePairs m) {t : Table Setting} {lower : List (Node × Node)}
    (mirrors : Mirrors t lower) :
    ∃ sources t', maps.mapM (readMap none) = .ok sources ∧
      sources.foldl Setting.overlay (.table none t) = .table none t' ∧
      Mirrors t' (lower ++ maps.flatten) := by
  induction maps generalizing t lower with
  | nil => exact ⟨[], t, rfl, rfl, by simpa using mirrors⟩
  | cons m rest ih =>
    obtain ⟨source, made, mirrors'⟩ :=
      exists_readMap (plain m List.mem_cons_self) (clear m List.mem_cons_self)
    obtain ⟨next, overlaid, mirrors⟩ := mirrors.overlay mirrors'
    obtain ⟨sources, t', more, merged, last⟩ :=
      ih (fun m inside => plain m (List.mem_cons_of_mem _ inside))
        (fun m inside => clear m (List.mem_cons_of_mem _ inside)) mirrors
    refine ⟨source.entries :: sources, t', ?_, ?_, ?_⟩
    · rw [List.mapM_cons, made, more]
      rfl
    · rw [List.foldl_cons, overlaid, merged]
    · rwa [List.flatten_cons, ← List.append_assoc]

/-! ## Decoding -/

section

variable {α : Type}

/-- The value of a field that is not set is its default. -/
def settle (decode : Setting → Except ConfigError α) (default : α) (binding : Option Setting) :
    Option α :=
  binding.elim (some default) fun s => (decode s).toOption

end

theorem foldlM_takeField_eq_ok_iff {fields : Fields} (distinct : fields.names.Nodup)
    (soFar config : Configuration) :
    fields.foldlM takeField soFar = .ok config ↔
      settle decodePlugins soFar.plugins (fields.lookup "plugins") = some config.plugins ∧
      settle decodeFlag soFar.eagerValidation (fields.lookup "eager_validation") =
        some config.eagerValidation := by
  induction fields generalizing soFar with
  | nil =>
    change Except.ok soFar = Except.ok config ↔ some soFar.plugins = some config.plugins ∧
      some soFar.eagerValidation = some config.eagerValidation
    cases soFar
    cases config
    simp
  | cons field rest ih =>
    obtain ⟨key, s⟩ := field
    rw [Entries.names, List.map_cons, List.nodup_cons] at distinct
    rw [List.foldlM_cons, Entries.lookup_entry, Entries.lookup_entry]
    by_cases plugins : key = "plugins"
    · subst plugins
      have missing := Entries.lookup_eq_none_iff.mpr distinct.1
      simp only [takeField, if_true, if_neg (show ¬"eager_validation" = "plugins" by decide)]
      cases decoded : decodePlugins s with
      | error e =>
        constructor <;> intro done
        · cases done
        · simp [settle, decoded, Except.toOption] at done
      | ok plugins =>
        refine (ih distinct.2 _).trans ?_
        simp [settle, decoded, missing, Except.toOption]
    · by_cases flag : key = "eager_validation"
      · subst flag
        have missing := Entries.lookup_eq_none_iff.mpr distinct.1
        simp only [takeField, if_neg plugins, if_neg (Ne.symm plugins), if_true]
        cases decoded : decodeFlag s with
        | error e =>
          constructor <;> intro done
          · cases done
          · simp [settle, decoded, Except.toOption] at done
        | ok flag =>
          refine (ih distinct.2 _).trans ?_
          simp [settle, decoded, missing, Except.toOption]
      · simp only [takeField, if_neg plugins, if_neg flag, if_neg (Ne.symm plugins),
          if_neg (Ne.symm flag)]
        exact ih distinct.2 soFar

section

variable {α : Type}

/-- What a value in a document is decoded to. -/
def decoded? (decode : Setting → Except ConfigError α) (n : Node) : Option α :=
  (ofNode none n).toOption.bind fun s => (decode s).toOption

/-- The value of a field that is bound to this, or to nothing, in which case it is the
default. -/
def settled? (decode : Setting → Except ConfigError α) (default : α) (binding : Option Node) :
    Option α :=
  binding.elim (some default) (decoded? decode)

theorem Mirrors.settle_eq {t : Table Setting} {pairs : List (Node × Node)}
    (mirrors : Mirrors t pairs) (decode : Setting → Except ConfigError α) (default : α)
    (name : String) :
    settle decode default (t.get? name) = settled? decode default (boundTo? name pairs) := by
  cases found : t.get? name with
  | none =>
    have bound := mirrors.bound name
    rw [found, Option.map_none, eq_comm, Option.map_eq_none_iff] at bound
    rw [bound]
    rfl
  | some s =>
    obtain ⟨n, bound, read⟩ := mirrors.exists_node found
    rw [bound, settled?, Option.elim_some, decoded?, read]
    rfl

end

/-- Plain maps laid over each other come to a configuration if they can be read and what each
field is bound to can be decoded. -/
theorem ofMaps_eq_ok_iff {maps : List (List (Node × Node))} (plain : ∀ m ∈ maps, Plain m)
    (config : Configuration) :
    maps.mapM (readMap none) >>= ofSources = .ok config ↔
      (∀ m ∈ maps, readablePairs m) ∧
      settled? decodePlugins [] (boundTo? "plugins" maps.flatten) = some config.plugins ∧
      settled? decodeFlag false (boundTo? "eager_validation" maps.flatten) =
        some config.eagerValidation := by
  by_cases clear : ∀ m ∈ maps, readablePairs m
  · obtain ⟨sources, t, read, merged, mirrors⟩ := exists_mapM_readMap plain clear mirrors_empty
    have decoded : maps.mapM (readMap none) >>= ofSources = t.entries.foldlM takeField {} := by
      rw [read]
      exact congrArg decode merged
    rw [decoded, foldlM_takeField_eq_ok_iff t.nodup_entries]
    change settle decodePlugins [] (t.get? "plugins") = some config.plugins ∧
      settle decodeFlag false (t.get? "eager_validation") = some config.eagerValidation ↔ _
    rw [mirrors.settle_eq, mirrors.settle_eq]
    exact (and_iff_right clear).symm
  · refine ⟨fun loaded => absurd (fun m inside => ?_) clear, fun settled => absurd settled.1 clear⟩
    cases read : maps.mapM (readMap none) with
    | error e =>
      rw [read] at loaded
      cases loaded
    | ok sources =>
      rw [← isOk_readMap none]
      exact isOk_of_mapM read m inside

end Configuration

end Interception
