import Interception.Proofs.Precedence

/-!
# Plugins as they are written

A document lists plugins, each a map of an interceptor and, unless there are none, of its
properties. Reading it gives back these plugins in this order, each with its own name and its own
properties, nothing merged, dropped or added. A plugin without an interceptor spoils the whole
list, whatever the others are.
-/

set_option autoImplicit false

namespace Interception

theorem eq_or_eq_of_perm_pair {α : Type} {l : List α} {a b : α} (perm : l.Perm [a, b]) :
    l = [a, b] ∨ l = [b, a] := by
  obtain ⟨x, y, rfl⟩ := List.length_eq_two.mp perm.length_eq
  rcases List.mem_pair.mp (perm.subset List.mem_cons_self) with rfl | rfl
  · exact .inl (congrArg _ (List.perm_singleton.mp perm.cons_inv))
  · exact .inr (congrArg _ (List.perm_singleton.mp (perm.trans (.swap _ _ _)).cons_inv))

theorem mapM_map_eq_ok {α β ε : Type} {f : β → α} {act : α → Except ε β}
    (each : ∀ b, act (f b) = .ok b) (bs : List β) : (bs.map f).mapM act = .ok bs := by
  induction bs with
  | nil => rfl
  | cons b rest ih =>
    rw [List.map_cons, List.mapM_cons, each, ih]
    rfl

theorem Entries.update_of_not_mem {α : Type} {key : String} {entries : Entries α}
    (missing : key ∉ entries.names) (initial : α) (f : α → α) :
    entries.update key initial f = entries ++ [(key, f initial)] := by
  induction entries with
  | nil => rfl
  | cons entry rest ih =>
    rw [names, List.map_cons, List.mem_cons, not_or] at missing
    rw [update, if_neg (Ne.symm missing.1), ih missing.2, List.cons_append]

namespace Table

variable {α : Type}

theorem mem_names_set {key other : String} {value : α} {t : Table α}
    (listed : other ∈ (t.set key value).names) : other = key ∨ other ∈ t.names := by
  rw [← names_entries, set, entries_update] at listed
  rw [← t.names_entries]
  exact Entries.mem_names_update listed

/-- Entries whose names are new are put behind the others, in their order. -/
theorem entries_setAll {t : Table α} {entries : Entries α}
    (distinct : (t.entries ++ entries).names.Nodup) :
    (t.setAll entries).entries = t.entries ++ entries := by
  induction entries generalizing t with
  | nil => exact (List.append_nil _).symm
  | cons entry rest ih =>
    have missing : entry.1 ∉ t.entries.names := by
      rw [Entries.names, List.map_append, List.map_cons, List.nodup_append] at distinct
      exact fun inside => distinct.2.2 _ inside _ List.mem_cons_self rfl
    have set : (t.set entry.1 entry.2).entries = t.entries ++ [entry] := by
      rw [Table.set, entries_update, Entries.update_of_not_mem missing]
    rw [List.append_cons, ← set] at distinct ⊢
    exact ih distinct

theorem ofEntries_entries (t : Table α) : ofEntries t.entries = t :=
  ext_entries (entries_setAll (t := ∅) t.nodup_entries)

end Table

open Settings Yaml

namespace Settings

/-- An integer is written with digits and a minus. -/
theorem eq_minus_or_isDigit {i : Int} {c : Char} (inside : c ∈ (toString i).toList) :
    c = '-' ∨ c.isDigit = true := by
  cases i with
  | ofNat m =>
    have digits : c ∈ Nat.toDigits 10 m := by
      simpa [toString, Int.repr, Nat.repr] using inside
    exact .inr (Nat.isDigit_of_mem_toDigits (by decide) (by decide) digits)
  | negSucc m =>
    have digits : c = '-' ∨ c ∈ Nat.toDigits 10 (m + 1) := by
      simpa [toString, Int.repr, Nat.repr] using inside
    exact digits.imp_right (Nat.isDigit_of_mem_toDigits (by decide) (by decide))

/-- No number names the interceptor. -/
theorem fieldName?_eq_interceptor_iff {n : Node} :
    fieldName? n = some "interceptor" ↔ n = .text "interceptor" := by
  constructor
  · intro named
    cases n with
    | text s => exact congrArg Node.text (Option.some.inj named)
    | integer i =>
      have same : toString i = "interceptor" := Option.some.inj named
      have inside : 'i' ∈ (toString i).toList := by
        rw [same]
        decide
      rcases eq_minus_or_isDigit inside with impossible | impossible <;> cases impossible
    | _ => cases named
  · rintro rfl
    rfl

theorem ofPairs_cons_text {origin : Option String} {n : Node} {s : Setting}
    (read : ofNode origin n = .ok s) (t : Table Setting) (name : String)
    (rest : List (Node × Node)) :
    ofPairs origin t ((.text name, n) :: rest) = ofPairs origin (t.set name s) rest := by
  rw [ofPairs, fieldName?]
  simp only [read]
  rfl

/-- The names of a table that is read are those of its pairs. -/
theorem exists_named_of_mem_ofPairs {origin : Option String} {t t' : Table Setting}
    {pairs : List (Node × Node)} (read : ofPairs origin t pairs = .ok t') {field : String}
    (listed : field ∈ t'.names) :
    field ∈ t.names ∨ ∃ pair ∈ pairs, fieldName? pair.1 = some field := by
  induction pairs generalizing t with
  | nil =>
    cases read
    exact .inl listed
  | cons pair rest ih =>
    have later : (∃ pair ∈ rest, fieldName? pair.1 = some field) →
        ∃ pair' ∈ pair :: rest, fieldName? pair'.1 = some field :=
      fun ⟨p, among, named⟩ => ⟨p, List.mem_cons_of_mem _ among, named⟩
    rw [ofPairs] at read
    cases named : fieldName? pair.1 with
    | none =>
      rw [named] at read
      exact (ih read).imp_right later
    | some name =>
      rw [named] at read
      obtain ⟨s, _, read⟩ := exists_of_bind_eq_ok read
      rcases ih read with before | among
      · rcases Table.mem_names_set before with rfl | before
        · exact .inr ⟨pair, List.mem_cons_self, named⟩
        · exact .inl before
      · exact .inr (later among)

end Settings

namespace Configuration

/-! ## Properties -/

/-- Properties as pairs of text. -/
def textPairs (entries : Entries String) : List (Node × Node) :=
  entries.map fun entry => (.text entry.1, .text entry.2)

def textFields (p : Properties) : Table Setting :=
  p.table.map fun text => .scalar none (.text text)

theorem ofPairs_textPairs (t : Table Setting) (entries : Entries String) :
    ofPairs none t (textPairs entries) =
      .ok (t.setAll (entries.map fun entry => (entry.1, .scalar none (.text entry.2)))) := by
  induction entries generalizing t with
  | nil => rfl
  | cons entry rest ih => exact ih (t.set entry.1 (.scalar none (.text entry.2)))

theorem ofNode_textPairs (p : Properties) :
    ofNode none (.mapping (textPairs p.entries)) = .ok (.table none (textFields p)) := by
  have all := Table.ofEntries_entries (textFields p)
  rw [textFields, Table.entries_map] at all
  rw [ofNode, ofPairs_textPairs]
  exact congrArg (fun t => Except.ok (Setting.table none t)) all

theorem decodeProperties_textFields (p : Properties) :
    decodeProperties (.table none (textFields p)) = .ok p := by
  rw [decodeProperties, textFields, Table.entries_map, mapM_map_eq_ok]
  · exact congrArg (fun t => Except.ok (Properties.mk t)) p.table.ofEntries_entries
  · exact fun _ => rfl

/-! ## Plugins -/

/-- The node is a map that writes this plugin: its interceptor and, unless there are none, its
properties, in either order. -/
inductive Writes : Node → PluginSetting → Prop
  | bare (name : String) :
      Writes (.mapping [(.text "interceptor", .text name)]) { interceptor := name }
  | full {fields : List (Node × Node)} (plugin : PluginSetting)
      (order : fields.Perm [(.text "interceptor", .text plugin.interceptor),
        (.text "properties", .mapping (textPairs plugin.properties.entries))]) :
      Writes (.mapping fields) plugin

theorem decoded?_eq_some_iff {α : Type} {decode : Setting → Except ConfigError α} {n : Node}
    {a : α} : decoded? decode n = some a ↔ ∃ s, ofNode none n = .ok s ∧ decode s = .ok a := by
  simp only [decoded?, Option.bind_eq_some_iff, toOption_eq_some_iff]

section

variable {s : Setting} {properties : Properties} {soFar : PluginFields}

theorem takePluginField_interceptor (origin : Option String) (name : String) :
    takePluginField soFar ("interceptor", .scalar origin (.text name)) =
      .ok { soFar with interceptor := some name } := rfl

theorem takePluginField_properties (made : decodeProperties s = .ok properties) :
    takePluginField soFar ("properties", s) = .ok { soFar with properties } := by
  simp only [takePluginField, made]
  rfl

theorem decodePlugin_table {origin : Option String} {fields : Table Setting} {name : String}
    (read : fields.entries.foldlM takePluginField {} = .ok ⟨some name, properties⟩) :
    decodePlugin (.table origin fields) = .ok ⟨name, properties⟩ := by
  rw [decodePlugin, read]
  rfl

end

theorem decoded?_of_writes {n : Node} {plugin : PluginSetting} (written : Writes n plugin) :
    decoded? decodePlugin n = some plugin := by
  cases written with
  | bare name => rfl
  | full _ order =>
    have read := ofNode_textPairs plugin.properties
    have made := decodeProperties_textFields plugin.properties
    rw [decoded?_eq_some_iff]
    rcases eq_or_eq_of_perm_pair order with rfl | rfl
    · refine ⟨.table none
        ((Table.set "interceptor" (.scalar none (.text plugin.interceptor)) ∅).set
          "properties" (.table none (textFields plugin.properties))), ?_, decodePlugin_table ?_⟩
      · rw [ofNode, ofPairs_cons_text rfl, ofPairs_cons_text read]
        rfl
      · simp only [Table.set, Table.entries_update, Table.entries_empty, Entries.update,
          String.reduceEq, if_false, List.foldlM_cons, takePluginField_interceptor,
          takePluginField_properties made]
        rfl
    · refine ⟨.table none
        ((Table.set "properties" (.table none (textFields plugin.properties)) ∅).set
          "interceptor" (.scalar none (.text plugin.interceptor))), ?_, decodePlugin_table ?_⟩
      · rw [ofNode, ofPairs_cons_text read, ofPairs_cons_text rfl]
        rfl
      · simp only [Table.set, Table.entries_update, Table.entries_empty, Entries.update,
          String.reduceEq, if_false, List.foldlM_cons, takePluginField_properties made]
        rfl

/-! ## Plugins without an interceptor -/

theorem interceptor_of_takePluginField {soFar next : PluginFields} {field : String × Setting}
    (other : field.1 ≠ "interceptor") (taken : takePluginField soFar field = .ok next) :
    next.interceptor = soFar.interceptor := by
  rw [takePluginField, if_neg other] at taken
  split at taken
  · rw [mapError_eq_ok_iff, map_eq_ok_iff] at taken
    obtain ⟨properties, _, rfl⟩ := taken
    rfl
  · cases taken
    rfl

theorem interceptor_of_foldlM {fields : Fields} (others : ∀ field ∈ fields, field.1 ≠ "interceptor")
    {soFar read : PluginFields} (folded : fields.foldlM takePluginField soFar = .ok read) :
    read.interceptor = soFar.interceptor := by
  induction fields generalizing soFar with
  | nil =>
    cases folded
    rfl
  | cons field rest ih =>
    rw [List.forall_mem_cons] at others
    rw [List.foldlM_cons] at folded
    obtain ⟨next, taken, folded⟩ := exists_of_bind_eq_ok folded
    exact (ih others.2 folded).trans (interceptor_of_takePluginField others.1 taken)

theorem decoded?_of_unnamed {fields : List (Node × Node)}
    (unnamed : ∀ pair ∈ fields, pair.1 ≠ .text "interceptor") :
    decoded? decodePlugin (.mapping fields) = none := by
  rw [Option.eq_none_iff_forall_ne_some]
  intro plugin decoded
  obtain ⟨s, read, made⟩ := decoded?_eq_some_iff.mp decoded
  rw [ofNode] at read
  obtain ⟨t, listed, rfl⟩ := map_eq_ok_iff.mp read
  have others : ∀ field ∈ t.entries, field.1 ≠ "interceptor" := by
    intro field inside same
    have among : field.1 ∈ t.names := t.names_entries ▸ List.mem_map_of_mem inside
    rcases exists_named_of_mem_ofPairs listed among with impossible | ⟨pair, among, named⟩
    · cases impossible
    · rw [same, fieldName?_eq_interceptor_iff] at named
      exact unnamed pair among named
  rw [decodePlugin] at made
  obtain ⟨taken, folded, made⟩ := exists_of_bind_eq_ok made
  rw [interceptor_of_foldlM others folded] at made
  cases made

/-! ## Documents -/

theorem exists_decodeItems_of_forall₂ {items : List Node} {plugins : List PluginSetting}
    (each : List.Forall₂ (fun item plugin => decoded? decodePlugin item = some plugin) items
      plugins) :
    ∃ settings, ofNodes none items = .ok settings ∧
      ∀ index, decodeItems index settings = .ok plugins := by
  induction each with
  | nil => exact ⟨[], rfl, fun _ => rfl⟩
  | cons decoded _ ih =>
    obtain ⟨s, read, made⟩ := decoded?_eq_some_iff.mp decoded
    obtain ⟨settings, listed, others⟩ := ih
    refine ⟨s :: settings, ?_, fun index => ?_⟩
    · rw [ofNodes, read, listed]
      rfl
    · rw [decodeItems, made, others]
      rfl

/-- The plugins of a sequence are those of its items, one for each. -/
theorem decoded?_sequence_iff {items : List Node} {plugins : List PluginSetting} :
    decoded? decodePlugins (.sequence items) = some plugins ↔
      List.Forall₂ (fun item plugin => decoded? decodePlugin item = some plugin) items
        plugins := by
  constructor
  · intro decoded
    obtain ⟨items', same, each⟩ := forall₂_of_decoded? decoded
    cases same
    exact each
  · intro each
    obtain ⟨settings, listed, made⟩ := exists_decodeItems_of_forall₂ each
    rw [decoded?_eq_some_iff]
    refine ⟨.list none settings, ?_, made 0⟩
    rw [ofNode, listed]
    rfl

/-- The map has a list of plugins and the eager flag, each of which may be left out, in either
order. -/
def Holds (pairs : List (Node × Node)) (items : Option (List Node)) (eager : Option Bool) :
    Prop :=
  pairs.Perm ((items.map fun l => (.text "plugins", .sequence l)).toList ++
    (eager.map fun b => (.text "eager_validation", .boolean b)).toList)

theorem ofText_of_mapping {text : String} {pairs : List (Node × Node)}
    (document : documents text = .ok [.mapping pairs]) :
    ofText text = [pairs].mapM (readMap none) >>= ofSources := by
  rw [ofText, readDocument_of_mapping none document, List.mapM_cons]
  cases readMap none pairs <;> rfl

section

variable {pairs : List (Node × Node)} {items : Option (List Node)} {eager : Option Bool}

theorem eq_or_eq_of_perm_toList {α : Type} {l : List α} {o p : Option α}
    (perm : l.Perm (o.toList ++ p.toList)) :
    l = o.toList ++ p.toList ∨ l = p.toList ++ o.toList := by
  cases o with
  | none => exact .inl (by cases p <;> simpa using perm)
  | some a =>
    cases p with
    | none => exact .inl (by simpa using perm)
    | some b => exact eq_or_eq_of_perm_pair perm

theorem Holds.plain (held : Holds pairs items eager) : Plain pairs := by
  intro pair inside
  rw [held.mem_iff, List.mem_append, Option.mem_toList, Option.mem_toList] at inside
  rcases inside with inside | inside
  · obtain ⟨l, _, rfl⟩ := Option.map_eq_some_iff.mp inside
    exact ⟨⟨"plugins", by decide, rfl⟩, rfl⟩
  · obtain ⟨b, _, rfl⟩ := Option.map_eq_some_iff.mp inside
    exact ⟨⟨"eager_validation", by decide, rfl⟩, rfl⟩

/-- What the fields are bound to does not depend on their order, and what can be read of them is
the plugins. -/
theorem Holds.bound (held : Holds pairs items eager) :
    boundTo? "plugins" pairs = items.map .sequence ∧
    boundTo? "eager_validation" pairs = eager.map .boolean ∧
    readablePairs pairs = readableAll (items.getD []) := by
  rcases eq_or_eq_of_perm_toList held with rfl | rfl <;> cases items <;> cases eager <;>
    simp [boundTo?, fieldName?, readablePairs, readable, readableAll]

/-- A document with nothing but plugins and the flag can be read if each plugin can. -/
theorem Holds.ofText_eq_ok_iff (held : Holds pairs items eager) {text : String}
    (document : documents text = .ok [.mapping pairs]) {config : Configuration} :
    ofText text = .ok config ↔
      List.Forall₂ (fun item plugin => decoded? decodePlugin item = some plugin)
        (items.getD []) config.plugins ∧
      eager.getD false = config.eagerValidation := by
  obtain ⟨plugins, flag, readable⟩ := held.bound
  have settledPlugins : settled? decodePlugins [] (boundTo? "plugins" pairs) =
      decoded? decodePlugins (.sequence (items.getD [])) := by
    rw [plugins]
    cases items <;> rfl
  have settledFlag : settled? decodeFlag false (boundTo? "eager_validation" pairs) =
      some (eager.getD false) := by
    rw [flag]
    cases eager <;> rfl
  rw [ofText_of_mapping document, ofMaps_eq_ok_iff (List.forall_mem_singleton.mpr held.plain),
    List.forall_mem_singleton, List.flatten_singleton, readable, settledPlugins, settledFlag,
    decoded?_sequence_iff, Option.some.injEq]
  refine and_iff_right_of_imp fun ⟨each, _⟩ => ?_
  obtain ⟨settings, listed, _⟩ := exists_decodeItems_of_forall₂ each
  rw [← isOk_ofNodes none, listed]
  rfl

end

/-- A document of plugins is read as it is written: if each of them has an interceptor and, unless
there are none, properties, these are the plugins of the configuration, in this order, and what
is left out is the default. If one of them has no interceptor, reading fails whatever the others
are. In no case are there fewer or more than were written. -/
theorem ofText_reads_written {text : String} {pairs : List (Node × Node)}
    {items : Option (List Node)} {eager : Option Bool}
    (document : documents text = .ok [.mapping pairs]) (held : Holds pairs items eager) :
    (∀ plugins, List.Forall₂ Writes (items.getD []) plugins →
      ofText text = .ok ⟨plugins, eager.getD false⟩) ∧
    (∀ fields, .mapping fields ∈ items.getD [] →
      (∀ pair ∈ fields, pair.1 ≠ .text "interceptor") → ∃ e, ofText text = .error e) ∧
    ∀ config, ofText text = .ok config → config.plugins.length = (items.getD []).length := by
  have answer := @Holds.ofText_eq_ok_iff pairs items eager held text document
  refine ⟨?_, ?_, ?_⟩
  · exact fun plugins written =>
      answer.mpr ⟨written.imp fun _ _ => decoded?_of_writes, rfl⟩
  · intro fields inside unnamed
    cases read : ofText text with
    | error e => exact ⟨e, rfl⟩
    | ok config =>
      obtain ⟨each, _⟩ := answer.mp read
      obtain ⟨place, found⟩ := List.mem_iff_get.mp inside
      have decoded := each.get place.isLt (each.length_eq ▸ place.isLt)
      rw [found, decoded?_of_unnamed unnamed] at decoded
      cases decoded
  · intro config read
    exact (answer.mp read).1.length_eq.symm

/-- Names of properties keep their letters and points, a plugin comes twice, and properties may
come first or be empty. -/
theorem ofText_reads_written_audit :
    ofText ("plugins:\n- interceptor: audit\n- properties:\n    Limit.Max: '10'\n    unit: s\n" ++
        "  interceptor: limit\n- interceptor: audit\n  properties: \x7b\x7d\n") =
      .ok ⟨[⟨"audit", {}⟩, ⟨"limit", .ofList [("Limit.Max", "10"), ("unit", "s")]⟩, ⟨"audit", {}⟩],
        false⟩ ∧
    ∃ e, ofText ("eager_validation: true\nplugins:\n- interceptor: audit\n" ++
      "- properties:\n    limit: '10'\n- 7\n") = .error e := by
  let limit : List (Node × Node) :=
    [(.text "properties", .mapping (textPairs [("Limit.Max", "10"), ("unit", "s")])),
      (.text "interceptor", .text "limit")]
  let audit : List (Node × Node) := [(.text "interceptor", .text "audit")]
  let empty : List (Node × Node) := audit ++ [(.text "properties", .mapping [])]
  let spoiled : List (Node × Node) := [(.text "properties", .mapping (textPairs [("limit", "10")]))]
  constructor
  · have held : Holds [(.text "plugins", .sequence [.mapping audit, .mapping limit,
        .mapping empty])] (some [.mapping audit, .mapping limit, .mapping empty]) none := .refl _
    refine (ofText_reads_written (by decide +kernel) held).1 _
      (.cons (.bare "audit") (.cons (.full _ ?_) (.cons (.full _ ?_) .nil)))
    · exact .swap _ _ _
    · exact .refl _
  · have held : Holds [(.text "eager_validation", .boolean true), (.text "plugins", .sequence
        [.mapping audit, .mapping spoiled, .integer 7])]
        (some [.mapping audit, .mapping spoiled, .integer 7]) (some true) := .swap _ _ _
    exact (ofText_reads_written (by decide +kernel) held).2.1 spoiled (by simp) (by decide)

end Configuration

end Interception
