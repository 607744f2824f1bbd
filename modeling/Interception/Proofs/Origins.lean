import Interception.Configuration.Load
import Interception.Proofs.FirstFailure

/-!
# Settings without their origins

Every setting carries where it came from, and errors repeat it. What is made of settings
does not depend on it otherwise: whatever is read, merged and decoded comes out the same, up
to the origins in it, if the origins are taken away before.
-/

set_option autoImplicit false

namespace Interception

namespace Settings.Setting

mutual

/-- The setting, as if it came from nowhere. -/
def bare : Setting → Setting
  | scalar _ s => scalar none s
  | list _ items => list none (bareItems items)
  | table _ ⟨names, nodup, value⟩ => table none ⟨names, nodup, fun name => (value name).bare⟩

def bareItems : List Setting → List Setting
  | [] => []
  | s :: rest => s.bare :: bareItems rest

end

def bareFields (fields : Fields) : Fields :=
  fields.map fun field => (field.1, field.2.bare)

end Settings.Setting

/-- The error, as if all that it speaks of came from nowhere. -/
def ConfigError.bare : ConfigError → ConfigError
  | document fault _ => document fault none
  | mistyped found wanted key _ => mistyped found wanted key none
  | e => e

section

variable {α β γ ε ε' : Type}

theorem mapError_map (x : Except ε α) (f : α → β) (erase : ε → ε') :
    (x.map f).mapError erase = (x.mapError erase).map f := by
  cases x <;> rfl

theorem mapError_bind (x : Except ε α) (f : α → Except ε β) (erase : ε → ε') :
    (x >>= f).mapError erase = x.mapError erase >>= fun a => (f a).mapError erase := by
  cases x <;> rfl

theorem map_bind (x : Except ε α) (f : α → β) (g : β → Except ε γ) :
    x.map f >>= g = x >>= fun a => g (f a) := by
  cases x <;> rfl

theorem mapError_eq_ok_iff {x : Except ε α} {erase : ε → ε'} {a : α} :
    x.mapError erase = .ok a ↔ x = .ok a := by
  cases x with
  | error e => exact ⟨nofun, nofun⟩
  | ok b =>
    change Except.ok b = Except.ok a ↔ _
    rw [Except.ok.injEq, Except.ok.injEq]

theorem toOption_eq_some_iff {x : Except ε α} {a : α} : x.toOption = some a ↔ x = .ok a := by
  cases x with
  | error e => exact ⟨nofun, nofun⟩
  | ok b =>
    change some b = some a ↔ _
    rw [Option.some.injEq, Except.ok.injEq]

/-- Two folds whose steps differ in their errors only differ in their errors only. -/
theorem foldlM_mapError {step : β → α → Except ε β} {step' : β → γ → Except ε' β} {f : α → γ}
    {erase : ε → ε'} (agree : ∀ b a, step' b (f a) = (step b a).mapError erase) (xs : List α)
    (b : β) : (xs.map f).foldlM step' b = (xs.foldlM step b).mapError erase := by
  induction xs generalizing b with
  | nil => rfl
  | cons x rest ih =>
    simp only [List.map_cons, List.foldlM_cons, agree]
    cases step b x with
    | error e => rfl
    | ok b => exact ih b

theorem mapM_mapError {act : α → Except ε β} {act' : γ → Except ε' β} {f : α → γ}
    {erase : ε → ε'} (agree : ∀ a, act' (f a) = (act a).mapError erase) (xs : List α) :
    (xs.map f).mapM act' = (xs.mapM act).mapError erase := by
  induction xs with
  | nil => rfl
  | cons x rest ih =>
    simp only [List.map_cons, List.mapM_cons, agree, ih]
    cases act x with
    | error e => rfl
    | ok b => cases rest.mapM act <;> rfl

end

namespace Settings

namespace Setting

theorem bareItems_eq_map (items : List Setting) : bareItems items = items.map bare := by
  induction items with
  | nil => rfl
  | cons s rest ih => rw [bareItems, ih, List.map_cons]

theorem bare_table (origin : Option String) (fields : Table Setting) :
    (table origin fields).bare = table none (fields.map bare) := by
  simp only [bare, Table.map]

theorem bareFields_entries (fields : Table Setting) :
    bareFields fields.entries = (fields.map bare).entries :=
  (fields.entries_map bare).symm

theorem found_bare (s : Setting) : s.bare.found = s.found := by
  cases s with
  | scalar _ s => cases s <;> rfl
  | list _ items => rfl
  | table _ fields => rfl

theorem origin_bare (s : Setting) : s.bare.origin = none := by
  cases s <;> rfl

theorem fields_bare (s : Setting) : s.bare.fields = s.fields.map bare := by
  cases s with
  | table _ fields => rw [bare_table]; rfl
  | _ => exact Table.ext_entries rfl

theorem bare_emptyTable : emptyTable.bare = emptyTable := by
  rw [emptyTable, bare_table]
  exact congrArg (table none) (Table.ext_entries rfl)

theorem asTable_bare (s : Setting) : s.bare.asTable = s.asTable.bare := by
  cases s with
  | table _ fields => rfl
  | _ => exact bare_emptyTable.symm

theorem asList_bare (s : Setting) : s.bare.asList = s.asList.bare := by
  cases s <;> rfl

/-! ## Merging -/

section

variable {f g : Setting → Setting}

theorem bare_updateField (agree : ∀ s, (f s).bare = g s.bare) (target : Setting) (key : String)
    (initial : Setting) :
    (target.updateField key initial f).bare = target.bare.updateField key initial.bare g := by
  cases target with
  | scalar _ s => rfl
  | list _ items => rfl
  | table _ fields =>
    simp only [updateField, bare_table, Table.map_update agree]

theorem bare_updateItem (agree : ∀ s, (f s).bare = g s.bare) (target : Setting) (index : Int) :
    (target.updateItem index f).bare = target.bare.updateItem index g := by
  have modify (items : List Setting) (n : Nat) :
      (items.modify n f).map bare = (items.map bare).modify n g := by
    induction items generalizing n with
    | nil => cases n <;> rfl
    | cons s rest ih => cases n <;> simp [agree, ih]
  cases target with
  | scalar _ s => rfl
  | table _ fields => rfl
  | list _ items =>
    simp only [updateItem, bare, bareItems_eq_map, modify, List.map_append, List.map_replicate,
      List.length_map]
    rfl

end

theorem bare_assign (key : String) (target s : Setting) :
    (assign key target s).bare = assign key target.bare s.bare := by
  match s with
  | scalar _ s =>
    rw [assign, bare, assign, asTable_bare]
    refine bare_updateField (fun _ => ?_) ..
    rfl
  | list _ items =>
    rw [assign, bare, assign, asTable_bare]
    refine bare_updateField (fun _ => ?_) ..
    rfl
  | table _ ⟨names, nodup, value⟩ =>
    have each (inner : Setting) (name : {name // name ∈ names}) :
        assign name.1 inner.bare (value name).bare = (assign name.1 inner (value name)).bare :=
      (bare_assign name.1 inner (value name)).symm
    let bareAll (inner : Setting) : Setting :=
      names.attach.foldl (fun inner name => assign name.1 inner (value name).bare) inner
    rw [bare, assign, assign, asTable_bare]
    refine (bare_updateField (g := bareAll) (fun inner => ?_) ..).trans ?_
    · exact (List.foldl_hom bare each).symm
    · rw [bare_emptyTable]

theorem bare_put (value : Setting) (path : Path) (target : Setting) :
    (put value path target).bare = put value.bare path target.bare := by
  induction path generalizing target with
  | nil => rfl
  | cons step rest ih =>
    cases step with
    | name key =>
      cases rest with
      | nil => exact bare_assign key target value
      | cons next rest =>
        simp only [put, asTable_bare]
        exact bare_updateField ih ..
    | index i =>
      cases rest with
      | nil =>
        simp only [put, asList_bare]
        refine bare_updateItem (fun _ => ?_) ..
        rfl
      | cons next rest =>
        simp only [put, asList_bare]
        exact bare_updateItem ih ..

theorem bare_overlay (target : Setting) (source : Fields) :
    (target.overlay source).bare = target.bare.overlay (bareFields source) := by
  rw [bareFields, overlay, overlay, List.foldl_map]
  induction source generalizing target with
  | nil => rfl
  | cons field rest ih => rw [List.foldl_cons, ih, bare_put, List.foldl_cons]

end Setting

theorem bare_merge (sources : List Fields) :
    (merge sources).bare = merge (sources.map Setting.bareFields) := by
  have overlaid (target : Setting) : (sources.foldl Setting.overlay target).bare =
      (sources.map Setting.bareFields).foldl Setting.overlay target.bare := by
    induction sources generalizing target with
    | nil => rfl
    | cons source rest ih => rw [List.foldl_cons, ih, Setting.bare_overlay]; rfl
  exact (overlaid .emptyTable).trans (by rw [Setting.bare_emptyTable]; rfl)

end Settings

open Settings Setting

/-! ## Decoding -/

theorem ConfigError.bare_under (segment : String) (dotted : Bool) (e : ConfigError) :
    (e.under segment dotted).bare = e.bare.under segment dotted := by
  cases e <;> rfl

/-- What is filled in on the way out does not depend on the origin. -/
theorem mapError_under {α : Type} (x : Except ConfigError α) (segment : String)
    (dotted : Bool) :
    (x.mapError (·.under segment dotted)).mapError ConfigError.bare =
      (x.mapError ConfigError.bare).mapError (·.under segment dotted) := by
  cases x with
  | ok a => rfl
  | error e => exact congrArg Except.error (e.bare_under segment dotted)

namespace Configuration

theorem mistyped_bare (s : Setting) (wanted : String) :
    mistyped s.bare wanted = (mistyped s wanted).bare := by
  rw [mistyped, mistyped, found_bare, origin_bare]
  rfl

theorem decodeFlag_bare (s : Setting) :
    decodeFlag s.bare = (decodeFlag s).mapError ConfigError.bare := by
  cases s with
  | list origin items => exact congrArg Except.error (mistyped_bare (.list origin items) _)
  | table origin fields => exact congrArg Except.error (mistyped_bare (.table origin fields) _)
  | scalar origin s =>
    cases s with
    | nil => rfl
    | boolean b => rfl
    | integer n => rfl
    | real x => rfl
    | text word =>
      simp only [bare, decodeFlag]
      split
      · rfl
      · split <;> rfl

theorem decodeText_bare (s : Setting) :
    decodeText s.bare = (decodeText s).mapError ConfigError.bare := by
  cases s with
  | list origin items => exact congrArg Except.error (mistyped_bare (.list origin items) _)
  | table origin fields => exact congrArg Except.error (mistyped_bare (.table origin fields) _)
  | scalar origin s => cases s <;> rfl

theorem decodeProperties_bare (s : Setting) :
    decodeProperties s.bare = (decodeProperties s).mapError ConfigError.bare := by
  cases s with
  | scalar origin s => cases s <;> rfl
  | list origin items => rfl
  | table origin fields =>
    have entry (field : String × Setting) :
        ((decodeText field.2.bare).map (field.1, ·)).mapError (·.underKey field.1) =
          (((decodeText field.2).map (field.1, ·)).mapError (·.underKey field.1)).mapError
            ConfigError.bare := by
      rw [decodeText_bare]
      exact ((mapError_under _ _ true).trans (by rw [mapError_map]; rfl)).symm
    simp only [bare_table, decodeProperties, Table.entries_map]
    rw [mapM_mapError entry, mapError_bind]
    rfl

theorem takePluginField_bare (soFar : PluginFields) (field : String × Setting) :
    takePluginField soFar (field.1, field.2.bare) =
      (takePluginField soFar field).mapError ConfigError.bare := by
  simp only [takePluginField]
  split
  · rw [decodeText_bare, ← mapError_map]
    exact (mapError_under _ _ true).symm
  · split
    · rw [decodeProperties_bare, ← mapError_map]
      exact (mapError_under _ _ true).symm
    · rfl

theorem decodePlugin_bare (s : Setting) :
    decodePlugin s.bare = (decodePlugin s).mapError ConfigError.bare := by
  cases s with
  | scalar origin s => cases s <;> rfl
  | table origin fields =>
    simp only [bare_table, decodePlugin, Table.entries_map]
    rw [foldlM_mapError takePluginField_bare, mapError_bind]
    congr 1
    funext read
    cases read.interceptor <;> rfl
  | list origin items =>
    cases items with
    | nil => rfl
    | cons name rest =>
      simp only [bare, bareItems, decodePlugin, mapError_bind]
      rw [decodeText_bare]
      congr 1
      · exact (mapError_under _ _ false).symm
      · funext interceptor
        cases rest with
        | nil => rfl
        | cons properties rest =>
          simp only [bareItems, mapError_bind]
          rw [decodeProperties_bare]
          congr 1
          exact (mapError_under _ _ false).symm

theorem decodeItems_bare (index : Nat) (items : List Setting) :
    decodeItems index (items.map bare) =
      (decodeItems index items).mapError ConfigError.bare := by
  induction items generalizing index with
  | nil => rfl
  | cons s rest ih =>
    simp only [List.map_cons, decodeItems, mapError_bind, ih]
    rw [decodePlugin_bare]
    congr 1
    exact (mapError_under _ _ false).symm

theorem decodePlugins_bare (s : Setting) :
    decodePlugins s.bare = (decodePlugins s).mapError ConfigError.bare := by
  cases s with
  | scalar origin s => cases s <;> rfl
  | table origin fields => rfl
  | list origin items => simp only [bare, decodePlugins, bareItems_eq_map, decodeItems_bare]

theorem takeField_bare (soFar : Configuration) (field : String × Setting) :
    takeField soFar (field.1, field.2.bare) =
      (takeField soFar field).mapError ConfigError.bare := by
  simp only [takeField]
  split
  · rw [decodePlugins_bare, ← mapError_map]
    exact (mapError_under _ _ true).symm
  · split
    · rw [decodeFlag_bare, ← mapError_map]
      exact (mapError_under _ _ true).symm
    · rfl

theorem decode_bare (s : Setting) : decode s.bare = (decode s).mapError ConfigError.bare := by
  rw [decode, decode, fields_bare, Table.entries_map]
  exact foldlM_mapError takeField_bare s.fields.entries {}

theorem ofSources_bare (sources : List Fields) :
    ofSources (sources.map bareFields) = (ofSources sources).mapError ConfigError.bare := by
  rw [ofSources, ofSources, ← bare_merge, decode_bare]

end Configuration

/-! ## Reading -/

namespace Settings

mutual

theorem ofNode_none (origin : Option String) (n : Yaml.Node) :
    ofNode none n = (ofNode origin n).map bare := by
  match n with
  | .null => rfl
  | .invalid => rfl
  | .boolean b => rfl
  | .integer i => rfl
  | .text s => rfl
  | .real s =>
    simp only [ofNode]
    split <;> rfl
  | .sequence items =>
    simp only [ofNode, ofNodes_none origin items]
    cases ofNodes origin items <;> rfl
  | .mapping pairs =>
    have read := ofPairs_none origin ∅ pairs
    rw [Table.map_empty] at read
    simp only [ofNode, read]
    cases ofPairs origin ∅ pairs with
    | error e => rfl
    | ok fields => exact congrArg Except.ok (bare_table origin fields).symm

theorem ofNodes_none (origin : Option String) (ns : List Yaml.Node) :
    ofNodes none ns = (ofNodes origin ns).map bareItems := by
  match ns with
  | [] => rfl
  | n :: rest =>
    simp only [ofNodes, ofNode_none origin n, ofNodes_none origin rest]
    cases ofNode origin n with
    | error e => rfl
    | ok s => cases ofNodes origin rest <;> rfl

theorem ofPairs_none (origin : Option String) (fields : Table Setting)
    (pairs : List (Yaml.Node × Yaml.Node)) :
    ofPairs none (fields.map bare) pairs = (ofPairs origin fields pairs).map (·.map bare) := by
  match pairs with
  | [] => rfl
  | (key, value) :: rest =>
    simp only [ofPairs]
    cases fieldName? key with
    | none => exact ofPairs_none origin fields rest
    | some name =>
      rw [ofNode_none origin value]
      cases ofNode origin value with
      | error e => rfl
      | ok s =>
        have next := ofPairs_none origin (fields.set name s) rest
        rw [Table.map_set] at next
        exact next

end

theorem rootFields_bare (s : Setting) : rootFields s.bare = (rootFields s).map bareFields := by
  cases s with
  | scalar origin s => cases s <;> rfl
  | list origin items => rfl
  | table origin fields =>
    rw [bare_table]
    exact congrArg Except.ok (bareFields_entries fields).symm

theorem fieldsOfDocuments_none (origin : Option String) (ns : List Yaml.Node) :
    fieldsOfDocuments none ns = (fieldsOfDocuments origin ns).map bareFields := by
  rw [fieldsOfDocuments, fieldsOfDocuments]
  cases onlyDocument ns with
  | error e => rfl
  | ok n =>
    change (ofNode none n).bind rootFields = ((ofNode origin n).bind rootFields).map bareFields
    rw [ofNode_none origin]
    cases ofNode origin n with
    | error e => rfl
    | ok s => exact rootFields_bare s

theorem readDocument_none (origin : Option String) (text : String) :
    readDocument none text =
      ((readDocument origin text).map bareFields).mapError ConfigError.bare := by
  rw [readDocument, readDocument]
  cases Yaml.documents text with
  | error e => rfl
  | ok ns =>
    simp only [fieldsOfDocuments_none origin]
    cases fieldsOfDocuments origin ns <;> rfl

end Settings

namespace Configuration

/-- A text that comes from somewhere has the same configuration, or the same error but for
the origin. -/
theorem ofText_eq_mapError (origin : Option String) (text : String) :
    ofText text = (readDocument origin text >>= fun fields => ofSources [fields]).mapError
      ConfigError.bare := by
  rw [ofText, readDocument_none origin]
  cases readDocument origin text with
  | error e => rfl
  | ok fields => exact ofSources_bare [fields]

theorem answer_load (fs : FileSystem) (path : Option String) (env : Environment)
    (here : Place) :
    (load fs path env here).answer = sources fs path env here >>= ofSources := by
  change _ = (sources fs path env here).bind ofSources
  rw [load]
  split <;> rename_i made <;> exact made.symm

/-- An answer is the same, up to the origins in its error, as one that is made of the same
sources without their origins. -/
theorem mapError_answer_load (fs : FileSystem) (path : Option String) (env : Environment)
    (here : Place) :
    (load fs path env here).answer.mapError ConfigError.bare =
      ((sources fs path env here).map (·.map bareFields)).mapError ConfigError.bare >>=
        ofSources := by
  rw [answer_load, mapError_bind]
  cases sources fs path env here with
  | error e => rfl
  | ok sources => exact (ofSources_bare sources).symm

end Configuration

end Interception
