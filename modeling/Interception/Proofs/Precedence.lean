import Mathlib.Data.List.Forall2
import Interception.Proofs.PlainMaps
import Interception.Proofs.SingleFile

/-!
# Which source decides a field

A configuration is loaded from the default file, a file that is asked for, a file that the
environment names and a variable. Each of the two fields is what the source that counts most
says of it, if that source mentions it at all; what the others say, be it wrong, does not
matter. A file with a number that cannot be read is refused as a whole.
-/

set_option autoImplicit false

namespace Interception

open Settings Yaml

/-- The file is there and its document is this map. -/
def Settings.FileSystem.Holds (fs : FileSystem) (here : Place) (name : String)
    (pairs : List (Node × Node)) : Prop :=
  ∃ file text, fs.find? here name = some file ∧ file.text = some text ∧
    documents text = .ok [.mapping pairs]

namespace Configuration

/-- What there is to load from: maps in the default file, in the file that is asked for and in
the file that the environment names, and what a variable says of the eager flag. -/
structure Layers where
  base : Option (List (Node × Node)) := none
  asked : Option (List (Node × Node)) := none
  named : Option (List (Node × Node)) := none
  override : Option Bool := none

namespace Layers

def files (l : Layers) : List (List (Node × Node)) :=
  l.base.toList ++ (l.asked.toList ++ l.named.toList)

/-- The variable, as if it were a map. -/
def flag? (l : Layers) : Option (List (Node × Node)) :=
  l.override.map fun b => [(.text "eager_validation", .boolean b)]

/-- What decides a field. -/
def binding? (l : Layers) (field : String) : Option Node :=
  l.flag?.bind (boundTo? field) <|> l.named.bind (boundTo? field) <|>
    l.asked.bind (boundTo? field) <|> l.base.bind (boundTo? field)

def Readable (l : Layers) : Prop :=
  ∀ pairs ∈ l.files, readablePairs pairs

instance (l : Layers) : Decidable l.Readable :=
  inferInstanceAs (Decidable (∀ pairs ∈ l.files, _))

/-- This is what is there. A variable that begins with the stem in any case of letters would set
something, so there is none but the one for the flag. -/
structure Describes (l : Layers) (fs : FileSystem) (path : Option String) (env : Environment)
    (here : Place) : Prop where
  base : match l.base with
    | some pairs => fs.Holds here defaultFile pairs
    | none => fs.find? here defaultFile = none
  asked : Option.Rel (fs.Holds here) path l.asked
  named : Option.Rel (fs.Holds here) (env.lookup fileVariable) l.named
  override : env.filter (fun v => (Text.lower v.1).startsWith variableStem) =
    (l.override.map fun b => ("WEAVE__EAGER_VALIDATION", Found.boolText b)).toList
  plain : ∀ pairs ∈ l.files, Plain pairs

/-- All layers, the one that counts most last; what is missing is an empty map. -/
def maps (l : Layers) : List (List (Node × Node)) :=
  l.base.getD [] :: (l.asked.toList ++ l.named.toList) ++ [l.flag?.getD []]

theorem binding?_eq (l : Layers) (field : String) :
    l.binding? field = boundTo? field l.maps.flatten := by
  have orEmpty (o : Option (List (Node × Node))) :
      boundTo? field (o.getD []) = o.bind (boundTo? field) := by
    cases o <;> rfl
  have asList (o : Option (List (Node × Node))) :
      boundTo? field o.toList.flatten = o.bind (boundTo? field) := by
    cases o with
    | none => rfl
    | some pairs => simp
  simp only [maps, List.cons_append, List.flatten_cons, List.flatten_append, List.flatten_nil,
    List.append_nil, boundTo?_append, orEmpty, asList, binding?, Option.orElse_eq_orElse,
    Option.orElse_eq_or, Option.or_assoc]

/-- The default file and the variable may be missing, which is like an empty map. -/
theorem forall_maps {l : Layers} {P : List (Node × Node) → Prop} (empty : P [])
    (flag : ∀ b, P [(.text "eager_validation", .boolean b)]) :
    (∀ m ∈ l.maps, P m) ↔ ∀ m ∈ l.files, P m := by
  have orEmpty (o : Option (List (Node × Node))) : P (o.getD []) ↔ ∀ m ∈ o.toList, P m := by
    cases o <;> simp [empty]
  have flagged : P (l.flag?.getD []) := by
    rw [flag?]
    cases l.override with
    | none => exact empty
    | some b => exact flag b
  rw [maps, files, List.cons_append, List.forall_mem_cons, List.forall_mem_append,
    List.forall_mem_append, List.forall_mem_singleton, orEmpty]
  simp only [flagged, and_true, List.forall_mem_append]

end Layers

/-! ## The sources that layers describe -/

section

variable {fs : FileSystem} {here : Place} {name : String} {pairs : List (Node × Node)}

theorem bare_requiredSource (holds : fs.Holds here name pairs) :
    ((requiredSource fs here name).map Setting.bareFields).mapError ConfigError.bare =
      readMap none pairs := by
  obtain ⟨file, text, found, kept, document⟩ := holds
  rw [requiredSource, found]
  simp only [readFound, kept]
  rw [← readDocument_none, readDocument_of_mapping none document]

theorem bare_optionalSource (holds : fs.Holds here name pairs) :
    ((optionalSource fs here name).map Setting.bareFields).mapError ConfigError.bare =
      readMap none pairs := by
  obtain ⟨⟨shown, _⟩, text, found, rfl, document⟩ := holds
  rw [optionalSource, found]
  simp only
  rw [← readDocument_none, readDocument_of_mapping none document]

theorem bare_mapM_requiredSource {names : List String} {maps : List (List (Node × Node))}
    (each : List.Forall₂ (fs.Holds here) names maps) :
    ((names.mapM (requiredSource fs here)).map (·.map Setting.bareFields)).mapError
        ConfigError.bare = maps.mapM (readMap none) := by
  induction each with
  | nil => rfl
  | @cons name pairs names maps holds _ ih =>
    rw [List.mapM_cons, List.mapM_cons, ← bare_requiredSource holds, ← ih]
    cases requiredSource fs here name with
    | error e => rfl
    | ok source => cases names.mapM (requiredSource fs here) <;> rfl

end

namespace Layers.Describes

variable {l : Layers} {fs : FileSystem} {path : Option String} {env : Environment}
  {here : Place}

theorem bare_base (described : l.Describes fs path env here) :
    ((optionalSource fs here defaultFile).map Setting.bareFields).mapError ConfigError.bare =
      readMap none (l.base.getD []) := by
  have base := described.base
  split at base
  · next pairs there =>
    rw [there]
    exact bare_optionalSource base
  · next missing =>
    rw [missing, optionalSource, base]
    rfl

theorem bare_requested (described : l.Describes fs path env here) :
    (((requestedFiles path env).mapM (requiredSource fs here)).map
      (·.map Setting.bareFields)).mapError ConfigError.bare =
        (l.asked.toList ++ l.named.toList).mapM (readMap none) := by
  have listed {name : Option String} {pairs : Option (List (Node × Node))}
      (holds : Option.Rel (fs.Holds here) name pairs) :
      List.Forall₂ (fs.Holds here) name.toList pairs.toList := by
    cases holds with
    | none => exact .nil
    | some holds => exact .cons holds .nil
  exact bare_mapM_requiredSource (List.rel_append (listed described.asked)
    (listed described.named))

theorem bare_fields (described : l.Describes fs path env here) :
    readMap none (l.flag?.getD []) = .ok (Setting.bareFields (env.fields variableStem)) := by
  have key : variableKey? variableStem "WEAVE__EAGER_VALIDATION" = some "eager_validation" := by
    decide +kernel
  have value : ∀ b, variableValue (Found.boolText b) = .boolean b := by decide +kernel
  rw [Environment.fields_eq, described.override, flag?]
  cases l.override with
  | none => rfl
  | some b =>
    simp only [Option.map_some, Option.toList_some, List.filterMap_cons, key, value]
    rfl

theorem bare_sources (described : l.Describes fs path env here) :
    ((sources fs path env here).map (·.map Setting.bareFields)).mapError ConfigError.bare =
      l.maps.mapM (readMap none) := by
  rw [sources, maps, List.cons_append, List.mapM_cons, List.mapM_append, List.mapM_cons,
    ← described.bare_base, ← described.bare_requested, described.bare_fields]
  cases optionalSource fs here defaultFile with
  | error e => rfl
  | ok base =>
    cases (requestedFiles path env).mapM (requiredSource fs here) with
    | error e => rfl
    | ok files =>
      change Except.ok _ = Except.ok _
      simp

end Layers.Describes

/-! ## Plugins in order -/

theorem forall₂_of_decodeItems {items : List Node} {settings : List Setting}
    (listed : ofNodes none items = .ok settings) {index : Nat} {plugins : List PluginSetting}
    (decoded : decodeItems index settings = .ok plugins) :
    List.Forall₂ (fun item plugin => decoded? decodePlugin item = some plugin) items
      plugins := by
  induction items generalizing settings index plugins with
  | nil =>
    cases listed
    cases decoded
    exact .nil
  | cons item rest ih =>
    rw [ofNodes] at listed
    obtain ⟨s, read, others⟩ := exists_of_bind_eq_ok listed
    obtain ⟨_, readRest, same⟩ := exists_of_bind_eq_ok others
    cases same
    obtain ⟨plugin, made, others⟩ := exists_of_bind_eq_ok decoded
    obtain ⟨_, madeRest, same⟩ := exists_of_bind_eq_ok others
    cases same
    refine .cons ?_ (ih readRest madeRest)
    rw [decoded?, read]
    exact toOption_eq_some_iff.mpr (mapError_eq_ok_iff.mp made)

/-- Plugins are one sequence, each of whose items is one plugin. -/
theorem forall₂_of_decoded? {n : Node} {plugins : List PluginSetting}
    (decoded : decoded? decodePlugins n = some plugins) :
    ∃ items, n = .sequence items ∧
      List.Forall₂ (fun item plugin => decoded? decodePlugin item = some plugin) items
        plugins := by
  obtain ⟨s, read, made⟩ := Option.bind_eq_some_iff.mp decoded
  rw [toOption_eq_some_iff] at read made
  rcases ofNode_cases read with ⟨_, rfl⟩ | ⟨items, _, rfl, listed, rfl⟩ | ⟨_, _, _, _, rfl⟩
  · cases made
  · exact ⟨items, rfl, forall₂_of_decodeItems listed made⟩
  · cases made

/-! ## Loading -/

section

variable {fs : FileSystem} {path : Option String} {env : Environment} {here : Place}

theorem events_load_of_ok {config : Configuration}
    (loaded : (load fs path env here).answer = .ok config) :
    (load fs path env here).events = [.loaded config.plugins.length config.eagerValidation] := by
  rw [load] at loaded ⊢
  split at loaded <;> cases loaded
  simp

theorem events_load_of_error {e : ConfigError}
    (failed : (load fs path env here).answer = .error e) : (load fs path env here).events = [] := by
  rw [load] at failed ⊢
  split at failed <;> cases failed
  simp

theorem Layers.Describes.answer_eq_ok_iff {l : Layers} (described : l.Describes fs path env here)
    (config : Configuration) :
    (load fs path env here).answer = .ok config ↔
      l.Readable ∧
      settled? decodePlugins [] (l.binding? "plugins") = some config.plugins ∧
      settled? decodeFlag false (l.binding? "eager_validation") =
        some config.eagerValidation := by
  have plain : ∀ m ∈ l.maps, Plain m := by
    refine (Layers.forall_maps (fun _ inside => nomatch inside) fun b pair inside => ?_).mpr
      described.plain
    rw [List.mem_singleton.mp inside]
    exact ⟨⟨_, by decide, rfl⟩, rfl⟩
  have bare : (load fs path env here).answer.mapError ConfigError.bare =
      l.maps.mapM (readMap none) >>= ofSources := by
    rw [mapError_answer_load, described.bare_sources]
  rw [l.binding?_eq, l.binding?_eq, Layers.Readable,
    ← Layers.forall_maps (P := fun m => readablePairs m = true) rfl fun _ => rfl,
    ← ofMaps_eq_ok_iff plain, ← bare, mapError_eq_ok_iff]

end

/-- Each field is decided by itself, by the source that counts most among those that mention
it, and is the default if none does. Loading fails if a number cannot be read or if what
decides a field cannot be decoded, and else reports what was loaded. The plugins are those of
one sequence, in order. -/
theorem load_layered {l : Layers} {fs : FileSystem} {path : Option String} {env : Environment}
    {here : Place} (described : l.Describes fs path env here) :
    (∀ config, (load fs path env here).answer = .ok config ↔
      l.Readable ∧
      settled? decodePlugins [] (l.binding? "plugins") = some config.plugins ∧
      settled? decodeFlag false (l.binding? "eager_validation") =
        some config.eagerValidation) ∧
    ((∃ e, (load fs path env here).answer = .error e) ↔
      ¬l.Readable ∨
      settled? decodePlugins [] (l.binding? "plugins") = none ∨
      settled? decodeFlag false (l.binding? "eager_validation") = none) ∧
    (∀ config, (load fs path env here).answer = .ok config →
      (load fs path env here).events = [.loaded config.plugins.length config.eagerValidation]) ∧
    (∀ e, (load fs path env here).answer = .error e → (load fs path env here).events = []) ∧
    ∀ config n, (load fs path env here).answer = .ok config → l.binding? "plugins" = some n →
      ∃ items, n = .sequence items ∧
        List.Forall₂ (fun item plugin => decoded? decodePlugin item = some plugin) items
          config.plugins := by
  have answer := described.answer_eq_ok_iff
  refine ⟨answer, ⟨?_, ?_⟩, ?_, ?_, ?_⟩
  · rintro ⟨e, failed⟩
    by_contra right
    rw [not_or, not_or, not_not] at right
    obtain ⟨readable, decided, decided'⟩ := right
    obtain ⟨plugins, decided⟩ := Option.ne_none_iff_exists'.mp decided
    obtain ⟨flag, decided'⟩ := Option.ne_none_iff_exists'.mp decided'
    rw [(answer ⟨plugins, flag⟩).mpr ⟨readable, decided, decided'⟩] at failed
    cases failed
  · intro wrong
    cases loaded : (load fs path env here).answer with
    | error e => exact ⟨e, rfl⟩
    | ok config =>
      obtain ⟨readable, decided, decided'⟩ := (answer config).mp loaded
      rw [decided, decided'] at wrong
      simp [readable] at wrong
  · exact fun config loaded => events_load_of_ok loaded
  · exact fun e failed => events_load_of_error failed
  · intro config n loaded bound
    obtain ⟨_, decided, _⟩ := (answer config).mp loaded
    rw [bound] at decided
    exact forall₂_of_decoded? decided

/-- In the default file the plugins are no sequence, which a file that is asked for, under an
absolute name, makes up for, and a variable decides the eager flag. -/
def masked : FileSystem :=
  ⟨[("weave.yaml", some "plugins: 7\neager_validation: false\n"),
    ("/etc/weave/audit.yaml", some "plugins:\n- interceptor: audit\n- [limit]\n")]⟩

def maskedLayers : Layers where
  base := some [(.text "plugins", .integer 7), (.text "eager_validation", .boolean false)]
  asked := some [(.text "plugins", .sequence
    [.mapping [(.text "interceptor", .text "audit")], .sequence [.text "limit"]])]
  override := some true

theorem describes_maskedLayers :
    maskedLayers.Describes masked (some "/etc/weave/audit.yaml")
      [("HOME", "/root"), ("WEAVE__EAGER_VALIDATION", "true")] ["root", "work"] where
  base := ⟨_, _, rfl, rfl, by decide +kernel⟩
  asked := .some ⟨_, _, rfl, rfl, by decide +kernel⟩
  named := .none
  override := by decide +kernel
  plain := by decide +kernel

theorem load_layered_masked :
    let loaded := load masked (some "/etc/weave/audit.yaml")
      [("HOME", "/root"), ("WEAVE__EAGER_VALIDATION", "true")] ["root", "work"]
    loaded.answer = .ok ⟨[⟨"audit", {}⟩, ⟨"limit", {}⟩], true⟩ ∧
      loaded.events = [.loaded 2 true] := by
  obtain ⟨answer, _, reported, _⟩ := load_layered describes_maskedLayers
  have loaded := (answer ⟨[⟨"audit", {}⟩, ⟨"limit", {}⟩], true⟩).mpr
    ⟨by decide +kernel, by decide +kernel, by decide +kernel⟩
  exact ⟨loaded, reported _ loaded⟩

def unreadable : FileSystem :=
  ⟨[("weave.yaml", some "plugins: .inf\n"), ("audit.yaml", some "plugins: []\n")]⟩

def unreadableLayers : Layers where
  base := some [(.text "plugins", .real ".inf")]
  asked := some [(.text "plugins", .sequence [])]

/-- A file that cannot be read counts although what it says is overridden, and a variable sets
something in any case of letters. -/
theorem load_not_layered :
    (unreadableLayers.Describes unreadable (some "audit.yaml") [] .usual ∧
      settled? decodePlugins [] (unreadableLayers.binding? "plugins") = some [] ∧
      settled? decodeFlag false (unreadableLayers.binding? "eager_validation") = some false ∧
      (load unreadable (some "audit.yaml") []).answer =
        .error (.document (.badReal ".inf") (some "weave.yaml"))) ∧
    let env : Environment := [("weave__eager_validation", "true")]
    (∀ v ∈ env, v.1.startsWith "WEAVE__" = false) ∧
      (load ⟨[("weave.yaml", some "plugins: []\n")]⟩ none env).answer = .ok ⟨[], true⟩ := by
  refine ⟨⟨⟨⟨_, _, rfl, rfl, ?_⟩, .some ⟨_, _, rfl, rfl, ?_⟩, .none, ?_, ?_⟩, ?_⟩, ?_⟩
  all_goals decide +kernel

end Configuration

end Interception
