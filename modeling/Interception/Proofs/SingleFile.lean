import Interception.Proofs.Origins

/-!
# A text by itself and in a file

A configuration may be read from a text, or be loaded from a file that holds this text:
from the default file, from one that is asked for, or from one that the environment names. If
there is nothing else to load from, all of these come to the same.
-/

set_option autoImplicit false

namespace Interception

namespace Settings

namespace FileSystem

/-- The name leads to something that can be a file. -/
structure NamesFile (name : String) : Prop where
  file : namesDirectory name = false
  last : (parts name).getLast? ≠ some ".."

/-- What can be a file has a last part. -/
theorem exists_getLast?_parts {name : String} (file : namesDirectory name = false) :
    ∃ last, (parts name).getLast? = some last := by
  rw [namesDirectory] at file
  cases ended : (pieces name.toList).getLast? with
  | none =>
    rw [ended] at file
    cases file
  | some last =>
    rw [ended] at file
    obtain ⟨front, split⟩ := List.getLast?_eq_some_iff.mp ended
    have counts : (String.ofList last != "" && String.ofList last != ".") = true := by
      simpa [← String.toList_inj] using file
    exact ⟨String.ofList last, by simp [parts, split, counts]⟩

/-- Absolute or not, a name ends as its parts do. -/
theorem NamesFile.getLast?_route {name : String} (named : NamesFile name) (here : Place) :
    ∃ last, (route here name).getLast? = some last ∧ last ≠ ".." := by
  obtain ⟨last, ended⟩ := exists_getLast?_parts named.file
  refine ⟨last, ?_, fun up => named.last (up ▸ ended)⟩
  rw [route]
  split
  · exact ended
  · rw [List.getLast?_append, ended]
    rfl

/-- What the name of a file leads through is there once the file is. -/
theorem follow?_hasDirectory (fs : FileSystem) {file : String × Option String}
    (kept : file ∈ fs.files) (here : Place) :
    follow? (fs.hasDirectory here) [] (route here file.1) =
      some (arrival (route here file.1)) := by
  refine follow?_of_passed fun place inside => ?_
  rw [hasDirectory, Bool.or_eq_true]
  refine .inr (List.any_eq_true.mpr ⟨file, kept, ?_⟩)
  rw [List.contains_iff_mem]
  exact List.mem_append_left _ inside

/-- The only file that there is is found by its name, from wherever it is looked for. -/
theorem NamesFile.find?_eq {name : String} (named : NamesFile name) (text : Option String)
    (here : Place) :
    ∃ shown, (⟨[(name, text)]⟩ : FileSystem).find? here name = some ⟨shown, text⟩ := by
  obtain ⟨last, ended, ordinary⟩ := named.getLast?_route here
  have followed := follow?_hasDirectory ⟨[(name, text)]⟩ List.mem_cons_self here
  refine ⟨separator.toString.intercalate (fromHere here (route here name)), ?_⟩
  have exact : (⟨[(name, text)]⟩ : FileSystem).fileAt? here (route here name) =
      some ⟨separator.toString.intercalate (fromHere here (route here name)), text⟩ := by
    simp [fileAt?, followed, named.file]
  simp [find?, ended, ordinary, named.file, exact]

/-- Nothing is found where no file is kept. -/
theorem fileAt?_of_forall_ne {fs : FileSystem} {here : Place} {parts : List String}
    (elsewhere : ∀ file ∈ fs.files, arrival (route here file.1) ≠ arrival parts) :
    fs.fileAt? here parts = none := by
  rw [fileAt?]
  cases followed : follow? (fs.hasDirectory here) [] parts with
  | none => rfl
  | some place =>
    obtain rfl : place = arrival parts := eq_foldl_of_follow? followed
    have missing : fs.files.reverse.find? (fun file =>
        !namesDirectory file.1 && arrival (route here file.1) == arrival parts) = none := by
      rw [List.find?_eq_none]
      intro file kept
      simpa using fun _ => elsewhere file (List.mem_reverse.mp kept)
    simp [missing]

end FileSystem

/-- A variable whose name does not begin with the stem, in any case of letters, sets nothing. -/
theorem Environment.fields_eq (env : Environment) (stem : String) :
    env.fields stem =
      (env.filter fun v => (Text.lower v.1).startsWith stem).filterMap fun v =>
        (variableKey? stem v.1).map
          (·, .scalar (some environmentOrigin) (variableValue v.2)) := by
  rw [Environment.fields, List.filterMap_filter]
  congr 1
  funext v
  by_cases sets : (Text.lower v.1).startsWith stem <;> simp [variableKey?, sets]

theorem Environment.fields_of_quiet {env : Environment} {stem : String}
    (quiet : ∀ v ∈ env, (Text.lower v.1).startsWith stem = false) : env.fields stem = [] := by
  rw [Environment.fields_eq, List.filter_eq_nil_iff.mpr fun v inside => by simp [quiet v inside]]
  rfl

end Settings

open Settings

namespace Configuration

/-- The places in which the default file is looked for. -/
def defaultPlaces (here : Place) : List Place :=
  ["weave.yaml", "weave.yaml.yaml", "weave.yaml.yml"].map (FileSystem.arrival here ++ [·])

theorem namesFile_defaultFile : FileSystem.NamesFile defaultFile where
  file := by decide +kernel
  last := by decide +kernel

theorem find?_defaultFile_of_forall_ne (fs : FileSystem) {here : Place}
    (elsewhere : ∀ file ∈ fs.files, ∀ place ∈ defaultPlaces here,
      FileSystem.arrival (FileSystem.route here file.1) ≠ place) :
    fs.find? here defaultFile = none := by
  have missing (name : String)
      (listed : name ∈ ["weave.yaml", "weave.yaml.yaml", "weave.yaml.yml"]) :
      fs.fileAt? here (here ++ [name]) = none := by
    refine FileSystem.fileAt?_of_forall_ne fun file kept => ?_
    have ordinary : name ≠ ".." := by
      rintro rfl
      revert listed
      decide
    rw [FileSystem.arrival_append_singleton ordinary]
    exact elsewhere file kept _ (List.mem_map_of_mem listed)
  have route : FileSystem.route here defaultFile = here ++ ["weave.yaml"] := by
    have parts : FileSystem.parts defaultFile = ["weave.yaml"] := by decide +kernel
    have relative : FileSystem.isAbsolute defaultFile = false := by decide +kernel
    simp [FileSystem.route, parts, relative]
  have named : FileSystem.namesDirectory defaultFile = false := namesFile_defaultFile.file
  simp [FileSystem.find?, route, named, FileSystem.endings, missing "weave.yaml" (by decide),
    missing "weave.yaml.yaml" (by decide), missing "weave.yaml.yml" (by decide)]

section

variable {p text : String} {env : Environment} {here : Place}

/-- A text read from somewhere, with nothing that other sources add, has the configuration of
the text. -/
theorem mapError_answer_of_sources {fs : FileSystem} {path origin : Option String}
    {all : Fields → List Fields}
    (read : sources fs path env here = (readDocument origin text).map all)
    (only : ∀ fields, ofSources (all fields) = ofSources [fields]) :
    (load fs path env here).answer.mapError ConfigError.bare = ofText text := by
  rw [answer_load, read, map_bind, ofText_eq_mapError origin]
  simp only [only]

theorem sources_default (unset : env.lookup fileVariable = none)
    (quiet : ∀ v ∈ env, (Text.lower v.1).startsWith variableStem = false) :
    ∃ origin, sources ⟨[(defaultFile, some text)]⟩ none env here =
      (readDocument origin text).map fun fields => [fields, []] := by
  obtain ⟨shown, found⟩ := namesFile_defaultFile.find?_eq (some text) here
  refine ⟨some shown, ?_⟩
  simp only [sources, optionalSource, found, requestedFiles, unset,
    Environment.fields_of_quiet quiet]
  cases readDocument (some shown) text <;> rfl

theorem sources_requested {path : Option String}
    (requested : requestedFiles path env = [p]) (named : FileSystem.NamesFile p)
    (elsewhere : FileSystem.arrival (FileSystem.route here p) ∉ defaultPlaces here)
    (quiet : ∀ v ∈ env, (Text.lower v.1).startsWith variableStem = false) :
    ∃ origin, sources ⟨[(p, some text)]⟩ path env here =
      (readDocument origin text).map fun fields => [[], fields, []] := by
  obtain ⟨shown, found⟩ := named.find?_eq (some text) here
  have missing : (⟨[(p, some text)]⟩ : FileSystem).find? here defaultFile = none :=
    find?_defaultFile_of_forall_ne _ fun file kept place listed same => by
      rw [List.mem_singleton.mp kept] at same
      exact elsewhere (same ▸ listed)
  refine ⟨some shown, ?_⟩
  simp only [sources, optionalSource, missing, requested, Environment.fields_of_quiet quiet,
    List.mapM_cons, List.mapM_nil, requiredSource, found, readFound]
  cases readDocument (some shown) text <;> rfl

/-- An answer that is that of the text but for origins, which only errors have, is the answer
of the text whenever there is a configuration. -/
theorem answer_eq_ok_iff {result : LoadResult}
    (same : result.answer.mapError ConfigError.bare = ofText text) (config : Configuration) :
    result.answer = .ok config ↔ ofText text = .ok config := by
  rw [← same, mapError_eq_ok_iff]

end

/-- A text and a file that holds it are read alike: the default file, a file that is asked for
and one that the environment names, wherever that file is, if it is the only one and no variable
sets anything. There is a configuration for all of them or for none, and it is the same; the
errors are the same as well but for the origins. The default file may be missing, but not
malformed. -/
theorem load_answers_as_ofText {p : String} {env naming : Environment} {here : Place}
    (unset : env.lookup fileVariable = none)
    (quiet : ∀ v ∈ env, (Text.lower v.1).startsWith variableStem = false)
    (set : naming.lookup fileVariable = some p)
    (quiet' : ∀ v ∈ naming, (Text.lower v.1).startsWith variableStem = false)
    (named : FileSystem.NamesFile p)
    (elsewhere : FileSystem.arrival (FileSystem.route here p) ∉ defaultPlaces here)
    (text : String) :
    (∀ result ∈ [load ⟨[(defaultFile, some text)]⟩ none env here,
        load ⟨[(p, some text)]⟩ (some p) env here, load ⟨[(p, some text)]⟩ none naming here],
      (∀ config, result.answer = .ok config ↔ ofText text = .ok config) ∧
        result.answer.mapError ConfigError.bare = ofText text) ∧
      (load {} none env here).answer = .ok {} ∧
      ∀ e, ofText text = .error e →
        ∃ e', (load ⟨[(defaultFile, some text)]⟩ none env here).answer = .error e' := by
  have default :
      (load ⟨[(defaultFile, some text)]⟩ none env here).answer.mapError ConfigError.bare =
        ofText text := by
    obtain ⟨origin, read⟩ := sources_default unset quiet
    exact mapError_answer_of_sources read fun _ => rfl
  have asked : (load ⟨[(p, some text)]⟩ (some p) env here).answer.mapError ConfigError.bare =
      ofText text := by
    have requested : requestedFiles (some p) env = [p] := by simp [requestedFiles, unset]
    obtain ⟨origin, read⟩ := sources_requested requested named elsewhere quiet
    exact mapError_answer_of_sources read fun _ => rfl
  have fromVariable : (load ⟨[(p, some text)]⟩ none naming here).answer.mapError ConfigError.bare =
      ofText text := by
    have requested : requestedFiles none naming = [p] := by simp [requestedFiles, set]
    obtain ⟨origin, read⟩ := sources_requested requested named elsewhere quiet'
    exact mapError_answer_of_sources read fun _ => rfl
  refine ⟨?_, ?_, ?_⟩
  · simp only [List.forall_mem_cons, List.not_mem_nil, false_implies, implies_true, and_true]
    exact ⟨⟨answer_eq_ok_iff default, default⟩, ⟨answer_eq_ok_iff asked, asked⟩,
      answer_eq_ok_iff fromVariable, fromVariable⟩
  · have nothing : sources {} none env here = .ok [[], []] := by
      simp only [sources, optionalSource, requestedFiles, unset,
        find?_defaultFile_of_forall_ne {} (fun _ kept => nomatch kept),
        Environment.fields_of_quiet quiet]
      rfl
    rw [answer_load, nothing]
    rfl
  · intro e failed
    cases answer : (load ⟨[(defaultFile, some text)]⟩ none env here).answer with
    | error e' => exact ⟨e', rfl⟩
    | ok config =>
      rw [(answer_eq_ok_iff default config).mp answer] at failed
      cases failed

/-- The file is asked for by its absolute name, on a way through another directory. -/
theorem load_answers_as_ofText_audit :
    let text := "plugins:\n- interceptor: audit\n"
    let env : Environment := [("HOME", "/root")]
    let naming : Environment := [("WEAVE_CONFIG", "/tmp/conf/../audit.yml")]
    let here : Place := ["root", "work"]
    (load ⟨[("weave.yaml", some text)]⟩ none env here).answer = .ok ⟨[⟨"audit", {}⟩], false⟩ ∧
      (load ⟨[("/tmp/conf/../audit.yml", some text)]⟩ (some "/tmp/conf/../audit.yml") env
        here).answer = .ok ⟨[⟨"audit", {}⟩], false⟩ ∧
      (load ⟨[("/tmp/conf/../audit.yml", some text)]⟩ none naming here).answer =
        .ok ⟨[⟨"audit", {}⟩], false⟩ := by
  intro text env naming here
  have named : FileSystem.NamesFile "/tmp/conf/../audit.yml" :=
    ⟨by decide +kernel, by decide +kernel⟩
  have unset : env.lookup fileVariable = none := by decide
  have set : naming.lookup fileVariable = some "/tmp/conf/../audit.yml" := by decide
  have elsewhere : FileSystem.arrival (FileSystem.route here "/tmp/conf/../audit.yml") ∉
      defaultPlaces here := by decide +kernel
  have agree := (load_answers_as_ofText unset (by decide +kernel) set (by decide +kernel) named
    elsewhere text).1
  have read : ofText text = .ok ⟨[⟨"audit", {}⟩], false⟩ := by decide +kernel
  exact ⟨((agree _ (by simp [defaultFile])).1 _).mpr read, ((agree _ (by simp)).1 _).mpr read,
    ((agree _ (by simp)).1 _).mpr read⟩

/-- A variable sets something in any case of letters, so what loading comes to may differ from
the text where no variable begins with the stem as it is usually written. -/
theorem load_differs_from_ofText :
    let env : Environment := [("weave__eager_validation", "true")]
    (∀ v ∈ env, v.1.startsWith "WEAVE" = false) ∧
      ofText "plugins: []\n" = .ok ⟨[], false⟩ ∧
      (load ⟨[("weave.yaml", some "plugins: []\n")]⟩ none env).answer = .ok ⟨[], true⟩ := by
  decide +kernel

end Configuration

end Interception
