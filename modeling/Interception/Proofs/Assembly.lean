import Interception.Registry
import Interception.Proofs.ChainRun

/-!
# Making the interceptors of a configuration

The settings of a configuration are met one after the other, each from the state in which the
one before it has left the world. Either all of them are met, or one is refused and those
behind it are not looked at (`makesAll_or_stops`). What a registry builds follows from which
of the two it is; nothing that an interceptor declares has a part in it.
-/

set_option autoImplicit false

namespace Interception

variable {σ κ : Type} [Kinds κ]

namespace Journal

@[simp] theorem append_empty (a : Journal) : a ++ ({} : Journal) = a := by
  change Journal.mk (a.events ++ []) (a.readings ++ []) = a
  simp

@[simp] theorem empty_append (a : Journal) : ({} : Journal) ++ a = a := rfl

theorem append_append (a b c : Journal) : a ++ b ++ c = a ++ (b ++ c) := by
  change Journal.mk (a.events ++ b.events ++ c.events) (a.readings ++ b.readings ++ c.readings) =
    Journal.mk (a.events ++ (b.events ++ c.events)) (a.readings ++ (b.readings ++ c.readings))
  simp

end Journal

/-- Entries that have not learnt anything yet. -/
def freshEntries (interceptors : List (Interceptor σ κ)) : List (ChainEntry σ κ) :=
  interceptors.map fun i => { interceptor := i }

def Chain.ofInterceptors (interceptors : List (Interceptor σ κ)) : Chain σ κ :=
  ⟨freshEntries interceptors⟩

namespace Registry

/-- The registry after registrations, the earliest of them first. -/
def ofRegistrations (entries : List (String × Factory σ κ)) : Registry σ κ :=
  entries.foldl (fun r entry => r.register entry.1 entry.2) {}

/-- No registration under `name` comes behind that of `f`. -/
def LastRegistered (entries : List (String × Factory σ κ)) (name : String) (f : Factory σ κ) :
    Prop :=
  ∃ earlier later, entries = earlier ++ (name, f) :: later ∧ ∀ entry ∈ later, entry.1 ≠ name

theorem foldl_register (entries : List (String × Factory σ κ)) (r : Registry σ κ) :
    (entries.foldl (fun r entry => r.register entry.1 entry.2) r).factories =
      entries.reverse ++ r.factories := by
  induction entries generalizing r with
  | nil => rfl
  | cons entry rest ih =>
    rw [List.foldl_cons, ih]
    simp [register]

theorem find?_ofRegistrations (entries : List (String × Factory σ κ)) (name : String) :
    (ofRegistrations entries).find? name = entries.reverse.lookup name := by
  rw [find?, ofRegistrations, foldl_register]
  simp

theorem find?_eq_some_iff {entries : List (String × Factory σ κ)} {name : String}
    {f : Factory σ κ} :
    (ofRegistrations entries).find? name = some f ↔ LastRegistered entries name f := by
  rw [find?_ofRegistrations, List.lookup_eq_some_iff]
  constructor
  · rintro ⟨later, earlier, split, others⟩
    refine ⟨earlier.reverse, later.reverse, ?_, ?_⟩
    · simpa using List.reverse_eq_append_iff.mp split
    · intro entry inside
      have other := others entry (List.mem_reverse.mp inside)
      exact fun same => (bne_iff_ne.mp other) same.symm
  · rintro ⟨earlier, later, rfl, others⟩
    refine ⟨later.reverse, earlier.reverse, by simp, ?_⟩
    intro entry inside
    have other := others entry (List.mem_reverse.mp inside)
    exact bne_iff_ne.mpr fun same => other same.symm

variable {r : Registry σ κ}

/-- The factory found for the setting hands over an instance, which is configured once with
the properties of the setting, and `i` is what comes of it. -/
def Makes (r : Registry σ κ) (setting : PluginSetting) (s : σ) (i : Interceptor σ κ) (t : σ) :
    Prop :=
  ∃ f, r.find? setting.interceptor = some f ∧
    (f s).1.configure setting.properties (f s).2 = (.ok i, t)

/-- No factory is found for the setting, and none is run; or the instance that the factory
hands over cannot be configured with the properties of the setting. -/
def Refuses (r : Registry σ κ) (setting : PluginSetting) (s : σ) (e : PluginError) (t : σ) : Prop :=
  (r.find? setting.interceptor = none ∧ e = .unknownInterceptor setting.interceptor ∧ t = s) ∨
  ∃ f, r.find? setting.interceptor = some f ∧
    (f s).1.configure setting.properties (f s).2 = (.error e, t)

theorem create_eq_ok_iff {setting : PluginSetting} {s t : σ} {i : Interceptor σ κ} :
    r.create setting.interceptor setting.properties s = (.ok i, t) ↔ r.Makes setting s i t := by
  rw [create, Makes]
  cases found : r.find? setting.interceptor with
  | none => simp
  | some f => simp

theorem create_eq_error_iff {setting : PluginSetting} {s t : σ} {e : PluginError} :
    r.create setting.interceptor setting.properties s = (.error e, t) ↔
      r.Refuses setting s e t := by
  rw [create, Refuses]
  cases found : r.find? setting.interceptor with
  | none => simp [eq_comm]
  | some f => simp

/-- All settings are met, in order. -/
inductive MakesAll (r : Registry σ κ) :
    List PluginSetting → σ → List (Interceptor σ κ) → σ → Prop where
  | nil (s : σ) : MakesAll r [] s [] s
  | cons {setting : PluginSetting} {rest : List PluginSetting} {s t u : σ} {i : Interceptor σ κ}
      {made : List (Interceptor σ κ)} :
      r.Makes setting s i t → MakesAll r rest t made u →
      MakesAll r (setting :: rest) s (i :: made) u

/-- The settings before one are met, and this one is refused. -/
inductive Stops (r : Registry σ κ) :
    List PluginSetting → σ → List (Interceptor σ κ) → PluginError → σ → Prop where
  | at {before : List PluginSetting} {setting : PluginSetting} {s t u : σ}
      {made : List (Interceptor σ κ)} {e : PluginError} (after : List PluginSetting) :
      r.MakesAll before s made t → r.Refuses setting t e u →
      Stops r (before ++ setting :: after) s made e u

theorem Stops.cons {setting : PluginSetting} {rest : List PluginSetting} {s t u : σ}
    {i : Interceptor σ κ} {made : List (Interceptor σ κ)} {e : PluginError}
    (first : r.Makes setting s i t) (stops : r.Stops rest t made e u) :
    r.Stops (setting :: rest) s (i :: made) e u := by
  obtain ⟨after, met, refused⟩ := stops
  exact .at after (.cons first met) refused

theorem makesAll_or_stops (r : Registry σ κ) (plugins : List PluginSetting) (s : σ) :
    (∃ made t, r.MakesAll plugins s made t) ∨ ∃ made e t, r.Stops plugins s made e t := by
  induction plugins generalizing s with
  | nil => exact .inl ⟨[], s, .nil s⟩
  | cons setting rest ih =>
    rcases created : r.create setting.interceptor setting.properties s with ⟨e | i, t⟩
    · have stops : r.Stops ([] ++ setting :: rest) s [] e t :=
        .at rest (.nil s) (create_eq_error_iff.mp created)
      exact .inr ⟨[], e, t, stops⟩
    · have first := create_eq_ok_iff.mp created
      rcases ih t with ⟨made, u, met⟩ | ⟨made, e, u, stops⟩
      · exact .inl ⟨i :: made, u, .cons first met⟩
      · exact .inr ⟨i :: made, e, u, stops.cons first⟩

/-- What is reported of settings that are met, the first of them at `position` in the
chain. -/
def acceptance (position : Nat) : List PluginSetting → List (Interceptor σ κ) → List Event
  | setting :: rest, i :: made =>
    .registered setting.interceptor setting.properties.size :: .appending i.name position ::
      acceptance (position + 1) rest made
  | _, _ => []

def accepted (plugins : List PluginSetting) (made : List (Interceptor σ κ)) : Journal :=
  { events := acceptance 0 plugins made }

theorem acceptance_append {before : List PluginSetting} {made : List (Interceptor σ κ)}
    (sameLength : made.length = before.length) (position : Nat) (after : List PluginSetting) :
    acceptance position (before ++ after) made = acceptance position before made := by
  induction before generalizing position made with
  | nil =>
    obtain rfl := List.length_eq_zero_iff.mp sameLength
    cases after <;> rfl
  | cons setting rest ih =>
    cases made with
    | nil => cases sameLength
    | cons i made =>
      rw [List.cons_append, acceptance, acceptance, ih (Nat.succ.inj sameLength)]

theorem MakesAll.length_eq {plugins : List PluginSetting} {s t : σ}
    {made : List (Interceptor σ κ)} (met : r.MakesAll plugins s made t) :
    made.length = plugins.length := by
  induction met with
  | nil s => rfl
  | cons _ _ ih => exact congrArg (· + 1) ih

/-- Settings that are met leave their instances at the end of the chain. -/
theorem assemble_append {before : List PluginSetting} {s t : σ}
    {made : List (Interceptor σ κ)} (met : r.MakesAll before s made t)
    (rest : List PluginSetting) (c : Chain σ κ) :
    r.assemble (before ++ rest) c s =
      { r.assemble rest ⟨c.entries ++ freshEntries made⟩ t with
        journal := { events := acceptance c.length before made } ++
          (r.assemble rest ⟨c.entries ++ freshEntries made⟩ t).journal } := by
  induction met generalizing c with
  | nil s => simp [freshEntries, acceptance]
  | @cons setting others s t u i made first _ ih =>
    have entries : (c.append i).1.entries ++ freshEntries made =
        c.entries ++ freshEntries (i :: made) := by
      simp [freshEntries]
    have place : (c.append i).1.length = c.length + 1 := c.length_append i
    rw [List.cons_append, assemble, create_eq_ok_iff.mpr first]
    dsimp only
    rw [ih, entries, place, ← Journal.append_append]
    rfl

section

variable {plugins : List PluginSetting} {s t : σ} {made : List (Interceptor σ κ)}

theorem assemble_of_makesAll (met : r.MakesAll plugins s made t) :
    r.assemble plugins {} s =
      ⟨.ok (Chain.ofInterceptors made), t, accepted plugins made⟩ := by
  have assembled := assemble_append met [] {}
  rw [List.append_nil] at assembled
  rw [assembled, assemble, Journal.append_empty]
  rfl

theorem assemble_of_stops {e : PluginError} (stops : r.Stops plugins s made e t) :
    r.assemble plugins {} s = ⟨.error e, t, accepted plugins made⟩ := by
  obtain @⟨before, setting, s, reached, t, made, e, after, met, refused⟩ := stops
  rw [assemble_append met, assemble, create_eq_error_iff.mpr refused, accepted,
    acceptance_append met.length_eq]
  exact congrArg (BuildResult.mk _ _) (Journal.append_empty _)

theorem build_of_stops {e : PluginError} (stops : r.Stops plugins s made e t) (eager : Bool) :
    r.build ⟨plugins, eager⟩ s = ⟨.error e, t, accepted plugins made⟩ := by
  rw [build, assemble_of_stops stops]

theorem build_lazy (met : r.MakesAll plugins s made t) :
    r.build ⟨plugins, false⟩ s =
      ⟨.ok (Chain.ofInterceptors made), t, accepted plugins made⟩ := by
  rw [build, assemble_of_makesAll met]
  rfl

theorem build_eager (met : r.MakesAll plugins s made t) :
    r.build ⟨plugins, true⟩ s =
      ⟨(Chain.ofInterceptors made).validate.answer.map fun _ =>
          (Chain.ofInterceptors made).validate.chain,
        t, accepted plugins made ++ (Chain.ofInterceptors made).validate.journal⟩ := by
  rw [build, assemble_of_makesAll met]
  rfl

end

end Registry

end Interception
