import Interception.Proofs.FirstFailure
import Interception.Script.Session

/-!
# What single steps of a session leave alone

Wrapping an observable and calling it report no events. Putting interceptors together and
around a target, in turn, is neither a call of the target nor one of an interceptor: of the
world it changes the number of looks at declarations and nothing else.
-/

set_option autoImplicit false

namespace Interception.Script

/-- Steps that wrap an observable without a chain, or that call one. -/
def Step.wrapsOrCalls : Step → Bool
  | wrap .. | wrapResolved .. | invoke .. | call .. | invocation .. => true
  | _ => false

theorem Session.events_perform? {s : Session} {step : Step} {report : Report}
    (done : s.perform? step = .ok report) (quiet : step.wrapsOrCalls = true) :
    report.events = [] := by
  cases step with
  | wrap target interceptor result =>
    obtain ⟨input, _, done⟩ := exists_of_bind_eq_ok done
    obtain ⟨i, _, done⟩ := exists_of_bind_eq_ok done
    cases done
    rfl
  | wrapResolved target interceptor map result =>
    obtain ⟨input, _, done⟩ := exists_of_bind_eq_ok done
    obtain ⟨i, _, done⟩ := exists_of_bind_eq_ok done
    obtain ⟨map, _, done⟩ := exists_of_bind_eq_ok done
    cases done
    rfl
  | invoke target m args =>
    obtain ⟨input, _, done⟩ := exists_of_bind_eq_ok done
    cases done
    rfl
  | call target m args kind =>
    obtain ⟨input, _, done⟩ := exists_of_bind_eq_ok done
    cases done
    rfl
  | invocation target m args pushed =>
    obtain ⟨input, _, done⟩ := exists_of_bind_eq_ok done
    cases done
    rfl
  | _ => cases quiet

theorem Session.events_perform {step : Step} (quiet : step.wrapsOrCalls = true) (s : Session) :
    (s.perform step).events = [] := by
  rw [perform]
  split
  · next report done => exact events_perform? done quiet
  · rfl

theorem World.countsOf_updateCounts (w : World) (id other : String) (f : Counts → Counts) :
    (w.updateCounts id f).countsOf other =
      if other = id then f (w.countsOf id) else w.countsOf other := by
  rw [countsOf, updateCounts, Table.get?_update]
  split
  · rfl
  · rfl

/-- The log, the targets and the number of calls of every interceptor are the same. -/
structure World.Undisturbed (w w' : World) : Prop where
  log : w'.log = w.log
  targets : w'.targets = w.targets
  calls : ∀ id, (w'.countsOf id).calls = (w.countsOf id).calls

namespace World.Undisturbed

theorem refl (w : World) : w.Undisturbed w :=
  ⟨rfl, rfl, fun _ => rfl⟩

theorem trans {u v w : World} (first : u.Undisturbed v) (second : v.Undisturbed w) :
    u.Undisturbed w where
  log := second.log.trans first.log
  targets := second.targets.trans first.targets
  calls id := (second.calls id).trans (first.calls id)

theorem countResolution (w : World) (id : String) : w.Undisturbed (w.countResolution id) := by
  refine ⟨rfl, rfl, ?_⟩
  intro other
  rw [World.countResolution, countsOf_updateCounts]
  split
  · next same => rw [same]
  · rfl

end World.Undisturbed

namespace Session

theorem undisturbed_countReadings (s : Session) (origins : List String) :
    s.world.Undisturbed (s.countReadings origins).world := by
  induction origins generalizing s with
  | nil => exact .refl s.world
  | cons id rest ih =>
    exact (World.Undisturbed.countResolution s.world id).trans (ih (s.countReadings [id]))

theorem undisturbed_keepWrapped (s : Session) (input : Held) (handle : String)
    (answer : Except PluginError (Observable World)) :
    s.world.Undisturbed (s.keepWrapped input handle answer).2.world := by
  cases answer with
  | error e => exact .refl s.world
  | ok o =>
    rw [keepWrapped]
    split <;> exact .refl s.world

end Session

/-- Steps that put interceptors into a chain or around an observable. -/
def Step.assembles : Step → Bool
  | wrap .. | wrapResolved .. | append .. | apply .. | validate .. => true
  | _ => false

theorem Session.undisturbed_perform? {s : Session} {step : Step} {report : Report}
    (done : s.perform? step = .ok report) (assembling : step.assembles = true) :
    s.world.Undisturbed report.session.world := by
  cases step with
  | wrap target interceptor result =>
    obtain ⟨input, _, done⟩ := exists_of_bind_eq_ok done
    obtain ⟨i, _, done⟩ := exists_of_bind_eq_ok done
    cases done
    exact (s.undisturbed_countReadings [i.origin]).trans
      (undisturbed_keepWrapped _ input result (input.observable.wrap i))
  | wrapResolved target interceptor map result =>
    obtain ⟨input, _, done⟩ := exists_of_bind_eq_ok done
    obtain ⟨i, _, done⟩ := exists_of_bind_eq_ok done
    obtain ⟨map, _, done⟩ := exists_of_bind_eq_ok done
    cases done
    exact s.undisturbed_keepWrapped input result (.ok (input.observable.wrapResolved i map))
  | append interceptor chain times =>
    obtain ⟨i, _, done⟩ := exists_of_bind_eq_ok done
    obtain ⟨c, _, done⟩ := exists_of_bind_eq_ok done
    cases done
    exact .refl s.world
  | apply target chain result =>
    obtain ⟨input, _, done⟩ := exists_of_bind_eq_ok done
    obtain ⟨c, _, done⟩ := exists_of_bind_eq_ok done
    cases done
    let applied := c.applyAll input.observable
    exact ((s.setChain chain applied.chain).undisturbed_countReadings
      applied.journal.origins).trans (undisturbed_keepWrapped _ input result applied.answer)
  | validate chain =>
    obtain ⟨c, _, done⟩ := exists_of_bind_eq_ok done
    cases done
    exact (s.setChain chain c.validate.chain).undisturbed_countReadings c.validate.journal.origins
  | _ => cases assembling

theorem Session.undisturbed_perform {step : Step} (assembling : step.assembles = true)
    (s : Session) : s.world.Undisturbed (s.perform step).session.world := by
  rw [perform]
  split
  · next report done => exact undisturbed_perform? done assembling
  · exact .refl s.world

end Interception.Script
