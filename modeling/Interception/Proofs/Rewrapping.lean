import Interception.Proofs.Narrowing
import Interception.Proofs.Preorder

/-!
# Wrapping again

A layer lists the covered ones of the interfaces that a walk finds below it. The layer above
walks from these, so that it meets them in another order than the walk below did. Of the
interfaces that were covered it keeps the order all the same: whatever it meets on the way
through the hierarchy of a covered interface, the walk below has met there too. Where names
are unique, a second layer of interfaces that the first one covers lists what it would have
listed without it.
-/

set_option autoImplicit false

namespace Interception

variable {σ κ : Type} [Kinds κ]

namespace Interface

variable {p : String → Bool}

/-- The interfaces whose names `p` holds of. -/
def choose (p : String → Bool) (interfaces : List Interface) : List Interface :=
  interfaces.filter (p ·.name)

theorem mem_choose_iff {interfaces : List Interface} {i : Interface} :
    i ∈ choose p interfaces ↔ i ∈ interfaces ∧ p i.name = true :=
  List.mem_filter

theorem choose_append (first second : List Interface) :
    choose p (first ++ second) = choose p first ++ choose p second :=
  List.filter_append first second

theorem choose_cons_of_pos {i : Interface} (chosen : p i.name = true) (rest : List Interface) :
    choose p (i :: rest) = i :: choose p rest :=
  List.filter_cons_of_pos chosen

theorem choose_cons_of_neg {i : Interface} (left : ¬p i.name = true) (rest : List Interface) :
    choose p (i :: rest) = choose p rest :=
  List.filter_cons_of_neg left

theorem lists_choose {interfaces : List Interface} {name : String} (chosen : p name = true) :
    Lists (choose p interfaces) name ↔ Lists interfaces name := by
  constructor
  · rintro ⟨i, inside, named⟩
    exact ⟨i, (mem_choose_iff.mp inside).1, named⟩
  · rintro ⟨i, inside, rfl⟩
    exact ⟨i, mem_choose_iff.mpr ⟨inside, chosen⟩, rfl⟩

theorem choose_note_of_pos {seen : List Interface} {i : Interface} (chosen : p i.name = true) :
    choose p (note seen i) = note (choose p seen) i := by
  by_cases known : Lists seen i.name
  · rw [note_of_lists known, note_of_lists ((lists_choose chosen).mpr known)]
  · have fresh : ¬Lists (choose p seen) i.name := fun listed =>
      known ((lists_choose chosen).mp listed)
    rw [note_of_not_lists known, note_of_not_lists fresh, choose_append,
      choose_cons_of_pos chosen]
    rfl

theorem choose_note_of_neg {seen : List Interface} {i : Interface} (left : ¬p i.name = true) :
    choose p (note seen i) = choose p seen := by
  by_cases known : Lists seen i.name
  · rw [note_of_lists known]
  · rw [note_of_not_lists known, choose_append, choose_cons_of_neg left]
    exact List.append_nil _

/-- Only names decide what is noted, so that a choice among names may be made first. -/
theorem choose_noteAll (seen interfaces : List Interface) :
    choose p (noteAll seen interfaces) = noteAll (choose p seen) (choose p interfaces) := by
  induction interfaces generalizing seen with
  | nil => rfl
  | cons i rest ih =>
    rw [noteAll_cons, ih]
    by_cases chosen : p i.name = true
    · rw [choose_note_of_pos chosen, choose_cons_of_pos chosen, noteAll_cons]
    · rw [choose_note_of_neg chosen, choose_cons_of_neg chosen]

theorem noteAll_choose_hierarchies_of {roots : List Interface}
    (each : ∀ i ∈ roots, ∀ seen,
      noteAll seen (choose p (hierarchies (choose p i.hierarchy))) =
        noteAll seen (choose p i.hierarchy))
    (seen : List Interface) :
    noteAll seen (choose p (hierarchies (choose p (hierarchies roots)))) =
      noteAll seen (choose p (hierarchies roots)) := by
  induction roots generalizing seen with
  | nil => rfl
  | cons i rest ih =>
    simp only [hierarchies, choose_append, hierarchies_append, noteAll_append]
    rw [each i List.mem_cons_self,
      ih fun k inside => each k (List.mem_cons_of_mem i inside)]

/-- Laying out the hierarchies of what was chosen from a hierarchy shows nothing new before
its turn. -/
theorem noteAll_choose_hierarchy (i : Interface) (seen : List Interface) :
    noteAll seen (choose p (hierarchies (choose p i.hierarchy))) =
      noteAll seen (choose p i.hierarchy) := by
  induction i using induction_supers generalizing seen with
  | step i above =>
    by_cases chosen : p i.name = true
    · -- The hierarchy of `i` comes first and holds everything that is laid out after it.
      have split : choose p (hierarchies (choose p i.hierarchy)) =
          choose p i.hierarchy ++ choose p (hierarchies (choose p (hierarchies i.supers))) := by
        rw [hierarchy_eq i, choose_cons_of_pos chosen, hierarchies, choose_append, hierarchy_eq i,
          choose_cons_of_pos chosen]
      rw [split, noteAll_append]
      apply noteAll_of_lists
      intro k inside
      obtain ⟨laid, kept⟩ := mem_choose_iff.mp inside
      obtain ⟨j, among, further⟩ := mem_hierarchies_iff.mp laid
      have supers : j ∈ i.hierarchy := by
        rw [hierarchy_eq]
        exact List.mem_cons_of_mem i (mem_choose_iff.mp among).1
      have own : k ∈ i.hierarchy := mem_hierarchy_iff.mpr
        ((mem_hierarchy_iff.mp supers).trans (mem_hierarchy_iff.mp further))
      exact lists_noteAll.mpr (.inr ⟨k, mem_choose_iff.mpr ⟨own, kept⟩, rfl⟩)
    · rw [hierarchy_eq, choose_cons_of_neg chosen]
      exact noteAll_choose_hierarchies_of above seen

theorem noteAll_choose_hierarchies (roots seen : List Interface) :
    noteAll seen (choose p (hierarchies (choose p (hierarchies roots)))) =
      noteAll seen (choose p (hierarchies roots)) :=
  noteAll_choose_hierarchies_of (fun i _ => noteAll_choose_hierarchy i) seen

/-- Where a name stands for one interface, a later occurrence of it lays out nothing new. -/
theorem noteAll_choose_hierarchies_noteAll (seen interfaces : List Interface)
    (unique : ∀ i ∈ seen ++ interfaces, ∀ j ∈ seen ++ interfaces, i.name = j.name → i = j) :
    noteAll [] (choose p (hierarchies (noteAll seen interfaces))) =
      noteAll [] (choose p (hierarchies (seen ++ interfaces))) := by
  induction interfaces generalizing seen with
  | nil =>
    rw [List.append_nil]
    rfl
  | cons i rest ih =>
    rw [noteAll_cons]
    by_cases known : Lists seen i.name
    · obtain ⟨k, inside, named⟩ := known
      obtain rfl : k = i := unique k (List.mem_append_left _ inside) i
        (List.mem_append_right _ List.mem_cons_self) named
      have again : noteAll (noteAll [] (choose p (hierarchies seen))) (choose p k.hierarchy) =
          noteAll [] (choose p (hierarchies seen)) := by
        apply noteAll_of_lists
        intro j laid
        obtain ⟨above, kept⟩ := mem_choose_iff.mp laid
        have before : j ∈ choose p (hierarchies seen) :=
          mem_choose_iff.mpr ⟨mem_hierarchies_iff.mpr ⟨k, inside, above⟩, kept⟩
        exact lists_noteAll.mpr (.inr ⟨j, before, rfl⟩)
      have fewer : seen ++ rest ⊆ seen ++ k :: rest :=
        ((List.sublist_cons_self k rest).append_left seen).subset
      rw [note_of_lists ⟨k, inside, rfl⟩,
        ih seen fun a first b second => unique a (fewer first) b (fewer second)]
      simp only [hierarchies_append, hierarchies, choose_append, noteAll_append, again]
    · rw [note_of_not_lists known]
      have same : seen ++ i :: rest = seen ++ [i] ++ rest := by simp
      rw [same] at unique ⊢
      exact ih (seen ++ [i]) unique

/-- Choosing from a walk and choosing again from a walk over the chosen ones is choosing once. -/
theorem noteAll_choose_again {roots : List Interface} (unique : UniqueNames roots) :
    noteAll [] (choose p (hierarchies (noteAll [] (choose p (hierarchies roots))))) =
      noteAll [] (choose p (hierarchies roots)) := by
  have distinct : ∀ i ∈ [] ++ choose p (hierarchies roots),
      ∀ j ∈ [] ++ choose p (hierarchies roots), i.name = j.name → i = j := by
    intro i first j second
    exact uniqueNames_iff.mp unique i (mem_choose_iff.mp first).1 j (mem_choose_iff.mp second).1
  calc noteAll [] (choose p (hierarchies (noteAll [] (choose p (hierarchies roots)))))
      = noteAll [] (choose p (hierarchies (choose p (hierarchies roots)))) :=
        noteAll_choose_hierarchies_noteAll [] _ distinct
    _ = noteAll [] (choose p (hierarchies roots)) := noteAll_choose_hierarchies roots []

end Interface

open Interface

section

variable {l : Layer σ κ} {d : TypeDescriptor}

theorem SignatureMap.covered_eq_noteAll {map : SignatureMap} (unique : UniqueNames d.declared) :
    map.covered d = noteAll [] (choose map.covers (hierarchies d.declared)) := by
  change choose map.covers d.allInterfaces = _
  rw [TypeDescriptor.allInterfaces_eq_noteAll unique, choose_noteAll]
  rfl

/-- What a layer covers it would cover again, in the same order. -/
theorem Layer.covered_describe (unique : UniqueNames d.declared) :
    l.signatures.covered (l.describe d) = l.signatures.covered d := by
  rw [SignatureMap.covered_eq_noteAll (uniqueNames_describe unique), declared_describe,
    SignatureMap.covered_eq_noteAll unique, noteAll_choose_again unique]

/-- A map that covers no more than a layer does covers the same above it as below it. -/
theorem SignatureMap.covered_describe_of_covers {map : SignatureMap}
    (unique : UniqueNames d.declared)
    (within : ∀ name, d.realizes name = true → map.covers name = true →
      l.signatures.covers name = true) : map.covered (l.describe d) = map.covered d := by
  have absorbed : ∀ e : TypeDescriptor, (∀ j ∈ e.allInterfaces, d.realizes j.name = true) →
      map.covered e = (l.signatures.covered e).filter (map.covers ·.name) := by
    intro e below
    rw [covered, covered, List.filter_filter]
    apply List.filter_congr
    intro j listed
    cases covers : map.covers j.name with
    | false => rfl
    | true => rw [within j.name (below j listed) covers, Bool.and_true]
  rw [absorbed d fun j listed => TypeDescriptor.realizes_iff.mpr ⟨j, listed, rfl⟩, absorbed,
    Layer.covered_describe unique]
  intro j listed
  exact Layer.realizes_of_realizes_describe unique
    (TypeDescriptor.realizes_iff.mpr ⟨j, listed, rfl⟩)

end

namespace Observable

variable {o : Observable σ κ} {l : Layer σ κ}

theorem allInterfaces_wear_congr {p : Observable σ κ}
    (same : l.signatures.covered o.descriptor = l.signatures.covered p.descriptor) :
    (o.wear l).descriptor.allInterfaces = (p.wear l).descriptor.allInterfaces := by
  simp only [descriptor_wear, TypeDescriptor.allInterfaces, Layer.declared_describe, same]

/-- An interceptor that is put around an observable again and again adds a layer each time,
and all of these cover the same. -/
theorem exists_foldlM_wrap_replicate (resolved : l.interceptor.resolve = .ok l.signatures)
    (unique : UniqueNames o.descriptor.declared) {s : Signature}
    (declared : s ∈ l.interceptor.signatures)
    (realized : o.descriptor.realizes s.interface.name = true) (n : Nat) :
    ∃ p : Observable σ κ, (List.replicate (n + 1) l.interceptor).foldlM wrap o = .ok (p.wear l) ∧
      p.depth = o.depth + n ∧ l.signatures.covered p.descriptor =
        l.signatures.covered o.descriptor := by
  have wrapped : o.wrap l.interceptor = .ok (o.wear l) :=
    wrap_of_realizes resolved declared realized
  induction n generalizing o with
  | zero => exact ⟨o, foldlM_wrap_cons wrapped [], rfl, rfl⟩
  | succ n ih =>
    have above : l.signatures.covered (o.wear l).descriptor = l.signatures.covered o.descriptor :=
      Layer.covered_describe unique
    have realized' : (o.wear l).descriptor.realizes s.interface.name = true :=
      Layer.realizes_describe_of_declared resolved declared realized
    have unique' : UniqueNames (o.wear l).descriptor.declared := Layer.uniqueNames_describe unique
    obtain ⟨p, folded, depth, same⟩ :=
      ih unique' realized' (wrap_of_realizes resolved declared realized')
    refine ⟨p, ?_, ?_, same.trans above⟩
    · rw [List.replicate_succ, foldlM_wrap_cons wrapped, folded]
    · rw [depth, depth_wear]
      omega

/-- Wrapping again is stable. Around a wrapper that covers whatever the next interceptor
declares of what is below, the next wrapper lists what it would list without it, in the same
order; so an interceptor that is put around its own wrappers lists the same at every layer. -/
theorem rewrap_lists_same {i j : Interceptor σ κ} {map map' : SignatureMap}
    (resolved : i.resolve = .ok map) (resolved' : j.resolve = .ok map')
    (unique : UniqueNames o.descriptor.declared)
    (within : ∀ s ∈ j.signatures, o.descriptor.realizes s.interface.name = true →
      ∃ t ∈ i.signatures, t.interface.name = s.interface.name)
    (realized : ∃ s ∈ j.signatures, o.descriptor.realizes s.interface.name = true) :
    ∃ p q r, o.wrap i = .ok p ∧ p.wrap j = .ok q ∧ o.wrap j = .ok r ∧
      p.depth = o.depth + 1 ∧ q.depth = o.depth + 2 ∧ r.depth = o.depth + 1 ∧
      q.descriptor.interfaces = r.descriptor.interfaces ∧
      q.descriptor.allInterfaces = r.descriptor.allInterfaces ∧
      ∀ n, ∃ w, (List.replicate (n + 1) j).foldlM wrap o = .ok w ∧
        w.depth = o.depth + (n + 1) ∧
        w.descriptor.interfaces = r.descriptor.interfaces ∧
        w.descriptor.allInterfaces = r.descriptor.allInterfaces := by
  obtain ⟨s, declared, below⟩ := realized
  obtain ⟨t, declared', named⟩ := within s declared below
  have first : o.wrap i = .ok (o.wear ⟨i, map⟩) :=
    wrap_of_realizes resolved declared' (named ▸ below)
  have alone : o.wrap j = .ok (o.wear ⟨j, map'⟩) := wrap_of_realizes resolved' declared below
  have covered : map'.covered (o.wear ⟨i, map⟩).descriptor = map'.covered o.descriptor := by
    apply SignatureMap.covered_describe_of_covers unique
    intro name known covers
    obtain ⟨s, declared, rfl⟩ := (SignatureMap.covers_iff resolved').mp covers
    exact (SignatureMap.covers_iff resolved).mpr (within s declared known)
  have kept : (o.wear ⟨i, map⟩).descriptor.realizes s.interface.name = true := by
    rw [← named] at below ⊢
    exact Layer.realizes_describe_of_declared resolved declared' below
  refine ⟨_, _, _, first, wrap_of_realizes resolved' declared kept, alone, rfl, rfl, rfl, covered,
    allInterfaces_wear_congr covered, ?_⟩
  intro n
  obtain ⟨p, folded, depth, same⟩ :=
    exists_foldlM_wrap_replicate (l := ⟨j, map'⟩) resolved' unique declared below n
  refine ⟨_, folded, ?_, same, allInterfaces_wear_congr same⟩
  rw [depth_wear, depth, Nat.add_assoc]

end Observable

section

open Tracing

def Tracing.auditable : Interface := ⟨"Auditable", [], [closeable]⟩

/-- Reaches `Closeable` along two ways, and first along the one that leads past no executor. -/
def Tracing.ledger : Interface := ⟨"Ledger", [], [auditable, executor]⟩

def Tracing.bookkeeper : Target (List Mark) :=
  { worker with descriptor := ⟨⟨"Bookkeeper", [ledger]⟩, []⟩ }

theorem Tracing.uniqueNames_bookkeeper : UniqueNames bookkeeper.descriptor.declared := by
  refine uniqueNames_of_subset [ledger, auditable, executor, closeable] ?_ (by decide)
  change [ledger, auditable, closeable, executor, closeable] ⊆ _
  simp

/-- The first layer keeps the ledger and what it extends on either way. -/
theorem Observable.rewrap_lists_same_bookkeeper :
    ∃ p q r, (ofTarget bookkeeper).wrap (tracer "A" [⟨ledger, "close", []⟩, ⟨executor, "close", []⟩,
        ⟨closeable, "close", []⟩]) = .ok p ∧
      p.wrap (tracer "B" [⟨executor, "close", []⟩, ⟨closeable, "close", []⟩]) = .ok q ∧
      (ofTarget bookkeeper).wrap (tracer "B" [⟨executor, "close", []⟩, ⟨closeable, "close", []⟩]) =
        .ok r ∧
      q.descriptor.interfaces = r.descriptor.interfaces ∧
      r.descriptor.interfaces = [closeable, executor] := by
  obtain ⟨p, q, r, first, second, alone, _, _, _, same, _⟩ :=
    rewrap_lists_same (o := ofTarget bookkeeper)
      (i := tracer "A" [⟨ledger, "close", []⟩, ⟨executor, "close", []⟩, ⟨closeable, "close", []⟩])
      (j := tracer "B" [⟨executor, "close", []⟩, ⟨closeable, "close", []⟩])
      rfl rfl uniqueNames_bookkeeper (by decide) (by decide)
  refine ⟨p, q, r, first, second, alone, same, ?_⟩
  cases alone
  rfl

end

end Interception
