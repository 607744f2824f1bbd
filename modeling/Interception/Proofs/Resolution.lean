import Interception.Proofs.FirstFailure
import Interception.Signature

/-!
# What resolving declarations yields

A map that resolving returns files exactly the methods that the signatures find, each
under the name of the interface of its signature. Everything later said about layers is
said about signatures through these facts.
-/

set_option autoImplicit false

namespace Interception

theorem Signature.resolve_eq_ok_iff {s : Signature} {owner : String} {route : String × Method} :
    s.resolve owner = .ok route ↔ s.interface.name = route.1 ∧ s.find? = some route.2 := by
  obtain ⟨name, m⟩ := route
  cases found : s.find? with
  | none => simp [Signature.resolve, found]
  | some m' => simp [Signature.resolve, found]

theorem Signature.exists_resolve_eq_ok_iff {s : Signature} {owner : String} :
    (∃ route, s.resolve owner = .ok route) ↔ ∃ m, s.find? = some m := by
  constructor
  · rintro ⟨route, resolved⟩
    exact ⟨route.2, (resolve_eq_ok_iff.mp resolved).2⟩
  · rintro ⟨m, found⟩
    exact ⟨(s.interface.name, m), resolve_eq_ok_iff.mpr ⟨rfl, found⟩⟩

theorem Signature.resolve_eq_error_iff {s : Signature} {owner : String} {e : PluginError} :
    s.resolve owner = .error e ↔ s.find? = none ∧
      e = .methodNotFound owner s.interface.name s.method (paramText s.params) := by
  cases found : s.find? with
  | none => simp [Signature.resolve, found, eq_comm]
  | some m => simp [Signature.resolve, found]

namespace SignatureMap

variable {owner : String} {signatures : List Signature} {map : SignatureMap}

theorem resolve_eq_foldLooked (owner : String) (signatures : List Signature) :
    resolve owner signatures =
      foldLooked (Signature.resolve owner) (fun _ route map => map.insert route) signatures {} :=
  rfl

theorem exists_resolve_eq_ok_iff :
    (∃ map, resolve owner signatures = .ok map) ↔ ∀ s ∈ signatures, ∃ m, s.find? = some m := by
  rw [resolve_eq_foldLooked, exists_foldLooked_eq_ok_iff]
  simp only [Signature.exists_resolve_eq_ok_iff]

theorem resolve_eq_error_iff {e : PluginError} :
    resolve owner signatures = .error e ↔ FirstFailure (Signature.resolve owner) signatures e := by
  rw [resolve_eq_foldLooked, foldLooked_eq_error_iff]

theorem mem_routes_of_foldLooked {start : SignatureMap} {route : String × Method}
    (resolved : foldLooked (Signature.resolve owner) (fun _ route map => map.insert route)
      signatures start = .ok map) :
    route ∈ map.routes ↔
      route ∈ start.routes ∨ ∃ s ∈ signatures, s.resolve owner = .ok route := by
  induction signatures generalizing start with
  | nil =>
    cases resolved
    simp
  | cons s rest ih =>
    cases looked : s.resolve owner with
    | error e =>
      rw [foldLooked_cons_of_error _ looked] at resolved
      cases resolved
    | ok own =>
      rw [foldLooked_cons_of_ok _ looked] at resolved
      rw [ih resolved, mem_routes_insert, or_assoc]
      simp [looked, eq_comm]

/-- The routes of a resolved map are what its signatures find. -/
theorem mem_routes_iff (resolved : resolve owner signatures = .ok map) {name : String}
    {m : Method} : (name, m) ∈ map.routes ↔
      ∃ s ∈ signatures, s.interface.name = name ∧ s.find? = some m := by
  rw [mem_routes_of_foldLooked resolved]
  simp [Signature.resolve_eq_ok_iff]

theorem intercepts_iff (resolved : resolve owner signatures = .ok map) {name : String}
    {m : Method} : map.intercepts name m = true ↔
      ∃ s ∈ signatures, s.interface.name = name ∧ s.find? = some m := by
  rw [← mem_routes_iff resolved, intercepts, List.contains_iff_mem]

/-- A name is covered as soon as one signature declares it, for no signature of a
resolved map is without a method. -/
theorem covers_iff (resolved : resolve owner signatures = .ok map) {name : String} :
    map.covers name = true ↔ ∃ s ∈ signatures, s.interface.name = name := by
  rw [covers, List.any_eq_true]
  constructor
  · rintro ⟨⟨n, m⟩, filed, named⟩
    obtain ⟨s, declared, own, _⟩ := (mem_routes_iff resolved).mp filed
    rw [beq_iff_eq] at named
    exact ⟨s, declared, own.trans named⟩
  · rintro ⟨s, declared, named⟩
    obtain ⟨m, found⟩ := exists_resolve_eq_ok_iff.mp ⟨map, resolved⟩ s declared
    exact ⟨(name, m), (mem_routes_iff resolved).mpr ⟨s, declared, named, found⟩, beq_self_eq_true _⟩

end SignatureMap

end Interception
