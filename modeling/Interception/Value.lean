/-!
# Values

Arguments and results carry their kind. Different kinds are different types: a
value is read back as the kind it was made with or not at all. Which kinds there
are is left open; `Kind` is the choice where nothing else is said.
-/

set_option autoImplicit false

namespace Interception

/-- Kinds of values, which can be told apart: what the values of each are, and under which name a
message speaks of it. Kinds that differ may go by the same name. -/
class Kinds (κ : Type) where
  decidableEq : DecidableEq κ
  Carrier : κ → Type
  typeName : κ → String

attribute [reducible, instance] Kinds.decidableEq

inductive Kind where
  | text
  | signed
  | unsigned
  | size
  | flag
  | unit
  | texts
  | numbers
  deriving DecidableEq, Inhabited

namespace Kind

abbrev Carrier : Kind → Type
  | text => String
  | signed => Int64
  | unsigned => UInt64
  | size => UInt64
  | flag => Bool
  | unit => Unit
  | texts => List String
  | numbers => List Int64

/-- The name under which a message speaks of the kind. -/
def typeName : Kind → String
  | text => "alloc::string::String"
  | signed => "i64"
  | unsigned => "u64"
  | size => "usize"
  | flag => "bool"
  | unit => "()"
  | texts => "alloc::vec::Vec<alloc::string::String>"
  | numbers => "alloc::vec::Vec<i64>"

end Kind

instance : Kinds Kind where
  decidableEq := inferInstance
  Carrier := Kind.Carrier
  typeName := Kind.typeName

instance (k : Kind) : DecidableEq (Kinds.Carrier k) :=
  match k with
  | .text => inferInstanceAs (DecidableEq String)
  | .signed => inferInstanceAs (DecidableEq Int64)
  | .unsigned => inferInstanceAs (DecidableEq UInt64)
  | .size => inferInstanceAs (DecidableEq UInt64)
  | .flag => inferInstanceAs (DecidableEq Bool)
  | .unit => inferInstanceAs (DecidableEq Unit)
  | .texts => inferInstanceAs (DecidableEq (List String))
  | .numbers => inferInstanceAs (DecidableEq (List Int64))

structure Value (κ : Type := Kind) [Kinds κ] where
  kind : κ
  content : Kinds.Carrier kind

namespace Value

instance : Inhabited Value := ⟨⟨.unit, ()⟩⟩

def ofText (s : String) : Value := ⟨.text, s⟩
def ofSigned (n : Int64) : Value := ⟨.signed, n⟩
def ofUnsigned (n : UInt64) : Value := ⟨.unsigned, n⟩
def ofSize (n : UInt64) : Value := ⟨.size, n⟩
def ofFlag (b : Bool) : Value := ⟨.flag, b⟩
def ofUnit : Value := ⟨.unit, ()⟩
def ofTexts (ss : List String) : Value := ⟨.texts, ss⟩

section

variable {κ : Type} [Kinds κ]

instance [∀ k : κ, DecidableEq (Kinds.Carrier k)] : DecidableEq (Value κ)
  | ⟨k, x⟩, ⟨l, y⟩ =>
    if same : k = l then
      have alike : same ▸ x = y ↔ (⟨k, x⟩ : Value κ) = ⟨l, y⟩ := by
        cases same
        simp
      decidable_of_decidable_of_iff alike
    else isFalse fun equal => same (congrArg kind equal)

/-- The content, if the value is of kind `k`. -/
def as? (v : Value κ) (k : κ) : Option (Kinds.Carrier k) :=
  if h : v.kind = k then some (h ▸ v.content) else none

@[simp] theorem as?_mk (k : κ) (x : Kinds.Carrier k) : (Value.mk k x).as? k = some x := by
  simp [as?]

theorem as?_isSome {v : Value κ} {k : κ} : (v.as? k).isSome = true ↔ v.kind = k := by
  unfold as?
  split <;> simp_all

theorem as?_eq_some {v : Value κ} {k : κ} {x : Kinds.Carrier k} :
    v.as? k = some x ↔ v = ⟨k, x⟩ := by
  constructor
  · intro h
    obtain ⟨kind, content⟩ := v
    unfold as? at h
    split at h
    · rename_i e
      cases e
      simp_all
    · simp at h
  · rintro rfl
    simp

end

end Value

end Interception
