import Interception.Number.Binary64
import Interception.Number.Integer
import Interception.Yaml.Token

/-!
# Nodes

The content of a document. A plain scalar is what it looks like; a quoted one and
a block are text.
-/

set_option autoImplicit false

namespace Interception.Yaml

open Number

/-- A number that is no integer keeps its text. A scalar that contradicts its tag is
`invalid`. -/
inductive Node where
  | null
  | boolean (b : Bool)
  | integer (n : Int)
  | real (text : String)
  | text (s : String)
  | sequence (items : List Node)
  | mapping (pairs : List (Node × Node))
  | invalid

namespace Node

mutual

def same : Node → Node → Bool
  | null, null => true
  | boolean a, boolean b => a == b
  | integer a, integer b => a == b
  | real a, real b => a == b
  | text a, text b => a == b
  | sequence a, sequence b => sameItems a b
  | mapping a, mapping b => samePairs a b
  | invalid, invalid => true
  | _, _ => false

def sameItems : List Node → List Node → Bool
  | [], [] => true
  | a :: as, b :: bs => same a b && sameItems as bs
  | _, _ => false

/-- The order of the pairs counts. -/
def samePairs : List (Node × Node) → List (Node × Node) → Bool
  | [], [] => true
  | (k, v) :: as, (l, w) :: bs => same k l && same v w && samePairs as bs
  | _, _ => false

end

mutual

theorem same_iff (a b : Node) : same a b = true ↔ a = b := by
  match a with
  | null => cases b <;> simp [same]
  | boolean _ => cases b <;> simp [same]
  | integer _ => cases b <;> simp [same]
  | real _ => cases b <;> simp [same]
  | text _ => cases b <;> simp [same]
  | invalid => cases b <;> simp [same]
  | sequence as =>
    cases b with
    | sequence bs => rw [same, sameItems_iff as bs, sequence.injEq]
    | _ => simp [same]
  | mapping as =>
    cases b with
    | mapping bs => rw [same, samePairs_iff as bs, mapping.injEq]
    | _ => simp [same]

theorem sameItems_iff (as bs : List Node) : sameItems as bs = true ↔ as = bs := by
  match as, bs with
  | [], [] => simp [sameItems]
  | [], _ :: _ => simp [sameItems]
  | _ :: _, [] => simp [sameItems]
  | a :: as, b :: bs =>
    rw [sameItems, Bool.and_eq_true, same_iff a b, sameItems_iff as bs, List.cons.injEq]

theorem samePairs_iff (as bs : List (Node × Node)) : samePairs as bs = true ↔ as = bs := by
  match as, bs with
  | [], [] => simp [samePairs]
  | [], _ :: _ => simp [samePairs]
  | _ :: _, [] => simp [samePairs]
  | (k, v) :: as, (l, w) :: bs =>
    rw [samePairs, Bool.and_eq_true, Bool.and_eq_true, same_iff k l, same_iff v w,
      samePairs_iff as bs, List.cons.injEq, Prod.mk.injEq]

end

instance : DecidableEq Node := fun a b => decidable_of_iff _ (same_iff a b)

def isInvalid : Node → Bool
  | invalid => true
  | _ => false

/-- The ways to write infinity and no number, beside those of `Binary64.read?`. -/
def specialReals : List String :=
  [".inf", ".Inf", ".INF", "+.inf", "+.Inf", "+.INF", "-.inf", "-.Inf", "-.INF",
    ".nan", "NaN", ".NAN"]

def isReal (s : String) : Bool :=
  specialReals.contains s || (Binary64.read? s).isSome

def integer? (base : Nat) (cs : List Char) : Option Int :=
  (readSigned base cs).toOption

/-- An integer behind `0x`, `0o` or a plus. -/
def markedInteger? (s : String) : Option Int :=
  match s.toList with
  | '0' :: 'x' :: digits => integer? 16 digits
  | '0' :: 'o' :: digits => integer? 8 digits
  | '+' :: digits => integer? 10 digits
  | _ => none

def ofPlain (s : String) : Node :=
  match markedInteger? s with
  | some n => integer n
  | none =>
    if s = "~" ∨ s = "null" then null
    else if s = "true" then boolean true
    else if s = "false" then boolean false
    else match integer? 10 s.toList with
      | some n => integer n
      | none => if isReal s then real s else text s

/-- A tag in force: what its handle expands to, and its suffix. -/
structure Tag where
  expansion : String
  suffix : String
  deriving DecidableEq, Inhabited

/-- What `!!` expands to unless a directive says otherwise. -/
def coreExpansion : String := "tag:yaml.org,2002:"

/-- The tags of booleans, integers, reals and null are obeyed; under any other tag a
scalar is text. -/
def ofTagged (tag : Tag) (s : String) : Node :=
  if tag.expansion ≠ coreExpansion then text s
  else match tag.suffix with
    | "bool" =>
      if s = "true" then boolean true else if s = "false" then boolean false else invalid
    | "int" => match integer? 10 s.toList with
      | some n => integer n
      | none => invalid
    | "float" => if isReal s then real s else invalid
    | "null" => if s = "~" ∨ s = "null" then null else invalid
    | _ => text s

def ofScalar (style : ScalarStyle) (tag : Option Tag) (s : String) : Node :=
  match style, tag with
  | .plain, none => ofPlain s
  | .plain, some tag => ofTagged tag s
  | _, _ => text s

end Node

end Interception.Yaml
