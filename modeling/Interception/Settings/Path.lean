import Interception.Number.Integer

/-!
# Paths

A key may be a path into nested settings: a name, then names behind points and
indices in brackets. What cannot be read as a path is a name as it stands.
-/

set_option autoImplicit false

namespace Interception.Settings

inductive PathStep where
  | name (name : String)
  | index (index : Int)
  deriving DecidableEq

/-- The first step of a path is always a name. -/
abbrev Path := List PathStep

namespace Path

def isNameChar (c : Char) : Bool :=
  c.isAlphanum || c == ' ' || c == '_' || c == '-'

def isBlank (c : Char) : Bool := c == ' ' || c == '\t'

/-- A minus and digits, the number being one of 64 bits. -/
def readIndex? (cs : List Char) : Option Int :=
  match cs with
  | '-' :: digits =>
    if digits.all Char.isDigit then (Number.readSigned 10 ('-' :: digits)).toOption else none
  | digits => if digits.all Char.isDigit then (Number.readSigned 10 digits).toOption else none

def trimBlanks (cs : List Char) : List Char :=
  ((cs.dropWhile isBlank).reverse.dropWhile isBlank).reverse

def readSteps? (cs : List Char) : Option Path :=
  match _ : cs with
  | [] => some []
  | '.' :: rest =>
    if (rest.takeWhile isNameChar).isEmpty then none
    else (readSteps? (rest.dropWhile isNameChar)).map
      (.name (String.ofList (rest.takeWhile isNameChar)) :: ·)
  | '[' :: rest =>
    match _ : rest.dropWhile (· != ']') with
    | [] => none
    | _ :: tail =>
      match readIndex? (trimBlanks (rest.takeWhile (· != ']'))) with
      | none => none
      | some index => (readSteps? tail).map (.index index :: ·)
  | _ => none
termination_by cs.length
decreasing_by
  · have := (List.dropWhile_sublist (p := isNameChar) (l := rest)).length_le
    simp
    omega
  · rename_i h
    have := (List.dropWhile_sublist (p := (· != ']')) (l := rest)).length_le
    simp_all
    omega

def read? (key : String) : Option Path :=
  let cs := key.toList
  let name := cs.takeWhile isNameChar
  if name.isEmpty then none
  else (readSteps? (cs.dropWhile isNameChar)).map (.name (String.ofList name) :: ·)

def ofKey (key : String) : Path :=
  (read? key).getD [.name key]

end Path

end Interception.Settings
