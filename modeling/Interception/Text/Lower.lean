import Interception.Text.Casing

/-!
# Small letters

Lower case for all of Unicode. One letter depends on where it stands: a capital
sigma becomes the final small sigma at the end of a word, that is when a letter
with case comes before it and none comes after it.
-/

set_option autoImplicit false

namespace Interception.Text

def LowerRun.shift? (r : LowerRun) (c : Char) : Option Char :=
  if r.first ≤ c.toNat ∧ c.toNat ≤ r.last ∧ (c.toNat - r.first) % r.stride = 0 then
    some (Char.ofNat ((c.toNat : Int) + r.shift).toNat)
  else none

/-- The small letter by itself, wherever the letter stands. -/
def lowerChar (c : Char) : Char :=
  if c.toNat < 0x80 then c.toLower else (lowerRuns.findSome? (·.shift? c)).getD c

/-- Whether the first character that is not looked through has case. -/
def startsCased (cs : List Char) : Bool :=
  match cs.dropWhile caseIgnorableRanges.has with
  | [] => false
  | c :: _ => casedRanges.has c

/-- `before` holds what precedes `cs`, last character first. -/
def lowerFrom (before : List Char) : List Char → List Char
  | [] => []
  | c :: rest =>
    let small :=
      if c = 'Σ' then [if startsCased before && !startsCased rest then 'ς' else 'σ']
      else if c = 'İ' then ['i', '\u0307']
      else [lowerChar c]
    small ++ lowerFrom (c :: before) rest

def lower (s : String) : String :=
  String.ofList (lowerFrom [] s.toList)

end Interception.Text
