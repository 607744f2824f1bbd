import Interception.Table

/-!
# The world of scripted objects

Scripted targets and interceptors write lines to a log and are counted. What a
target stores is its own.
-/

set_option autoImplicit false

namespace Interception.Script

structure TargetState where
  calls : Nat := 0
  stored : Option String := none
  deriving Inhabited

/-- Counted over all instances of a definition. The first instance exists from the start. -/
structure Counts where
  created : Nat := 1
  configured : Nat := 0
  resolutions : Nat := 0
  calls : Nat := 0
  deriving Inhabited

structure World where
  log : Array String := #[]
  targets : Table TargetState := {}
  counts : Table Counts := {}

namespace World

def say (line : String) (w : World) : World :=
  { w with log := w.log.push line }

def target (w : World) (id : String) : TargetState :=
  (w.targets.get? id).getD {}

def updateTarget (id : String) (f : TargetState → TargetState) (w : World) : World :=
  { w with targets := Table.update id {} f w.targets }

def countsOf (w : World) (id : String) : Counts :=
  (w.counts.get? id).getD {}

def updateCounts (id : String) (f : Counts → Counts) (w : World) : World :=
  { w with counts := Table.update id {} f w.counts }

def countCreated (id : String) : World → World :=
  updateCounts id fun c => { c with created := c.created + 1 }

def countConfigured (id : String) : World → World :=
  updateCounts id fun c => { c with configured := c.configured + 1 }

def countResolution (id : String) : World → World :=
  updateCounts id fun c => { c with resolutions := c.resolutions + 1 }

def countCall (id : String) : World → World :=
  updateCounts id fun c => { c with calls := c.calls + 1 }

end World

end Interception.Script
