/-!
# Short circuits

A row and its background share a short circuit.  It counts the steps that did not pass, and while
it has counted any, the steps that follow are skipped.
-/

namespace FeatureRunner

/-- A short circuit, with its count of steps that did not pass. -/
structure ShortCircuit where
  count : Int
deriving DecidableEq, Repr

namespace ShortCircuit

def idle : ShortCircuit := ⟨0⟩

def armed (circuit : ShortCircuit) : Bool := circuit.count > 0

/-- The short circuit after a step that did not pass. -/
def arm (circuit : ShortCircuit) : ShortCircuit := ⟨circuit.count + 1⟩

end ShortCircuit

end FeatureRunner
