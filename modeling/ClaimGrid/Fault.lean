/-!
# Kinds of failure

Every failure belongs to one of five kinds, and the kind alone says whether asking again can help.

## Main definitions

* `FaultKind`: what went wrong, coarsely.
* `FaultKind.isRetriable`: whether the same request may succeed later.
-/

namespace ClaimGrid

/-- The kind of a failure. -/
inductive FaultKind where
  /-- The arguments can never be accepted. -/
  | validation
  /-- The arguments clash with the present state. -/
  | conflict
  /-- A bounded search ended without a hit. -/
  | retriesExhausted
  /-- A setting is out of range or cannot be read. -/
  | configuration
  /-- The receiving side is closed or too slow. -/
  | unavailable
  deriving DecidableEq

/-- Clashes and exhausted searches depend on the state, so the same request may succeed later. -/
def FaultKind.isRetriable : FaultKind → Bool
  | conflict | retriesExhausted => true
  | validation | configuration | unavailable => false

end ClaimGrid
