import Mathlib.Data.Nat.Notation

/-! # Faults -/

namespace WebXEngine

/-- What can stop a program: the exception of the overflow test of a buffer, an access that leaves
the memory behind a buffer, the use of a null object or of one that was deleted, or a recursion that
is deeper than the stack. -/
inductive Fault
  | overflow (offset dataSize bufferLength : ℕ)
  | outOfBounds
  | nullDereference
  | freedObject
  | stackOverflow
  deriving DecidableEq, Repr

end WebXEngine
