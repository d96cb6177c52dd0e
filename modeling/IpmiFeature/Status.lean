import Mathlib.Data.Nat.Notation

/-!
# Status codes

`EfiStatus` is the `EFI_STATUS` of the sources: success, the error codes the package names, and
any other error code that a platform library may hand up.  Warnings are left out: no function of
the package returns one, and its platform libraries document success and errors only.
-/

namespace IpmiFeature

/-- `EFI_STATUS`. -/
inductive EfiStatus where
  | success
  | loadError
  | invalidParameter
  | unsupported
  | badBufferSize
  | bufferTooSmall
  | notReady
  | deviceError
  | outOfResources
  | notFound
  | timeout
  | notStarted
  | alreadyStarted
  | aborted
  | protocolError
  | notAvailableYet
  | securityViolation
  /-- Any other error code. -/
  | otherError (code : ℕ)
  deriving DecidableEq, Repr

/-- `EFI_ERROR`. -/
def EfiStatus.isError (status : EfiStatus) : Bool := status != .success

@[simp] theorem EfiStatus.isError_iff {status : EfiStatus} :
    status.isError = true ↔ status ≠ .success := by simp [isError]

@[simp] theorem EfiStatus.isError_eq_false_iff {status : EfiStatus} :
    status.isError = false ↔ status = .success := by simp [isError]

end IpmiFeature
