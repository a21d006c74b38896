import Delegation.Json.Basic

/-!
# Windows and deadlines

The remote side is told how long it may take in whole seconds, rounded up and at least one. The
transport allows a margin beyond the window that the remote side was given, so that an answer
"still running" is not cut off. Both are computed on words of 64 bits without overflow.
-/

namespace Delegation.Remote

def safetyMarginMs : Nat := 2000

/-- The transport deadline for a call that may take `ms`; the greatest word if that is beyond it. -/
def withMargin (ms : UInt64) : UInt64 := UInt64.ofNat (min wordMax (ms.toNat + safetyMarginMs))

/-- Milliseconds in whole seconds, rounded up, one at least. -/
def windowSeconds (ms : UInt64) : UInt64 := UInt64.ofNat (max 1 ((ms.toNat + 999) / 1000))

theorem toNat_withMargin (ms : UInt64) :
    (withMargin ms).toNat = min wordMax (ms.toNat + safetyMarginMs) := by
  simp only [withMargin, UInt64.toNat_ofNat']
  apply Nat.mod_eq_of_lt
  unfold wordMax safetyMarginMs
  omega

theorem toNat_windowSeconds (ms : UInt64) :
    (windowSeconds ms).toNat = max 1 ((ms.toNat + 999) / 1000) := by
  simp only [windowSeconds, UInt64.toNat_ofNat']
  apply Nat.mod_eq_of_lt
  have := ms.toNat_lt
  omega

end Delegation.Remote
