import Mathlib.Data.Nat.Bitwise
import Mathlib.Tactic.Common

/-!
# Lengths in two bytes

A 16-bit number packed low byte first and read back.
-/

namespace SolidSyslog.Lib

/-- The two length bytes read back as the length they were made of. -/
theorem unpack_length {n : Nat} (_ : n ≤ 65535) :
    (UInt8.ofNat (n &&& 0xFF)).toNat ||| ((UInt8.ofNat ((n >>> 8) &&& 0xFF)).toNat <<< 8) = n := by
  have hlow : (UInt8.ofNat (n &&& 0xFF)).toNat = n % 256 := by
    rw [UInt8.toNat_ofNat', Nat.and_two_pow_sub_one_eq_mod n 8]
    omega
  have hhigh : (UInt8.ofNat ((n >>> 8) &&& 0xFF)).toNat = n / 256 := by
    rw [UInt8.toNat_ofNat', Nat.and_two_pow_sub_one_eq_mod (n >>> 8) 8, Nat.shiftRight_eq_div_pow]
    omega
  rw [hlow, hhigh, Nat.lor_comm, ← Nat.shiftLeft_add_eq_or_of_lt (by omega), Nat.shiftLeft_eq]
  omega

end SolidSyslog.Lib
