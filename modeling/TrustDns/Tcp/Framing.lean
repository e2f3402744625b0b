import TrustDns.Tcp.ClientConnection

/-! # The two-byte length prefix

The writable branch of `ready` frames the message with its length as two
bytes, high byte first; the readable branch decodes two bytes into a `u16`.
Decoding what was encoded gives the length modulo 2^16, so a message shorter
than 65536 bytes comes back whole from a reader of the written bytes, while a
longer one is announced with a wrapped length. Conversely, encoding a decoded
length gives back the two bytes read, so a frame read is `frame` of its payload. -/

namespace TrustDns.Tcp.Framing
open Response

theorem toNat_decodeLen (b0 b1 : UInt8) :
    (decodeLen b0 b1).toNat = (b0.toNat <<< 8 % 65536 &&& 65280) ||| (b1.toNat &&& 255) := rfl

theorem toNat_uint8_ofNat (k : Nat) : (UInt8.ofNat k).toNat = k % 256 := BitVec.toNat_ofNat ..

/-- **Decoding inverts encoding modulo 2^16**, bit by bit. -/
theorem decodeLen_lenBytes (n : Nat) :
    (decodeLen (UInt8.ofNat (n >>> 8 &&& 0xFF)) (UInt8.ofNat (n &&& 0xFF))).toNat =
      n % 65536 := by
  rw [toNat_decodeLen, toNat_uint8_ofNat, toNat_uint8_ofNat,
    show (65536 : Nat) = 2 ^ 16 from rfl, show (256 : Nat) = 2 ^ 8 from rfl]
  apply Nat.eq_of_testBit_eq
  intro j
  have h255 : (255 : Nat) = 2 ^ 8 - 1 := rfl
  have h65280 : (65280 : Nat) = (2 ^ 8 - 1) <<< 8 := rfl
  simp only [h65280, h255, Nat.testBit_or, Nat.testBit_and, Nat.testBit_mod_two_pow,
    Nat.testBit_shiftLeft, Nat.testBit_shiftRight, Nat.testBit_two_pow_sub_one]
  by_cases h8 : j < 8
  · simp [h8, show j < 16 by omega, show ¬8 ≤ j by omega]
  · by_cases h16 : j < 16
    · simp [h16, show 8 ≤ j by omega, show j - 8 < 8 by omega, show 8 + (j - 8) = j by omega]
    · simp [h8, h16]

/-- A byte has no bit at position 8 or above. -/
theorem testBit_toNat_uint8 (b : UInt8) {j : Nat} (hj : 8 ≤ j) : b.toNat.testBit j = false :=
  Nat.testBit_lt_two_pow
    (lt_of_lt_of_le b.toNat_lt_size (Nat.pow_le_pow_right (n := 2) (by omega) hj))

/-- **Encoding inverts decoding**: the length bytes of a decoded length are the two bytes read. -/
theorem lenBytes_decodeLen (b0 b1 : UInt8) : lenBytes (decodeLen b0 b1).toNat = [b0, b1] := by
  have h255 : (255 : Nat) = 2 ^ 8 - 1 := rfl
  have hd : (decodeLen b0 b1).toNat = b0.toNat <<< 8 ||| b1.toNat := by
    rw [toNat_decodeLen, show (65536 : Nat) = 2 ^ 16 from rfl]
    apply Nat.eq_of_testBit_eq
    intro j
    have h65280 : (65280 : Nat) = (2 ^ 8 - 1) <<< 8 := rfl
    simp only [h65280, h255, Nat.testBit_or, Nat.testBit_and, Nat.testBit_mod_two_pow,
      Nat.testBit_shiftLeft, Nat.testBit_two_pow_sub_one]
    by_cases h8 : j < 8
    · simp [h8, show j < 16 by omega, show ¬8 ≤ j by omega]
    · have hb1 := testBit_toNat_uint8 b1 (show 8 ≤ j by omega)
      by_cases h16 : j < 16
      · simp [h16, show 8 ≤ j by omega, show j - 8 < 8 by omega, hb1]
      · simp [h8, h16, testBit_toNat_uint8 b0 (show 8 ≤ j - 8 by omega), hb1]
  simp only [lenBytes, hd, List.cons.injEq, and_true]
  constructor <;> apply UInt8.toNat.inj <;>
    rw [toNat_uint8_ofNat, show (256 : Nat) = 2 ^ 8 from rfl] <;>
    apply Nat.eq_of_testBit_eq <;> intro j <;>
    simp only [h255, Nat.testBit_or, Nat.testBit_and, Nat.testBit_mod_two_pow,
      Nat.testBit_shiftLeft, Nat.testBit_shiftRight, Nat.testBit_two_pow_sub_one] <;>
    by_cases h8 : j < 8
  · simp [h8, testBit_toNat_uint8 b1 (show 8 ≤ 8 + j by omega)]
  · simp [h8, testBit_toNat_uint8 b0 (show 8 ≤ j by omega)]
  · simp [h8]
  · simp [h8, testBit_toNat_uint8 b1 (show 8 ≤ j by omega)]

end TrustDns.Tcp.Framing
