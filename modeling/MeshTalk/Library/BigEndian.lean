import Mathlib.Algebra.GroupWithZero.Nat

namespace MeshTalk.Library

/-! # Fixed-width big-endian integers

`toBytes width value` is the network byte order encoding used by packed
headers; values beyond the width are truncated to their low bytes, so clients
state the bound where they need the round trip.
-/

abbrev Bytes := List UInt8

namespace BigEndian

def toBytes : Nat → Nat → Bytes
  | 0, _ => []
  | width + 1, value => toBytes width (value / 256) ++ [UInt8.ofNat (value % 256)]

def ofBytes (bytes : Bytes) : Nat := bytes.foldl (fun total byte => total * 256 + byte.toNat) 0

@[simp] theorem toBytes_length {width value : Nat} : (toBytes width value).length = width := by
  induction width generalizing value with
  | zero => rfl
  | succ width ih => simp [toBytes, ih]

theorem ofBytes_append_byte {bytes : Bytes} {byte : UInt8} :
    ofBytes (bytes ++ [byte]) = ofBytes bytes * 256 + byte.toNat := by
  simp [ofBytes]

theorem ofBytes_toBytes {width value : Nat} (bound : value < 256 ^ width) :
    ofBytes (toBytes width value) = value := by
  induction width generalizing value with
  | zero =>
      have zero : value = 0 := by simpa using bound
      subst value
      rfl
  | succ width ih =>
      have smaller : value / 256 < 256 ^ width :=
        Nat.div_lt_of_lt_mul (by rw [Nat.pow_succ] at bound; omega)
      rw [toBytes, ofBytes_append_byte, ih smaller, UInt8.toNat_ofNat']
      have low : value % 256 % 2 ^ 8 = value % 256 := Nat.mod_mod_of_dvd _ (by decide)
      rw [low]
      omega

end BigEndian

end MeshTalk.Library
