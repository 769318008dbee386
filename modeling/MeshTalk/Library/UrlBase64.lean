import MeshTalk.Library.Base64

namespace MeshTalk.Library

/-! # Base64 in the URL alphabet

The encoder leaves the padding off, and the decoder puts it back.  The decoder is lax:
it takes the digits of both alphabets, skips what is no digit, and stops at padding
that completes a group.
-/

namespace UrlBase64

def digit (value : Nat) : Char :=
  if value < 26 then Char.ofNat (65 + value)
  else if value < 52 then Char.ofNat (71 + value)
  else if value < 62 then Char.ofNat (value - 4)
  else if value = 62 then '-'
  else '_'

def digitValue? (char : Char) : Option Nat :=
  let code := char.toNat
  if 65 ≤ code ∧ code ≤ 90 then some (code - 65)
  else if 97 ≤ code ∧ code ≤ 122 then some (code - 71)
  else if 48 ≤ code ∧ code ≤ 57 then some (code + 4)
  else if char = '+' ∨ char = '-' then some 62
  else if char = '/' ∨ char = '_' then some 63
  else none

/-- The values of the digits, from a position in a group and a count of pads seen there. -/
def scan : List Char → Nat → Nat → Option (List Nat)
  | [], position, _ => if position = 0 then some [] else none
  | char :: rest, position, pads =>
      if char = '=' then
        if position < 2 then scan rest position pads
        else if 4 ≤ position + (pads + 1) then some []
        else scan rest position (pads + 1)
      else match digitValue? char with
        | none => scan rest position pads
        | some value => (scan rest ((position + 1) % 4) 0).map fun values => value :: values

def encode (bytes : Bytes) : List Char := (Base64.sextets bytes).map digit

def padded (text : List Char) : List Char := text ++ List.replicate ((4 - text.length % 4) % 4) '='

/-- Undefined where the library function raises. -/
def decode (text : List Char) : Option Bytes :=
  if text.all fun char => char.toNat < 128 then (scan (padded text) 0 0).map Base64.ofSextets else none

variable {bytes : Bytes} {rest : List Char} {value position pads : Nat}

theorem digit_reads (small : value < 64) : digitValue? (digit value) = some value ∧ digit value ≠ '=' ∧
    digit value ≠ '.' ∧ (digit value).toNat < 128 := by
  have checked : ∀ value : Fin 64, digitValue? (digit value) = some value.val ∧ digit value ≠ '=' ∧
      digit value ≠ '.' ∧ (digit value).toNat < 128 := by decide +kernel
  exact checked ⟨value, small⟩

theorem scan_digit (small : value < 64) :
    scan (digit value :: rest) position pads = (scan rest ((position + 1) % 4) 0).map fun values => value :: values := by
  obtain ⟨reads, other, -⟩ := digit_reads small
  rw [scan, if_neg other, reads]

theorem mem_encode {char : Char} (member : char ∈ encode bytes) : char ≠ '.' ∧ char.toNat < 128 := by
  obtain ⟨value, listed, rfl⟩ := List.mem_map.mp member
  exact (digit_reads (Base64.sextets_small value listed)).2.2

/-- The padding completes the last group. -/
theorem scan_sextets :
    scan ((Base64.sextets bytes).map digit ++ List.replicate ((4 - (Base64.sextets bytes).length % 4) % 4) '=') 0 0 =
      some (Base64.sextets bytes) := by
  have small := @Base64.sextets_small bytes
  fun_induction Base64.sextets bytes with
  | case1 => rfl
  | case2 first =>
      simp only [List.mem_cons, List.not_mem_nil, or_false, forall_eq_or_imp, forall_eq] at small
      simp only [List.map_cons, List.map_nil, List.cons_append, List.nil_append, scan_digit small.1, scan_digit small.2]
      rfl
  | case3 first second =>
      simp only [List.mem_cons, List.not_mem_nil, or_false, forall_eq_or_imp, forall_eq] at small
      simp only [List.map_cons, List.map_nil, List.cons_append, List.nil_append, scan_digit small.1, scan_digit small.2.1,
        scan_digit small.2.2]
      rfl
  | case4 first second third rest ih =>
      simp only [List.mem_cons, forall_eq_or_imp] at small
      have count : ∀ values : List Nat, (values.length + 1 + 1 + 1 + 1) % 4 = values.length % 4 := fun values => by omega
      simp only [List.map_cons, List.cons_append, List.length_cons, count, scan_digit small.1, scan_digit small.2.1,
        scan_digit small.2.2.1, scan_digit small.2.2.2.1]
      rw [ih small.2.2.2.2]
      rfl

/-- What was encoded is read back. -/
theorem decode_encode : decode (encode bytes) = some bytes := by
  have ascii : (encode bytes).all (fun char => char.toNat < 128) = true :=
    List.all_eq_true.mpr fun char member => decide_eq_true (mem_encode member).2
  have length : (encode bytes).length = (Base64.sextets bytes).length := List.length_map ..
  have read : scan (padded (encode bytes)) 0 0 = some (Base64.sextets bytes) := by
    rw [padded, length]
    exact scan_sextets
  rw [decode, if_pos ascii, read, Option.map_some, Base64.ofSextets_sextets]

end UrlBase64

end MeshTalk.Library
