import MeshTalk.Library.BigEndian

namespace MeshTalk.Library

/-! # Base64 in texts of UTF-16 code units

One encoder with padding, and two decoders that are laxer in different ways.
Neither decoder is asked whether its input is canonical: clients encode the
result again and compare.
-/

/-- A text as its UTF-16 code units, unpaired surrogates included. -/
abbrev Text := List UInt16

/-- The code units of a text that stays in the basic plane. -/
def Text.ofString (text : String) : Text := text.toList.map fun char => UInt16.ofNat char.toNat

namespace Base64

def pad : UInt16 := 61

def digit (value : Nat) : UInt16 :=
  if value < 26 then UInt16.ofNat (65 + value)
  else if value < 52 then UInt16.ofNat (71 + value)
  else if value < 62 then UInt16.ofNat (value - 4)
  else if value = 62 then 43
  else 47

def digitValue? (code : UInt16) : Option Nat :=
  if 65 ≤ code ∧ code ≤ 90 then some (code.toNat - 65)
  else if 97 ≤ code ∧ code ≤ 122 then some (code.toNat - 71)
  else if 48 ≤ code ∧ code ≤ 57 then some (code.toNat + 4)
  else if code = 43 then some 62
  else if code = 47 then some 63
  else none

/-- The digits of the URL alphabet as well. -/
def lenientValue? (code : UInt16) : Option Nat :=
  if code = 45 then some 62
  else if code = 95 then some 63
  else digitValue? code

def sextets : Bytes → List Nat
  | [] => []
  | [first] => [first.toNat / 4, first.toNat % 4 * 16]
  | [first, second] =>
      [first.toNat / 4, first.toNat % 4 * 16 + second.toNat / 16, second.toNat % 16 * 4]
  | first :: second :: third :: rest =>
      first.toNat / 4 :: (first.toNat % 4 * 16 + second.toNat / 16) ::
        (second.toNat % 16 * 4 + third.toNat / 64) :: third.toNat % 64 :: sextets rest

def padding (bytes : Bytes) : Text := List.replicate ((3 - bytes.length % 3) % 3) pad

def encode (bytes : Bytes) : Text := (sextets bytes).map digit ++ padding bytes

/-- What is left over after the last group of four is cut down to whole bytes. -/
def ofSextets : List Nat → Bytes
  | first :: second :: third :: fourth :: rest =>
      UInt8.ofNat (first * 4 + second / 16) :: UInt8.ofNat (second % 16 * 16 + third / 4) ::
        UInt8.ofNat (third % 4 * 64 + fourth) :: ofSextets rest
  | [first, second, third] => [UInt8.ofNat (first * 4 + second / 16), UInt8.ofNat (second % 16 * 16 + third / 4)]
  | [first, second] => [UInt8.ofNat (first * 4 + second / 16)]
  | _ => []

/-- Stops at the padding and skips what is not in the alphabet, as a buffer does. -/
def decodeBuffer (text : Text) : Bytes :=
  ofSextets ((text.takeWhile fun code => code ≠ pad).filterMap lenientValue?)

def isSpace (code : UInt16) : Bool := code = 9 || code = 10 || code = 12 || code = 13 || code = 32

def dropPad (text : Text) : Text :=
  match text.reverse with
  | code :: rest => if code = pad then rest.reverse else text
  | [] => text

/-- The forgiving decoding of the web. -/
def atob (text : Text) : Option Bytes :=
  let visible := text.filter fun code => !isSpace code
  let bare := if visible.length % 4 = 0 then dropPad (dropPad visible) else visible
  if bare.length % 4 = 1 then none
  else (bare.mapM digitValue?).map ofSextets

/-! ## Reading back what was written -/

variable {bytes : Bytes}

theorem digit_reads {value : Nat} (small : value < 64) :
    digitValue? (digit value) = some value ∧ lenientValue? (digit value) = some value ∧
      digit value ≠ pad ∧ isSpace (digit value) = false := by
  have checked : ∀ value : Fin 64,
      digitValue? (digit value) = some value.val ∧ lenientValue? (digit value) = some value.val ∧
        digit value ≠ pad ∧ isSpace (digit value) = false := by decide +kernel
  exact checked ⟨value, small⟩

theorem sextets_small : ∀ value ∈ sextets bytes, value < 64 := by
  fun_induction sextets bytes with
  | case1 => simp
  | case2 first =>
      have bound := first.toNat_lt
      simp only [List.mem_cons, List.not_mem_nil, or_false, forall_eq_or_imp, forall_eq]
      omega
  | case3 first second =>
      have bounds := And.intro first.toNat_lt second.toNat_lt
      simp only [List.mem_cons, List.not_mem_nil, or_false, forall_eq_or_imp, forall_eq]
      omega
  | case4 first second third rest ih =>
      have bounds := And.intro first.toNat_lt (And.intro second.toNat_lt third.toNat_lt)
      simp only [List.mem_cons, forall_eq_or_imp]
      exact ⟨by omega, by omega, by omega, by omega, ih⟩

theorem byte_of_parts {byte : UInt8} {value : Nat} (same : value = byte.toNat) : UInt8.ofNat value = byte := by
  rw [same, UInt8.ofNat_toNat]

theorem ofSextets_sextets : ofSextets (sextets bytes) = bytes := by
  fun_induction sextets bytes with
  | case1 => rfl
  | case2 first =>
      simp only [ofSextets, List.cons.injEq, and_true]
      exact byte_of_parts (by omega)
  | case3 first second =>
      have bounds := And.intro first.toNat_lt second.toNat_lt
      simp only [ofSextets, List.cons.injEq, and_true]
      exact ⟨byte_of_parts (by omega), byte_of_parts (by omega)⟩
  | case4 first second third rest ih =>
      have bounds := And.intro first.toNat_lt (And.intro second.toNat_lt third.toNat_lt)
      simp only [ofSextets, ih, List.cons.injEq, and_true]
      exact ⟨byte_of_parts (by omega), byte_of_parts (by omega), byte_of_parts (by omega)⟩

/-- Encoding fills whole groups of four. -/
theorem encode_length : ((sextets bytes).length + (padding bytes).length) % 4 = 0 ∧
    (sextets bytes).length % 4 ≠ 1 := by
  fun_induction sextets bytes with
  | case1 => simp [padding]
  | case2 first => simp [padding]
  | case3 first second => simp [padding]
  | case4 first second third rest ih =>
      have same : (padding (first :: second :: third :: rest)).length = (padding rest).length := by
        simp only [padding, List.length_replicate, List.length_cons]
        omega
      rw [same]
      simp only [List.length_cons]
      omega

theorem decodeBuffer_encode : decodeBuffer (encode bytes) = bytes := by
  have digits : ∀ code ∈ (sextets bytes).map digit, decide (code ≠ pad) = true := by
    intro code member
    obtain ⟨value, listed, rfl⟩ := List.mem_map.mp member
    exact decide_eq_true (digit_reads (sextets_small value listed)).2.2.1
  have stops : (padding bytes).takeWhile (fun code => decide (code ≠ pad)) = [] := by
    unfold padding
    cases (3 - bytes.length % 3) % 3 with
    | zero => rfl
    | succ count => simp [List.replicate_succ]
  have read : (encode bytes).takeWhile (fun code => decide (code ≠ pad)) = (sextets bytes).map digit := by
    rw [encode, List.takeWhile_append_of_pos digits, stops, List.append_nil]
  have values : ∀ values : List Nat, (∀ value ∈ values, value < 64) → (values.map digit).filterMap lenientValue? = values := by
    intro values small
    induction values with
    | nil => rfl
    | cons value rest ih =>
        have head := (digit_reads (small value (List.mem_cons_self ..))).2.1
        have tail := ih fun other member => small other (List.mem_cons_of_mem _ member)
        simp [head, tail]
  rw [decodeBuffer, read, values _ sextets_small, ofSextets_sextets]

theorem dropPad_digits {values : List Nat} (small : ∀ value ∈ values, value < 64) :
    dropPad (values.map digit) = values.map digit := by
  cases last : (values.map digit).reverse with
  | nil => simp [dropPad, last]
  | cons code rest =>
      have member : code ∈ values.map digit := by
        rw [← List.mem_reverse, last]
        exact List.mem_cons_self ..
      obtain ⟨value, listed, rfl⟩ := List.mem_map.mp member
      simp [dropPad, last, (digit_reads (small value listed)).2.2.1]

theorem dropPad_pad {text : Text} : dropPad (text ++ [pad]) = text := by
  simp [dropPad]

/-- At most two pads follow the digits, and both are dropped. -/
theorem dropPad_encode : dropPad (dropPad (encode bytes)) = (sextets bytes).map digit := by
  have plain := dropPad_digits (@sextets_small bytes)
  have count : (3 - bytes.length % 3) % 3 = 0 ∨ (3 - bytes.length % 3) % 3 = 1 ∨ (3 - bytes.length % 3) % 3 = 2 := by omega
  rcases count with none | one | two
  · rw [encode, padding, none, List.replicate_zero, List.append_nil, plain, plain]
  · rw [encode, padding, one, List.replicate_one, dropPad_pad, plain]
  · rw [encode, padding, two, List.replicate_succ', ← List.append_assoc, dropPad_pad, List.replicate_one, dropPad_pad]

theorem atob_encode : atob (encode bytes) = some bytes := by
  have visible : (encode bytes).filter (fun code => !isSpace code) = encode bytes := by
    refine List.filter_eq_self.mpr ?_
    intro code member
    rcases List.mem_append.mp member with digits | pads
    · obtain ⟨value, listed, rfl⟩ := List.mem_map.mp digits
      simp [(digit_reads (sextets_small value listed)).2.2.2]
    · rw [List.eq_of_mem_replicate pads]
      decide
  obtain ⟨whole, possible⟩ := @encode_length bytes
  have length : (encode bytes).length % 4 = 0 := by
    simpa [encode] using whole
  have values : ((sextets bytes).map digit).mapM digitValue? = some (sextets bytes) := by
    rw [List.mapM_map]
    have each : ∀ values : List Nat, (∀ value ∈ values, value < 64) →
        values.mapM (digitValue? ∘ digit) = some values := by
      intro values small
      induction values with
      | nil => rfl
      | cons value rest ih =>
          have head := (digit_reads (small value (List.mem_cons_self ..))).1
          have tail := ih fun other member => small other (List.mem_cons_of_mem _ member)
          simp [List.mapM_cons, head, tail]
    exact each _ sextets_small
  simp only [atob, visible, length, if_true, dropPad_encode, List.length_map, possible, if_false, values,
    Option.map_some, ofSextets_sextets]

/-- Both decoders agree on a text that is canonical for either. -/
theorem atob_canonical {text : Text} (canonical : encode (decodeBuffer text) = text) :
    atob text = some (decodeBuffer text) := by
  rw [← atob_encode, canonical]

theorem decodeBuffer_canonical {text : Text} (canonical : encode bytes = text) : decodeBuffer text = bytes := by
  rw [← canonical, decodeBuffer_encode]

end Base64

end MeshTalk.Library
