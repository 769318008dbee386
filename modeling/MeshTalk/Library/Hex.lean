import MeshTalk.Library.BigEndian

namespace MeshTalk.Library

/-- What holds of the characters of a text is decided along the text. -/
instance (priority := 2000) decidableCharacters {p : Char → Prop} [DecidablePred p] (text : List Char) :
    Decidable (∀ char, char ∈ text → p char) :=
  List.decidableBAll p text

instance (priority := 2000) decidableCharacter {p : Char → Prop} [DecidablePred p] (found : Option Char) :
    Decidable (∀ char, char ∈ found → p char) :=
  decidable_of_iff (∀ char, char ∈ found.toList → p char)
    (forall_congr' fun _ => imp_congr_left Option.mem_toList)

/-! # Hexadecimal text

Writing is lowercase without separators; reading also takes uppercase digits
and skips ASCII white space between bytes.
-/

namespace Hex

def digit (value : Nat) : Char :=
  if value < 10 then Char.ofNat (48 + value) else Char.ofNat (87 + value)

def digitValue? (char : Char) : Option Nat :=
  let code := char.toNat
  if 48 ≤ code ∧ code ≤ 57 then some (code - 48)
  else if 97 ≤ code ∧ code ≤ 102 then some (code - 87)
  else if 65 ≤ code ∧ code ≤ 70 then some (code - 55)
  else none

def isAsciiSpace (char : Char) : Bool := char.toNat = 32 || (9 ≤ char.toNat && char.toNat ≤ 13)

def digits : Bytes → List Char
  | [] => []
  | byte :: rest => digit (byte.toNat / 16) :: digit (byte.toNat % 16) :: digits rest

def ofDigits : List Char → Option Bytes
  | [] => some []
  | high :: rest =>
      if isAsciiSpace high then ofDigits rest
      else match rest with
        | [] => none
        | low :: later => do
            let upper ← digitValue? high
            let lower ← digitValue? low
            let bytes ← ofDigits later
            some (UInt8.ofNat (16 * upper + lower) :: bytes)

def toText (bytes : Bytes) : String := String.ofList (digits bytes)

def ofText (text : String) : Option Bytes := ofDigits text.toList

theorem digit_reads {value : Nat} (small : value < 16) :
    digitValue? (digit value) = some value ∧ isAsciiSpace (digit value) = false := by
  have checked : ∀ value : Fin 16,
      digitValue? (digit value) = some value.val ∧ isAsciiSpace (digit value) = false := by decide
  exact checked ⟨value, small⟩

theorem ofDigits_digits {bytes : Bytes} : ofDigits (digits bytes) = some bytes := by
  induction bytes with
  | nil => rfl
  | cons byte rest ih =>
      have bound := byte.toNat_lt
      obtain ⟨upper, visible⟩ := digit_reads (show byte.toNat / 16 < 16 by omega)
      obtain ⟨lower, -⟩ := digit_reads (show byte.toNat % 16 < 16 by omega)
      have whole : UInt8.ofNat (16 * (byte.toNat / 16) + byte.toNat % 16) = byte := by
        rw [show 16 * (byte.toNat / 16) + byte.toNat % 16 = byte.toNat by omega, UInt8.ofNat_toNat]
      simp only [digits, ofDigits, visible, upper, lower, ih, whole, Bool.false_eq_true, if_false,
        Option.bind_eq_bind, Option.bind_some]

/-- Reading back what was written gives the same bytes. -/
theorem ofText_toText {bytes : Bytes} : ofText (toText bytes) = some bytes := by
  simp [ofText, toText, ofDigits_digits]

end Hex

end MeshTalk.Library
