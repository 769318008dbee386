namespace MeshTalk.Library

/-! # Texts over code points and over code units

One language takes a text apart by code points and another by UTF-16 code units.
A scanner that only tests for ASCII characters sees the same text either way, but
for how many units a character beyond ASCII takes.
-/

/-- A unit of text, with the ASCII character it is, if it is one. -/
class TextUnit (α : Type) where
  ascii? : α → Option Char

instance : TextUnit Char where
  ascii? char := if char.toNat < 128 then some char else none

instance : TextUnit UInt16 where
  ascii? unit := if unit.toNat < 128 then some (Char.ofNat unit.toNat) else none

/-- The code units of a character; two of them beyond the first plane. -/
def utf16Units (char : Char) : List UInt16 :=
  if char.toNat < 0x10000 then [UInt16.ofNat char.toNat]
  else [UInt16.ofNat (0xd800 + (char.toNat - 0x10000) / 0x400), UInt16.ofNat (0xdc00 + (char.toNat - 0x10000) % 0x400)]

def utf16 (text : List Char) : List UInt16 := text.flatMap utf16Units

/-- A unit takes the place of one that shows no ASCII character, or of the same one. -/
inductive Shown [TextUnit α] [TextUnit β] : List α → List β → Prop where
  | nil : Shown [] []
  | ascii {first : α} {second : β} {rest : List α} {others : List β} {char : Char}
      (left : TextUnit.ascii? first = some char) (right : TextUnit.ascii? second = some char)
      (later : Shown rest others) : Shown (first :: rest) (second :: others)
  | other {first : α} {units : List β} {rest : List α} {others : List β} (left : TextUnit.ascii? first = none)
      (present : units ≠ []) (right : ∀ unit ∈ units, TextUnit.ascii? unit = none)
      (later : Shown rest others) : Shown (first :: rest) (units ++ others)

theorem ascii?_char {char : Char} (small : char.toNat < 128) : TextUnit.ascii? char = some char := if_pos small

theorem toNat_unit {code : Nat} (small : code < 0x10000) : (UInt16.ofNat code).toNat = code := by
  rw [UInt16.toNat_ofNat']
  exact Nat.mod_eq_of_lt small

theorem ascii?_unit_of_large {code : Nat} (large : 128 ≤ code) (small : code < 0x10000) :
    TextUnit.ascii? (UInt16.ofNat code) = none :=
  if_neg (by rw [toNat_unit small]; exact Nat.not_lt.mpr large)

theorem shown_utf16 {text : List Char} : Shown text (utf16 text) := by
  induction text with
  | nil => exact .nil
  | cons char rest ih =>
      change Shown (char :: rest) (utf16Units char ++ utf16 rest)
      by_cases small : char.toNat < 128
      · have single : utf16Units char = [UInt16.ofNat char.toNat] := if_pos (by omega)
        have same : (UInt16.ofNat char.toNat).toNat = char.toNat := toNat_unit (by omega)
        have unit : TextUnit.ascii? (UInt16.ofNat char.toNat) = some char := by
          change (if (UInt16.ofNat char.toNat).toNat < 128 then _ else none) = _
          rw [same, if_pos small, Char.ofNat_toNat]
        rw [single]
        exact .ascii (ascii?_char small) unit ih
      · refine .other (if_neg small) ?_ ?_ ih
        · unfold utf16Units
          split <;> simp
        · intro unit member
          have bound : char.toNat < 0x110000 := by
            rcases char.valid with low | high
            · exact Nat.lt_trans low (by decide)
            · exact high.2
          unfold utf16Units at member
          split at member
          · cases List.mem_singleton.mp member
            exact ascii?_unit_of_large (by omega) (by omega)
          · rcases List.mem_cons.mp member with high | last
            · rw [high]
              exact ascii?_unit_of_large (by omega) (by omega)
            · rw [List.mem_singleton.mp last]
              exact ascii?_unit_of_large (by omega) (by omega)

section Shown

variable {α β : Type} [TextUnit α] [TextUnit β] {first : α} {second : β} {rest : List α} {others : List β} {char : Char}

theorem Shown.ascii_left (shown : Shown (first :: rest) others) (left : TextUnit.ascii? first = some char) :
    ∃ unit later, others = unit :: later ∧ TextUnit.ascii? unit = some char ∧ Shown rest later := by
  cases shown with
  | ascii same right later =>
      cases left.symm.trans same
      exact ⟨_, _, rfl, right, later⟩
  | other silent => cases left.symm.trans silent

theorem Shown.ascii_right (shown : Shown rest (second :: others)) (right : TextUnit.ascii? second = some char) :
    ∃ unit later, rest = unit :: later ∧ TextUnit.ascii? unit = some char ∧ Shown later others := by
  generalize whole : second :: others = text at shown
  cases shown with
  | nil => cases whole
  | ascii left same later =>
      cases whole
      cases right.symm.trans same
      exact ⟨_, _, rfl, left, later⟩
  | @other unit units _ _ _ present silent _ =>
      cases units with
      | nil => exact absurd rfl present
      | cons unit units =>
          cases whole
          cases right.symm.trans (silent second List.mem_cons_self)

theorem Shown.other_left (shown : Shown (first :: rest) others) (left : TextUnit.ascii? first = none) :
    ∃ units later, others = units ++ later ∧ (∀ unit ∈ units, TextUnit.ascii? unit = none) ∧ Shown rest later := by
  cases shown with
  | ascii same => cases left.symm.trans same
  | other _ _ silent later => exact ⟨_, _, rfl, silent, later⟩

end Shown

end MeshTalk.Library
