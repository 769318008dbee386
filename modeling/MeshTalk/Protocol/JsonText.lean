import MeshTalk.Protocol.GroupPayloads

namespace MeshTalk.Protocol

open MeshTalk.Library

/-! # The text of a JSON document

`json.dumps` escapes every character outside the printable part of ASCII, and
`encode` turns the text into bytes.
-/

/-- What `json.dumps` takes from its caller, and the `repr` of a float. -/
structure JsonWriter where
  itemSeparator : List Char
  keySeparator : List Char
  floatRepr : Rat → List Char

/-- `json.dumps(document)`. -/
def JsonWriter.spaced (floatRepr : Rat → List Char) : JsonWriter := ⟨[',', ' '], [':', ' '], floatRepr⟩

/-- `json.dumps(document, separators=(",", ":"))`. -/
def JsonWriter.compact (floatRepr : Rat → List Char) : JsonWriter := ⟨[','], [':'], floatRepr⟩

/-- Four hexadecimal digits after `\u`. -/
def unicodeEscape (code : Nat) : List Char :=
  ['\\', 'u', Hex.digit (code / 4096), Hex.digit (code / 256 % 16), Hex.digit (code / 16 % 16), Hex.digit (code % 16)]

/-- A character outside the first plane is written as its surrogate pair. -/
def escapeOther (code : Nat) : List Char :=
  if code < 0x10000 then unicodeEscape code
  else unicodeEscape (0xd800 + (code - 0x10000) / 0x400) ++ unicodeEscape (0xdc00 + (code - 0x10000) % 0x400)

def isPlain (char : Char) : Bool :=
  decide (' ' ≤ char) && decide (char ≤ '~') && decide (char ≠ '"') && decide (char ≠ '\\')

def escape (char : Char) : List Char :=
  if isPlain char then [char]
  else if char = '"' then ['\\', '"']
  else if char = '\\' then ['\\', '\\']
  else if char = '\n' then ['\\', 'n']
  else if char = '\r' then ['\\', 'r']
  else if char = '\t' then ['\\', 't']
  else if char = '\x08' then ['\\', 'b']
  else if char = '\x0c' then ['\\', 'f']
  else escapeOther char.toNat

def quote (text : String) : List Char := ['"'] ++ text.toList.flatMap escape ++ ['"']

/-- `int.__repr__`. -/
def intRepr : Int → List Char
  | .ofNat value => Nat.toDigits 10 value
  | .negSucc value => ['-'] ++ Nat.toDigits 10 (value + 1)

mutual

def Json.dumps (writer : JsonWriter) : Json → List Char
  | .null => ['n', 'u', 'l', 'l']
  | .bool true => ['t', 'r', 'u', 'e']
  | .bool false => ['f', 'a', 'l', 's', 'e']
  | .int value => intRepr value
  | .real value => writer.floatRepr value
  | .text value => quote value
  | .array [] => ['[', ']']
  | .array (item :: rest) => ['['] ++ Json.dumps writer item ++ Json.dumpsItems writer rest ++ [']']
  | .object [] => ['{', '}']
  | .object (member :: rest) => ['{'] ++ Json.dumpsMember writer member ++ Json.dumpsMembers writer rest ++ ['}']

def Json.dumpsItems (writer : JsonWriter) : List Json → List Char
  | [] => []
  | item :: rest => writer.itemSeparator ++ Json.dumps writer item ++ Json.dumpsItems writer rest

def Json.dumpsMember (writer : JsonWriter) : String × Json → List Char
  | (name, value) => quote name ++ writer.keySeparator ++ Json.dumps writer value

def Json.dumpsMembers (writer : JsonWriter) : List (String × Json) → List Char
  | [] => []
  | member :: rest => writer.itemSeparator ++ Json.dumpsMember writer member ++ Json.dumpsMembers writer rest

end

theorem dumps_text {writer : JsonWriter} {value : String} : (Json.text value).dumps writer = quote value := by
  rw [Json.dumps]

theorem dumps_int {writer : JsonWriter} {value : Int} : (Json.int value).dumps writer = intRepr value := by
  rw [Json.dumps]

theorem dumps_real {writer : JsonWriter} {value : Rat} : (Json.real value).dumps writer = writer.floatRepr value := by
  rw [Json.dumps]

/-- `json.dumps(document).encode()`. -/
def Json.encoded (writer : JsonWriter) (document : Json) : Bytes :=
  encodeUtf8 (String.ofList (document.dumps writer))

/-! ## Sizes -/

/-- The length of a text in UTF-8. -/
def byteCount (chars : List Char) : Nat := (chars.map Char.utf8Size).sum

@[simp] theorem byteCount_nil : byteCount [] = 0 := rfl

@[simp] theorem byteCount_cons {char : Char} {rest : List Char} :
    byteCount (char :: rest) = char.utf8Size + byteCount rest := rfl

@[simp] theorem byteCount_append {first second : List Char} :
    byteCount (first ++ second) = byteCount first + byteCount second := by
  simp [byteCount]

theorem size_utf8Encode {chars : List Char} : chars.utf8Encode.size = byteCount chars := by
  induction chars with
  | nil => rfl
  | cons char rest ih =>
      rw [List.utf8Encode_cons, ByteArray.size_append, ih, List.utf8Encode_singleton, byteCount_cons]
      simp

theorem Json.length_encoded {writer : JsonWriter} {document : Json} :
    (document.encoded writer).length = byteCount (document.dumps writer) := by
  rw [← size_utf8Encode]
  exact Array.length_toList

theorem byteCount_ascii {chars : List Char} (ascii : ∀ char ∈ chars, char ≤ '~') : byteCount chars = chars.length := by
  induction chars with
  | nil => rfl
  | cons char rest ih =>
      have first : char.utf8Size = 1 := Char.utf8Size_eq_one_iff.mpr <|
        UInt32.le_iff_toNat_le.mpr (Nat.le_trans (ascii char (List.mem_cons_self ..)) (by decide))
      rw [byteCount_cons, first, ih fun other member => ascii other (List.mem_cons_of_mem _ member), List.length_cons]
      omega

theorem digit_plain {value : Nat} (small : value < 16) : isPlain (Hex.digit value) = true := by
  have checked : ∀ value : Fin 16, isPlain (Hex.digit value) = true := by decide
  exact checked ⟨value, small⟩

theorem isPlain.ascii {char : Char} (plain : isPlain char = true) : char ≤ '~' := by
  simp only [isPlain, Bool.and_eq_true, decide_eq_true_eq] at plain
  exact plain.1.1.2

theorem byteCount_unicodeEscape {code : Nat} (small : code < 0x10000) : byteCount (unicodeEscape code) = 6 := by
  refine byteCount_ascii fun char member => ?_
  simp only [unicodeEscape, List.mem_cons, List.not_mem_nil, or_false] at member
  rcases member with rfl | rfl | rfl | rfl | rfl | rfl
  · decide
  · decide
  · exact isPlain.ascii (digit_plain (by omega))
  · exact isPlain.ascii (digit_plain (by omega))
  · exact isPlain.ascii (digit_plain (by omega))
  · exact isPlain.ascii (digit_plain (by omega))

theorem byteCount_surrogates {code : Nat} (beyond : 0x10000 ≤ code) (valid : code < 0x110000) :
    byteCount (escapeOther code) = 12 := by
  rw [escapeOther, if_neg (by omega), byteCount_append, byteCount_unicodeEscape (by omega),
    byteCount_unicodeEscape (by omega)]

theorem escape_plain {char : Char} (plain : isPlain char = true) : escape char = [char] := if_pos plain

theorem byteCount_escapeOther_le {char : Char} : byteCount (escapeOther char.toNat) ≤ 12 := by
  by_cases small : char.toNat < 0x10000
  · have six : byteCount (escapeOther char.toNat) = 6 := by
      rw [escapeOther, if_pos small, byteCount_unicodeEscape small]
    omega
  · have valid : char.toNat < 0x110000 := by
      rcases char.valid with low | high
      · exact Nat.lt_trans low (by decide)
      · exact high.2
    exact Nat.le_of_eq (byteCount_surrogates (by omega) valid)

/-- No character takes more than the two escapes of a surrogate pair. -/
theorem byteCount_escape_le {char : Char} : byteCount (escape char) ≤ 12 := by
  unfold escape
  split_ifs with plain
  · have one : byteCount [char] = 1 :=
      byteCount_ascii fun other member => List.mem_singleton.mp member ▸ isPlain.ascii plain
    omega
  all_goals first | exact byteCount_escapeOther_le | decide

theorem byteCount_quote {text : String} :
    byteCount (quote text) = 2 + (text.toList.map fun char => byteCount (escape char)).sum := by
  have marks : byteCount ['"'] = 1 := by decide
  have inner : byteCount (text.toList.flatMap escape) = (text.toList.map fun char => byteCount (escape char)).sum := by
    induction text.toList with
    | nil => rfl
    | cons char rest ih => rw [List.flatMap_cons, byteCount_append, ih, List.map_cons, List.sum_cons]
  rw [quote, byteCount_append, byteCount_append, inner, marks]
  omega

theorem byteCount_quote_le {text : String} {length : Nat} (short : text.toList.length ≤ length) :
    byteCount (quote text) ≤ 2 + 12 * length := by
  have each : (text.toList.map fun char => byteCount (escape char)).sum ≤ 12 * text.toList.length := by
    induction text.toList with
    | nil => exact Nat.zero_le _
    | cons char rest ih =>
        have first := @byteCount_escape_le char
        rw [List.map_cons, List.sum_cons, List.length_cons, Nat.mul_succ]
        omega
  rw [byteCount_quote]
  omega

theorem flatMap_escape_plain {chars : List Char} (plain : chars.all isPlain = true) : chars.flatMap escape = chars := by
  induction chars with
  | nil => rfl
  | cons char rest ih =>
      simp only [List.all_cons, Bool.and_eq_true] at plain
      rw [List.flatMap_cons, escape_plain plain.1, ih plain.2, List.singleton_append]

/-- A text without characters to escape takes its length and two quotation marks. -/
theorem byteCount_quote_plain {text : String} (plain : text.toList.all isPlain = true) :
    byteCount (quote text) = 2 + text.toList.length := by
  have unescaped : text.toList.flatMap escape = text.toList := flatMap_escape_plain plain
  have marks : byteCount ['"'] = 1 := by decide
  rw [quote, unescaped, byteCount_append, byteCount_append, marks,
    byteCount_ascii fun char member => isPlain.ascii (List.all_eq_true.mp plain char member)]
  omega

theorem plain_of_lowerHex {char : Char} (hex : isLowerHex char = true) : isPlain char = true := by
  simp only [isLowerHex, Bool.or_eq_true, Bool.and_eq_true, decide_eq_true_eq] at hex
  simp only [isPlain, Bool.and_eq_true, decide_eq_true_eq]
  have bounds : '0' ≤ char ∧ char ≤ 'f' := by
    rcases hex with ⟨above, below⟩ | ⟨above, below⟩
    · exact ⟨Char.le_trans (by decide) above, below⟩
    · exact ⟨above, Char.le_trans below (by decide)⟩
  refine ⟨⟨⟨Char.le_trans (by decide) bounds.1, Char.le_trans bounds.2 (by decide)⟩, ?_⟩, ?_⟩
  · rintro rfl
    exact absurd bounds.1 (by decide)
  · rintro rfl
    rcases hex with ⟨above, -⟩ | ⟨-, below⟩
    · exact absurd above (by decide)
    · exact absurd below (by decide)

theorem byteCount_quote_hex {text : String} {length : Nat} (hex : isLowerHexOf length text = true) :
    byteCount (quote text) = 2 + length := by
  simp only [isLowerHexOf, Bool.and_eq_true, decide_eq_true_eq] at hex
  rw [byteCount_quote_plain (List.all_eq_true.mpr fun char member =>
    plain_of_lowerHex (List.all_eq_true.mp hex.2 char member)), hex.1]

theorem length_digits {bytes : Bytes} : (Hex.digits bytes).length = 2 * bytes.length := by
  induction bytes with
  | nil => rfl
  | cons byte rest ih =>
      rw [Hex.digits, List.length_cons, List.length_cons, ih, List.length_cons]
      omega

theorem digits_plain {bytes : Bytes} : (Hex.digits bytes).all isPlain = true := by
  induction bytes with
  | nil => rfl
  | cons byte rest ih =>
      have bound := byte.toNat_lt
      simp only [Hex.digits, List.all_cons, Bool.and_eq_true]
      exact ⟨digit_plain (by omega), digit_plain (by omega), ih⟩

theorem byteCount_quote_toText {bytes : Bytes} : byteCount (quote (Hex.toText bytes)) = 2 + 2 * bytes.length := by
  have whole : (Hex.toText bytes).toList = Hex.digits bytes := String.toList_ofList
  rw [byteCount_quote_plain (by rw [whole]; exact digits_plain), whole, length_digits]

theorem byteCount_intRepr_le {value count : Nat} (positive : 0 < count) (small : value < 10 ^ count) :
    byteCount (intRepr value) ≤ count := by
  have ascii : ∀ char ∈ Nat.toDigits 10 value, char ≤ '~' := fun char member => by
    have digit := Nat.isDigit_of_mem_toDigits (by decide) (by decide) member
    simp only [Char.isDigit, Bool.and_eq_true, decide_eq_true_eq] at digit
    exact UInt32.le_trans digit.2 (by decide)
  change byteCount (Nat.toDigits 10 value) ≤ count
  rw [byteCount_ascii ascii]
  exact (Nat.length_toDigits_le_iff (by decide) positive).mpr small

end MeshTalk.Protocol
