import MeshTalk.Protocol.JsonText

namespace MeshTalk.Protocol

open MeshTalk.Library

/-! # The canonical text of a document

What signatures cover is written with sorted keys and no spaces.  Where the text
of a document ends can be told from the text, so what follows it, a ciphertext
say, cannot be taken for a part of it.
-/

/-! ## Strings end where they end -/

theorem digit_injective {first second : Nat} (small : first < 16) (below : second < 16)
    (same : Hex.digit first = Hex.digit second) : first = second := by
  have read := (Hex.digit_reads small).1
  rw [same, (Hex.digit_reads below).1] at read
  exact (Option.some.inj read).symm

theorem unicodeEscape_injective {first second : Nat} {rest later : List Char} (small : first < 0x10000)
    (below : second < 0x10000) (same : unicodeEscape first ++ rest = unicodeEscape second ++ later) :
    first = second ∧ rest = later := by
  simp only [unicodeEscape, List.cons_append, List.nil_append, List.cons.injEq, true_and] at same
  obtain ⟨first4, first3, first2, first1, tail⟩ := same
  have same4 := digit_injective (by omega) (by omega) first4
  have same3 := digit_injective (by omega) (by omega) first3
  have same2 := digit_injective (by omega) (by omega) first2
  have same1 := digit_injective (by omega) (by omega) first1
  exact ⟨by omega, tail⟩

/-- A scalar value: no surrogate, and not beyond the last plane. -/
def IsScalar (code : Nat) : Prop := code < 0xd800 ∨ 0xdfff < code ∧ code < 0x110000

theorem isScalar (char : Char) : IsScalar char.toNat := by
  rcases char.valid with low | ⟨above, below⟩
  · exact .inl low
  · exact .inr ⟨above, below⟩

theorem escapeOther_injective {first second : Nat} {rest later : List Char} (scalar : IsScalar first)
    (other : IsScalar second) (same : escapeOther first ++ rest = escapeOther second ++ later) :
    first = second ∧ rest = later := by
  unfold IsScalar at scalar other
  unfold escapeOther at same
  split at same
  · rename_i small
    split at same
    · rename_i below
      exact unicodeEscape_injective small below same
    · rename_i beyond
      rw [List.append_assoc] at same
      have mixed := (unicodeEscape_injective small (by omega) same).1
      omega
  · rename_i large
    split at same
    · rename_i below
      rw [List.append_assoc] at same
      have mixed := (unicodeEscape_injective (by omega) below same).1
      omega
    · rename_i beyond
      rw [List.append_assoc, List.append_assoc] at same
      obtain ⟨high, tail⟩ := unicodeEscape_injective (by omega) (by omega) same
      obtain ⟨low, tail⟩ := unicodeEscape_injective (by omega) (by omega) tail
      exact ⟨by omega, tail⟩

theorem unicodeEscape_head {code : Nat} : ∃ tail, unicodeEscape code = ['\\', 'u'] ++ tail := by
  refine ⟨[Hex.digit (code / 4096), Hex.digit (code / 256 % 16), Hex.digit (code / 16 % 16), Hex.digit (code % 16)], ?_⟩
  simp only [unicodeEscape, List.cons_append, List.nil_append]

theorem escapeOther_head {code : Nat} : ∃ tail, escapeOther code = ['\\', 'u'] ++ tail := by
  unfold escapeOther
  split
  · exact unicodeEscape_head
  · obtain ⟨tail, head⟩ := @unicodeEscape_head (0xd800 + (code - 0x10000) / 0x400)
    exact ⟨tail ++ _, by rw [head, List.append_assoc]⟩

/-- The characters with an escape of their own, and its letter. -/
def shortEscapes : List (Char × Char) :=
  [('"', '"'), ('\\', '\\'), ('\n', 'n'), ('\r', 'r'), ('\t', 't'), ('\x08', 'b'), ('\x0c', 'f')]

theorem escape_cases {char : Char} :
    (isPlain char = true ∧ escape char = [char]) ∨
      (∃ letter, (char, letter) ∈ shortEscapes ∧ escape char = ['\\', letter]) ∨ escape char = escapeOther char.toNat := by
  unfold escape
  split_ifs with plain quotation backslash newline carriage tab backspace feed
  · exact .inl ⟨plain, rfl⟩
  · exact .inr (.inl ⟨'"', by subst quotation; decide, rfl⟩)
  · exact .inr (.inl ⟨'\\', by subst backslash; decide, rfl⟩)
  · exact .inr (.inl ⟨'n', by subst newline; decide, rfl⟩)
  · exact .inr (.inl ⟨'r', by subst carriage; decide, rfl⟩)
  · exact .inr (.inl ⟨'t', by subst tab; decide, rfl⟩)
  · exact .inr (.inl ⟨'b', by subst backspace; decide, rfl⟩)
  · exact .inr (.inl ⟨'f', by subst feed; decide, rfl⟩)
  · exact .inr (.inr rfl)

theorem shortEscapes_injective :
    ∀ first ∈ shortEscapes, ∀ second ∈ shortEscapes, first.2 = second.2 → first.1 = second.1 := by
  decide

theorem shortEscapes_ne_u : ∀ pair ∈ shortEscapes, pair.2 ≠ 'u' := by decide

theorem backslash_not_plain : isPlain '\\' = false := by decide

theorem plain_ne_backslash {char : Char} {rest tail : List Char} (plain : isPlain char = true) :
    [char] ++ rest ≠ ['\\'] ++ tail := by
  intro equal
  rw [(List.cons.inj equal).1, backslash_not_plain] at plain
  cases plain

theorem escape_injective {first second : Char} {rest later : List Char}
    (same : escape first ++ rest = escape second ++ later) : first = second ∧ rest = later := by
  rcases @escape_cases first with ⟨plain, written⟩ | ⟨letter, listed, written⟩ | written
  · rcases @escape_cases second with ⟨also, other⟩ | ⟨otherLetter, also, other⟩ | other
    · rw [written, other] at same
      exact List.cons.inj same
    · rw [written, other] at same
      exact absurd same (plain_ne_backslash plain)
    · obtain ⟨tail, head⟩ := @escapeOther_head second.toNat
      rw [written, other, head, List.append_assoc] at same
      exact absurd same (plain_ne_backslash plain)
  · rcases @escape_cases second with ⟨also, other⟩ | ⟨otherLetter, also, other⟩ | other
    · rw [written, other] at same
      exact absurd same.symm (plain_ne_backslash also)
    · rw [written, other] at same
      obtain ⟨letters, tail⟩ := List.cons.inj (List.cons.inj same).2
      exact ⟨shortEscapes_injective _ listed _ also letters, tail⟩
    · obtain ⟨tail, head⟩ := @escapeOther_head second.toNat
      rw [written, other, head, List.append_assoc] at same
      exact absurd (List.cons.inj (List.cons.inj same).2).1 (shortEscapes_ne_u _ listed)
  · obtain ⟨tail, head⟩ := @escapeOther_head first.toNat
    rcases @escape_cases second with ⟨also, other⟩ | ⟨otherLetter, also, other⟩ | other
    · rw [written, other, head, List.append_assoc] at same
      exact absurd same.symm (plain_ne_backslash also)
    · rw [written, other, head, List.append_assoc] at same
      exact absurd (List.cons.inj (List.cons.inj same).2).1.symm (shortEscapes_ne_u _ also)
    · rw [written, other] at same
      obtain ⟨codes, rests⟩ := escapeOther_injective (isScalar first) (isScalar second) same
      exact ⟨Char.toNat_inj.mp codes, rests⟩

theorem escape_ne_quotation {char : Char} {rest later : List Char} : escape char ++ rest ≠ ['"'] ++ later := by
  rcases @escape_cases char with ⟨plain, written⟩ | ⟨letter, -, written⟩ | written
  · intro equal
    rw [written] at equal
    rw [(List.cons.inj equal).1] at plain
    exact absurd plain (by decide)
  · intro equal
    rw [written] at equal
    exact absurd (List.cons.inj equal).1 (by decide)
  · obtain ⟨tail, head⟩ := @escapeOther_head char.toNat
    intro equal
    rw [written, head, List.append_assoc] at equal
    exact absurd (List.cons.inj equal).1 (by decide)

theorem escapes_injective {first second rest later : List Char}
    (same : first.flatMap escape ++ (['"'] ++ rest) = second.flatMap escape ++ (['"'] ++ later)) :
    first = second ∧ rest = later := by
  induction first generalizing second with
  | nil =>
      cases second with
      | nil => exact ⟨rfl, (List.cons.inj same).2⟩
      | cons char more =>
          rw [List.flatMap_nil, List.flatMap_cons, List.append_assoc] at same
          exact absurd same.symm escape_ne_quotation
  | cons char more ih =>
      cases second with
      | nil =>
          rw [List.flatMap_nil, List.flatMap_cons, List.append_assoc] at same
          exact absurd same escape_ne_quotation
      | cons other others =>
          rw [List.flatMap_cons, List.flatMap_cons, List.append_assoc, List.append_assoc] at same
          obtain ⟨heads, tails⟩ := escape_injective same
          obtain ⟨texts, rests⟩ := ih tails
          exact ⟨by rw [heads, texts], rests⟩

theorem quote_injective {first second : String} {rest later : List Char}
    (same : quote first ++ rest = quote second ++ later) : first = second ∧ rest = later := by
  simp only [quote, List.append_assoc, List.cons_append, List.nil_append, List.cons.injEq, true_and] at same
  obtain ⟨texts, rests⟩ := escapes_injective same
  exact ⟨String.toList_inj.mp texts, rests⟩

/-! ## Numbers -/

def numberChars : List Char := ['0', '1', '2', '3', '4', '5', '6', '7', '8', '9', '-', '+', '.', 'e']

/-- What the `repr` of a float promises: it is no integer, tells its value, and
is written with the characters of numbers. -/
structure FloatText (floatRepr : Rat → List Char) : Prop where
  injective : ∀ first second, floatRepr first = floatRepr second → first = second
  chars : ∀ value, floatRepr value ≠ [] ∧ ∀ char ∈ floatRepr value, char ∈ numberChars
  noInt : ∀ value number, floatRepr value ≠ intRepr number

/-- What may follow a value: nothing, or what separates or closes. -/
def Delimited (rest : List Char) : Prop := ∀ char ∈ rest.head?, char ∈ [',', ']', '\x7d']

theorem number_injective {first second rest later : List Char} (number : ∀ char ∈ first, char ∈ numberChars)
    (also : ∀ char ∈ second, char ∈ numberChars) (delimited : Delimited rest) (closed : Delimited later)
    (same : first ++ rest = second ++ later) : first = second ∧ rest = later := by
  have ends : ∀ char ∈ numberChars, char ∉ [',', ']', '\x7d'] := by decide
  induction first generalizing second with
  | nil =>
      cases second with
      | nil => exact ⟨rfl, same⟩
      | cons char more =>
          subst same
          exact absurd (delimited char rfl) (ends char (also char (List.mem_cons_self ..)))
  | cons char more ih =>
      cases second with
      | nil =>
          subst same
          exact absurd (closed char rfl) (ends char (number char (List.mem_cons_self ..)))
      | cons other others =>
          obtain ⟨heads, tails⟩ := List.cons.inj same
          obtain ⟨texts, rests⟩ := ih (fun char member => number char (List.mem_cons_of_mem _ member))
            (fun char member => also char (List.mem_cons_of_mem _ member)) tails
          exact ⟨by rw [heads, texts], rests⟩

theorem digitChar_code {count : Nat} {char : Char} (member : char ∈ Nat.toDigits 10 count) :
    48 ≤ char.toNat ∧ char.toNat ≤ 57 := by
  have digit := Nat.isDigit_of_mem_toDigits (by decide) (by decide) member
  simp only [Char.isDigit, Bool.and_eq_true, decide_eq_true_eq] at digit
  exact ⟨UInt32.le_iff_toNat_le.mp digit.1, UInt32.le_iff_toNat_le.mp digit.2⟩

theorem intRepr_chars {value : Int} : intRepr value ≠ [] ∧ ∀ char ∈ intRepr value, char ∈ numberChars := by
  have digits : ∀ count : Nat, ∀ char ∈ Nat.toDigits 10 count, char ∈ numberChars := fun count char member => by
    have codes : ∀ code : Fin 58, 48 ≤ code.val → Char.ofNat code.val ∈ numberChars := by decide
    obtain ⟨above, below⟩ := digitChar_code member
    have listed := codes ⟨char.toNat, by omega⟩ above
    rwa [Char.ofNat_toNat] at listed
  cases value with
  | ofNat count => exact ⟨Nat.toDigits_ne_nil, digits count⟩
  | negSucc count =>
      refine ⟨List.cons_ne_nil _ _, fun char member => ?_⟩
      rcases List.mem_append.mp member with sign | digit
      · rw [List.mem_singleton.mp sign]
        decide
      · exact digits _ char digit

theorem toDigits_injective {first second : Nat} (same : Nat.toDigits 10 first = Nat.toDigits 10 second) : first = second := by
  rw [← Nat.ofDigitChars_toDigits (show 1 < 10 by decide) (show 10 ≤ 10 by decide) (n := first), same,
    Nat.ofDigitChars_toDigits (by decide) (by decide)]

theorem toDigits_ne_negative {count : Nat} {rest : List Char} : Nat.toDigits 10 count ≠ ['-'] ++ rest := by
  intro same
  have sign : '-' ∈ Nat.toDigits 10 count := by
    rw [same]
    exact List.mem_cons_self ..
  exact absurd (digitChar_code sign).1 (by decide)

theorem intRepr_injective {first second : Int} (same : intRepr first = intRepr second) : first = second := by
  cases first with
  | ofNat count =>
      cases second with
      | ofNat other => exact congrArg Int.ofNat (toDigits_injective same)
      | negSucc other => exact absurd same toDigits_ne_negative
  | negSucc count =>
      cases second with
      | ofNat other => exact absurd same.symm toDigits_ne_negative
      | negSucc other =>
          have counts := toDigits_injective (List.cons.inj same).2
          exact congrArg Int.negSucc (Nat.succ.inj counts)

/-! ## Documents -/

/-- What the first character of a text tells of the value. -/
inductive Shape where
  | null | bool | number | text | array | object | other
deriving DecidableEq, Repr

def Shape.ofChar (char : Char) : Shape :=
  if char = 'n' then .null
  else if char = 't' ∨ char = 'f' then .bool
  else if char ∈ numberChars then .number
  else if char = '"' then .text
  else if char = '[' then .array
  else if char = '\x7b' then .object
  else .other

def Json.shape : Json → Shape
  | .null => .null
  | .bool _ => .bool
  | .int _ => .number
  | .real _ => .number
  | .text _ => .text
  | .array _ => .array
  | .object _ => .object

theorem shape_of_number {text : List Char} (number : text ≠ [] ∧ ∀ char ∈ text, char ∈ numberChars) :
    ∃ char tail, text = [char] ++ tail ∧ Shape.ofChar char = .number := by
  have shapes : ∀ char ∈ numberChars, Shape.ofChar char = .number := by decide
  cases text with
  | nil => exact absurd rfl number.1
  | cons char tail => exact ⟨char, tail, rfl, shapes char (number.2 char (List.mem_cons_self ..))⟩

theorem shape_marks :
    Shape.ofChar '"' = .text ∧ Shape.ofChar '[' = .array ∧ Shape.ofChar '\x7b' = .object ∧ Shape.ofChar ']' = .other := by
  decide

section

variable {floatRepr : Rat → List Char}

theorem items_delimited {items : List Json} {rest : List Char} :
    Delimited (Json.dumpsItems (.compact floatRepr) items ++ ([']'] ++ rest)) := by
  intro char first
  cases items with
  | nil =>
      rw [Json.dumpsItems] at first
      cases first
      decide
  | cons item more =>
      rw [Json.dumpsItems] at first
      cases first
      decide

theorem members_delimited {members : List (String × Json)} {rest : List Char} :
    Delimited (Json.dumpsMembers (.compact floatRepr) members ++ (['\x7d'] ++ rest)) := by
  intro char first
  cases members with
  | nil =>
      rw [Json.dumpsMembers] at first
      cases first
      decide
  | cons member more =>
      rw [Json.dumpsMembers] at first
      cases first
      decide

variable (floats : FloatText floatRepr)

include floats

/-- A text begins as its value demands. -/
theorem dumps_shape (document : Json) :
    ∃ char tail, document.dumps (.compact floatRepr) = [char] ++ tail ∧ Shape.ofChar char = document.shape := by
  cases document with
  | null => exact ⟨'n', _, by rw [Json.dumps]; rfl, by decide⟩
  | bool value =>
      cases value with
      | false => exact ⟨'f', _, by rw [Json.dumps]; rfl, by decide⟩
      | true => exact ⟨'t', _, by rw [Json.dumps]; rfl, by decide⟩
  | int value =>
      rw [dumps_int]
      exact shape_of_number intRepr_chars
  | real value =>
      rw [dumps_real]
      exact shape_of_number (floats.chars value)
  | text value => exact ⟨'"', _, by rw [dumps_text, quote, List.append_assoc], shape_marks.1⟩
  | array items =>
      cases items with
      | nil => exact ⟨'[', _, by rw [Json.dumps]; rfl, by decide⟩
      | cons item more => exact ⟨'[', _, by rw [Json.dumps, List.append_assoc, List.append_assoc], shape_marks.2.1⟩
  | object members =>
      cases members with
      | nil => exact ⟨'\x7b', _, by rw [Json.dumps]; rfl, by decide⟩
      | cons member more => exact ⟨'\x7b', _, by rw [Json.dumps, List.append_assoc, List.append_assoc], shape_marks.2.2.1⟩

theorem same_shape {first second : Json} {rest later : List Char}
    (same : first.dumps (.compact floatRepr) ++ rest = second.dumps (.compact floatRepr) ++ later) :
    first.shape = second.shape := by
  obtain ⟨char, tail, begins, shape⟩ := dumps_shape floats first
  obtain ⟨other, more, also, otherShape⟩ := dumps_shape floats second
  rw [begins, also] at same
  rw [← shape, ← otherShape, (List.cons.inj same).1]

theorem dumps_ne_closing {document : Json} {rest later : List Char} :
    document.dumps (.compact floatRepr) ++ rest ≠ [']'] ++ later := by
  obtain ⟨char, tail, begins, shape⟩ := dumps_shape floats document
  intro same
  rw [begins] at same
  rw [(List.cons.inj same).1] at shape
  rw [shape_marks.2.2.2] at shape
  cases document <;> simp only [Json.shape, reduceCtorEq] at shape

set_option linter.unusedSectionVars false in
mutual

/-- Two values with the same text are the same, and so is what follows them. -/
theorem dumps_injective : ∀ (first second : Json) {rest later : List Char}, Delimited rest → Delimited later →
    first.dumps (.compact floatRepr) ++ rest = second.dumps (.compact floatRepr) ++ later → first = second ∧ rest = later
  | .null, second, rest, later, delimited, closed, same => by
      have shapes := same_shape floats same
      cases second <;> simp only [Json.shape, reduceCtorEq] at shapes
      exact ⟨rfl, List.append_cancel_left same⟩
  | .bool value, second, rest, later, delimited, closed, same => by
      have shapes := same_shape floats same
      cases second <;> simp only [Json.shape, reduceCtorEq] at shapes
      rename_i other
      cases value with
      | false =>
          cases other with
          | false => exact ⟨rfl, List.append_cancel_left same⟩
          | true =>
              rw [Json.dumps, Json.dumps] at same
              exact absurd (List.cons.inj same).1 (by decide)
      | true =>
          cases other with
          | false =>
              rw [Json.dumps, Json.dumps] at same
              exact absurd (List.cons.inj same).1 (by decide)
          | true => exact ⟨rfl, List.append_cancel_left same⟩
  | .int value, second, rest, later, delimited, closed, same => by
      have shapes := same_shape floats same
      cases second <;> simp only [Json.shape, reduceCtorEq] at shapes
      · rw [dumps_int, dumps_int] at same
        obtain ⟨texts, rests⟩ := number_injective intRepr_chars.2 intRepr_chars.2 delimited closed same
        exact ⟨by rw [intRepr_injective texts], rests⟩
      · rw [dumps_int, dumps_real] at same
        have texts := (number_injective intRepr_chars.2 (floats.chars _).2 delimited closed same).1
        exact absurd texts.symm (floats.noInt _ _)
  | .real value, second, rest, later, delimited, closed, same => by
      have shapes := same_shape floats same
      cases second <;> simp only [Json.shape, reduceCtorEq] at shapes
      · rw [dumps_int, dumps_real] at same
        have texts := (number_injective (floats.chars _).2 intRepr_chars.2 delimited closed same).1
        exact absurd texts (floats.noInt _ _)
      · rw [dumps_real, dumps_real] at same
        obtain ⟨texts, rests⟩ := number_injective (floats.chars _).2 (floats.chars _).2 delimited closed same
        exact ⟨by rw [floats.injective _ _ texts], rests⟩
  | .text value, second, rest, later, delimited, closed, same => by
      have shapes := same_shape floats same
      cases second <;> simp only [Json.shape, reduceCtorEq] at shapes
      rw [dumps_text, dumps_text] at same
      obtain ⟨texts, rests⟩ := quote_injective same
      exact ⟨by rw [texts], rests⟩
  | .array [], second, rest, later, delimited, closed, same => by
      have shapes := same_shape floats same
      cases second <;> simp only [Json.shape, reduceCtorEq] at shapes
      rename_i others
      cases others with
      | nil => exact ⟨rfl, List.append_cancel_left same⟩
      | cons other more =>
          rw [Json.dumps, Json.dumps] at same
          simp only [List.append_assoc, List.cons_append, List.nil_append, List.cons.injEq, true_and] at same
          exact absurd same.symm (dumps_ne_closing floats)
  | .array (item :: items), second, rest, later, delimited, closed, same => by
      have shapes := same_shape floats same
      cases second <;> simp only [Json.shape, reduceCtorEq] at shapes
      rename_i others
      cases others with
      | nil =>
          rw [Json.dumps, Json.dumps] at same
          simp only [List.append_assoc, List.cons_append, List.nil_append, List.cons.injEq, true_and] at same
          exact absurd same (dumps_ne_closing floats)
      | cons other more =>
          rw [Json.dumps, Json.dumps] at same
          simp only [List.append_assoc, List.cons_append, List.nil_append, List.cons.injEq, true_and] at same
          obtain ⟨heads, tails⟩ := dumps_injective item other items_delimited items_delimited same
          obtain ⟨texts, rests⟩ := dumpsItems_injective items more tails
          exact ⟨by rw [heads, texts], rests⟩
  | .object members, second, rest, later, delimited, closed, same => by
      have shapes := same_shape floats same
      cases second <;> simp only [Json.shape, reduceCtorEq] at shapes
      obtain ⟨objects, rests⟩ := dumpsObject_injective members _ same
      exact ⟨by rw [objects], rests⟩

/-- An object ends with its brace, so nothing is asked of what follows. -/
theorem dumpsObject_injective : ∀ (first second : List (String × Json)) {rest later : List Char},
    (Json.object first).dumps (.compact floatRepr) ++ rest = (Json.object second).dumps (.compact floatRepr) ++ later →
      first = second ∧ rest = later
  | [], [], rest, later, same => ⟨rfl, List.append_cancel_left same⟩
  | [], (name, value) :: more, rest, later, same => by
      rw [Json.dumps, Json.dumps, Json.dumpsMember, quote] at same
      exact absurd (List.cons.inj (List.cons.inj same).2).1 (by decide)
  | (name, value) :: members, [], rest, later, same => by
      rw [Json.dumps, Json.dumps, Json.dumpsMember, quote] at same
      exact absurd (List.cons.inj (List.cons.inj same).2).1 (by decide)
  | (name, value) :: members, (otherName, otherValue) :: more, rest, later, same => by
      rw [Json.dumps, Json.dumps, Json.dumpsMember, Json.dumpsMember] at same
      simp only [List.append_assoc, List.cons_append, List.nil_append, List.cons.injEq, true_and] at same
      obtain ⟨names, tails⟩ := quote_injective same
      obtain ⟨values, tails⟩ :=
        dumps_injective value otherValue members_delimited members_delimited (List.append_cancel_left tails)
      obtain ⟨texts, rests⟩ := dumpsMembers_injective members more tails
      exact ⟨by rw [names, values, texts], rests⟩

theorem dumpsItems_injective : ∀ (first second : List Json) {rest later : List Char},
    Json.dumpsItems (.compact floatRepr) first ++ ([']'] ++ rest) =
      Json.dumpsItems (.compact floatRepr) second ++ ([']'] ++ later) → first = second ∧ rest = later
  | [], [], rest, later, same => ⟨rfl, (List.cons.inj same).2⟩
  | [], item :: items, rest, later, same => by
      rw [Json.dumpsItems, Json.dumpsItems] at same
      exact absurd (List.cons.inj same).1 (by decide)
  | item :: items, [], rest, later, same => by
      rw [Json.dumpsItems, Json.dumpsItems] at same
      exact absurd (List.cons.inj same).1 (by decide)
  | item :: items, other :: others, rest, later, same => by
      rw [Json.dumpsItems, Json.dumpsItems, List.append_assoc, List.append_assoc, List.append_assoc,
        List.append_assoc] at same
      obtain ⟨heads, tails⟩ :=
        dumps_injective item other items_delimited items_delimited (List.append_cancel_left same)
      obtain ⟨texts, rests⟩ := dumpsItems_injective items others tails
      exact ⟨by rw [heads, texts], rests⟩

theorem dumpsMembers_injective : ∀ (first second : List (String × Json)) {rest later : List Char},
    Json.dumpsMembers (.compact floatRepr) first ++ (['\x7d'] ++ rest) =
      Json.dumpsMembers (.compact floatRepr) second ++ (['\x7d'] ++ later) → first = second ∧ rest = later
  | [], [], rest, later, same => ⟨rfl, (List.cons.inj same).2⟩
  | [], member :: members, rest, later, same => by
      rw [Json.dumpsMembers, Json.dumpsMembers] at same
      exact absurd (List.cons.inj same).1 (by decide)
  | member :: members, [], rest, later, same => by
      rw [Json.dumpsMembers, Json.dumpsMembers] at same
      exact absurd (List.cons.inj same).1 (by decide)
  | (name, value) :: members, (otherName, otherValue) :: others, rest, later, same => by
      rw [Json.dumpsMembers, Json.dumpsMembers, Json.dumpsMember, Json.dumpsMember] at same
      simp only [List.append_assoc] at same
      obtain ⟨names, tails⟩ := quote_injective (List.append_cancel_left same)
      obtain ⟨values, tails⟩ :=
        dumps_injective value otherValue members_delimited members_delimited (List.append_cancel_left tails)
      obtain ⟨texts, rests⟩ := dumpsMembers_injective members others tails
      exact ⟨by rw [names, values, texts], rests⟩

end

end

/-! ## Sorted keys -/

mutual

/-- The document with the members of every object in the order of their names. -/
def Json.sortKeys : Json → Json
  | .array items => .array (Json.sortItems items)
  | .object members => .object ((Json.sortMembers members).mergeSort fun first second => decide (first.1 ≤ second.1))
  | .null => .null
  | .bool value => .bool value
  | .int value => .int value
  | .real value => .real value
  | .text value => .text value

def Json.sortItems : List Json → List Json
  | [] => []
  | item :: rest => item.sortKeys :: Json.sortItems rest

def Json.sortMember : String × Json → String × Json
  | (name, value) => (name, value.sortKeys)

def Json.sortMembers : List (String × Json) → List (String × Json)
  | [] => []
  | member :: rest => Json.sortMember member :: Json.sortMembers rest

end

/-- `json.dumps(document, separators=(",", ":"), sort_keys=True).encode()`. -/
def Json.canonical (floatRepr : Rat → List Char) (document : Json) : Bytes :=
  document.sortKeys.encoded (.compact floatRepr)

theorem sortMembers_eq {members : List (String × Json)} :
    Json.sortMembers members = members.map fun member => (member.1, member.2.sortKeys) := by
  induction members with
  | nil => rfl
  | cons member rest ih => rw [Json.sortMembers, ih, List.map_cons, Json.sortMember]

theorem sortItems_eq {items : List Json} : Json.sortItems items = items.map Json.sortKeys := by
  induction items with
  | nil => rfl
  | cons item rest ih => rw [Json.sortItems, ih, List.map_cons]

theorem lookup_eq_some {members : List (String × Json)} (distinct : (members.map Prod.fst).Nodup) {name : String}
    {value : Json} : members.lookup name = some value ↔ (name, value) ∈ members := by
  induction members with
  | nil => simp
  | cons member rest ih =>
      obtain ⟨first, content⟩ := member
      obtain ⟨fresh, distinct⟩ := List.nodup_cons.mp distinct
      rw [List.lookup_cons, List.mem_cons]
      by_cases same : name = first
      · subst same
        have elsewhere : (name, value) ∉ rest := fun member => fresh (List.mem_map.mpr ⟨_, member, rfl⟩)
        simp only [BEq.rfl, Option.some.injEq, Prod.mk.injEq, true_and, elsewhere, or_false, eq_comm]
      · rw [beq_false_of_ne same]
        simp only [ih distinct, Prod.mk.injEq, same, false_and, false_or]

theorem lookup_sortMembers {members : List (String × Json)} {name : String} :
    (Json.sortMembers members).lookup name = (members.lookup name).map Json.sortKeys := by
  induction members with
  | nil => rfl
  | cons member rest ih =>
      rw [Json.sortMembers, Json.sortMember, List.lookup_cons, List.lookup_cons, ih]
      cases name == member.1 <;> rfl

theorem names_sortMembers {members : List (String × Json)} :
    (Json.sortMembers members).map Prod.fst = members.map Prod.fst := by
  rw [sortMembers_eq, List.map_map]
  rfl

/-- Objects with the same sorted members have the same member of every name. -/
theorem lookup_of_sorted {first second : List (String × Json)} (distinct : (first.map Prod.fst).Nodup)
    (unique : (second.map Prod.fst).Nodup)
    (same : (Json.object first).sortKeys = (Json.object second).sortKeys) (name : String) :
    (first.lookup name).map Json.sortKeys = (second.lookup name).map Json.sortKeys := by
  rw [Json.sortKeys, Json.sortKeys] at same
  have permuted : (Json.sortMembers first).Perm (Json.sortMembers second) :=
    (List.mergeSort_perm _ _).symm.trans ((List.Perm.of_eq (Json.object.inj same)).trans (List.mergeSort_perm _ _))
  rw [← lookup_sortMembers, ← lookup_sortMembers]
  refine Option.ext fun value => ?_
  rw [lookup_eq_some (by rwa [names_sortMembers]), lookup_eq_some (by rwa [names_sortMembers]), permuted.mem_iff]

/-! ## Canonical bytes -/

theorem encoded_starts {first second : List Char} {extra : Bytes}
    (same : encodeUtf8 (String.ofList first) ++ extra = encodeUtf8 (String.ofList second)) : first <+: second := by
  have bytes : first.utf8Encode ++ extra.toByteArray = second.utf8Encode := by
    apply ByteArray.ext
    apply Array.toList_inj.mp
    rw [ByteArray.data_append, Array.toList_append, List.data_toByteArray]
    exact same
  exact List.isPrefix_of_utf8Encode_append_eq_utf8Encode extra.toByteArray bytes

theorem encoded_object_starts {floatRepr : Rat → List Char} (floats : FloatText floatRepr)
    {first second : List (String × Json)} {extra : Bytes}
    (same : (Json.object first).encoded (.compact floatRepr) ++ extra = (Json.object second).encoded (.compact floatRepr)) :
    first = second := by
  obtain ⟨tail, whole⟩ := encoded_starts same
  have closed : (Json.object first).dumps (.compact floatRepr) ++ tail =
      (Json.object second).dumps (.compact floatRepr) ++ [] := by rw [whole, List.append_nil]
  exact (dumpsObject_injective floats first second closed).1

theorem encoded_object_injective {floatRepr : Rat → List Char} (floats : FloatText floatRepr)
    {first second : List (String × Json)} {rest later : Bytes}
    (same : (Json.object first).encoded (.compact floatRepr) ++ rest =
      (Json.object second).encoded (.compact floatRepr) ++ later) : first = second ∧ rest = later := by
  have objects : first = second := by
    rcases List.append_eq_append_iff.mp same with ⟨extra, longer, -⟩ | ⟨extra, longer, -⟩
    · exact encoded_object_starts floats longer.symm
    · exact (encoded_object_starts floats longer.symm).symm
  subst objects
  exact ⟨rfl, List.append_cancel_left same⟩

/-- Equal canonical texts, whatever follows them, come of objects with the same
members. -/
theorem canonical_injective {floatRepr : Rat → List Char} (floats : FloatText floatRepr)
    {first second : List (String × Json)} {rest later : Bytes} (distinct : (first.map Prod.fst).Nodup)
    (unique : (second.map Prod.fst).Nodup)
    (same : (Json.object first).canonical floatRepr ++ rest = (Json.object second).canonical floatRepr ++ later) :
    (∀ name, (first.lookup name).map Json.sortKeys = (second.lookup name).map Json.sortKeys) ∧ rest = later := by
  rw [Json.canonical, Json.canonical, Json.sortKeys, Json.sortKeys] at same
  obtain ⟨members, rests⟩ := encoded_object_injective floats same
  have sorted : (Json.object first).sortKeys = (Json.object second).sortKeys := by
    rw [Json.sortKeys, Json.sortKeys, members]
  exact ⟨lookup_of_sorted distinct unique sorted, rests⟩

end MeshTalk.Protocol
