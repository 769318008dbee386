import MeshTalk.Files.Acknowledgements
import MeshTalk.Protocol.JsonText

namespace MeshTalk.Files

open MeshTalk.Library MeshTalk.Protocol MeshTalk.Store MeshTalk.Store.Database

/-! # The ranges of an acknowledgement and the size of its packet -/

variable {received : Nat → Bool} {total : Nat} {ranges : List (Nat × Nat)}

/-! ## Runs end where a chunk was received -/

theorem missingStep_ends {bound : Nat} {scan : List (Nat × Nat) × Option Nat}
    (begun : ∀ start, scan.2 = some start → start < bound)
    (ended : ∀ range ∈ scan.1, received (range.2 + 1) = true) :
    ∀ range ∈ (missingStep received scan bound).1, received (range.2 + 1) = true := by
  obtain ⟨closed, active⟩ := scan
  cases present : received bound with
  | false =>
      cases active with
      | none => simpa only [missingStep, present] using ended
      | some start => simpa only [missingStep, present] using ended
  | true =>
      cases active with
      | none => simpa only [missingStep, present] using ended
      | some start =>
          simp only [missingStep, present]
          intro range member
          rcases List.mem_append.mp member with earlier | last
          · exact ended range earlier
          · cases List.mem_singleton.mp last
            have below := begun start rfl
            rw [show bound - 1 + 1 = bound by omega, present]

theorem scan_ends {bound : Nat} :
    ∀ range ∈ ((List.range bound).foldl (missingStep received) ([], none)).1, received (range.2 + 1) = true := by
  induction bound with
  | zero => exact fun range member => nomatch member
  | succ bound ih =>
      rw [List.range_succ, List.foldl_append]
      exact missingStep_ends (fun start begun => (scan_scanned.openRange start begun).1) ih

/-- A range ends with the file or before a chunk that was received. -/
theorem missingRanges_end :
    ∀ range ∈ missingRanges received total, range.2 + 1 = total ∨ received (range.2 + 1) = true := by
  have ended := @scan_ends received total
  have scanned := @scan_scanned received total
  unfold missingRanges
  generalize (List.range total).foldl (missingStep received) ([], none) = scan at ended scanned
  obtain ⟨closed, active⟩ := scan
  cases active with
  | none => exact fun range member => .inr (ended range member)
  | some start =>
      intro range member
      rcases List.mem_append.mp member with earlier | last
      · exact .inr (ended range earlier)
      · cases List.mem_singleton.mp last
        have below := (scanned.openRange start rfl).1
        exact .inl (by omega)

/-- Ranges in increasing order with an index between each and the next. -/
def Separated (ranges : List (Nat × Nat)) : Prop := ranges.Pairwise fun first second => first.2 + 1 < second.1

theorem missingRanges_separated : Separated (missingRanges received total) := by
  refine (missingRanges_ordered.2).imp_of_mem fun {first second} earlier later apart => ?_
  have within := missingRanges_ordered.1 second later
  have absent := (covers_missingRanges.mp ⟨second, later, Nat.le_refl _, within.1⟩).2
  have adjacent : first.2 + 1 ≠ second.1 := by
    intro meets
    rcases missingRanges_end first earlier with ending | present
    · omega
    · rw [meets, absent] at present
      cases present
  omega

/-- Every range takes two indices, its own and the one that separates it. -/
theorem Separated.length_le {start : Nat} (separated : Separated ranges) (within : ∀ range ∈ ranges, range.1 ≤ range.2 ∧ range.2 < total)
    (after : ∀ range ∈ ranges, start ≤ range.1) (below : start ≤ total + 1) : start + 2 * ranges.length ≤ total + 1 := by
  induction ranges generalizing start with
  | nil => exact below
  | cons range rest ih =>
      obtain ⟨apart, separated⟩ := List.pairwise_cons.mp separated
      have inside := within range (List.mem_cons_self ..)
      have first := after range (List.mem_cons_self ..)
      have later := ih separated (fun other member => within other (List.mem_cons_of_mem _ member))
        (fun other member => apart other member) (show range.2 + 2 ≤ total + 1 by omega)
      rw [List.length_cons]
      omega

/-! ## Sizes -/

variable {floatRepr : Rat → List Char}

theorem byteCount_rangeJson_le {range : Nat × Nat} (small : range.1 < 10000 ∧ range.2 < 10000) :
    byteCount ((FileAckV2Payload.rangeJson ((range.1 : Int), (range.2 : Int))).dumps (.compact floatRepr)) ≤ 11 := by
  have first := @byteCount_intRepr_le range.1 4 (by decide) small.1
  have second := @byteCount_intRepr_le range.2 4 (by decide) small.2
  have marks : byteCount ['['] = 1 ∧ byteCount [','] = 1 ∧ byteCount [']'] = 1 := by decide
  simp only [FileAckV2Payload.rangeJson, Json.dumps, Json.dumpsItems, JsonWriter.compact, byteCount_append, byteCount_nil, marks]
  omega

theorem byteCount_ranges_le (small : ∀ range ∈ ranges, range.1 < 10000 ∧ range.2 < 10000) :
    byteCount (Json.dumpsItems (.compact floatRepr)
      (ranges.map fun range => FileAckV2Payload.rangeJson ((range.1 : Int), (range.2 : Int)))) ≤ 12 * ranges.length := by
  induction ranges with
  | nil => exact Nat.zero_le _
  | cons range rest ih =>
      have first := @byteCount_rangeJson_le floatRepr range (small range (List.mem_cons_self ..))
      have later := ih fun other member => small other (List.mem_cons_of_mem _ member)
      have mark : byteCount (JsonWriter.compact floatRepr).itemSeparator = 1 := by
        change byteCount [','] = 1
        decide
      simp only [List.map_cons, Json.dumpsItems, byteCount_append, mark, List.length_cons]
      omega

theorem byteCount_array_le {writer : JsonWriter} {items : List Json} :
    byteCount ((Json.array items).dumps writer) ≤ 2 + byteCount (Json.dumpsItems writer items) := by
  have marks : byteCount ['['] = 1 ∧ byteCount [']'] = 1 ∧ byteCount ['[', ']'] = 2 := by decide
  cases items with
  | nil => simp only [Json.dumps, Json.dumpsItems, byteCount_nil, marks, Nat.add_zero, Nat.le_refl]
  | cons item rest =>
      simp only [Json.dumps, Json.dumpsItems, byteCount_append, marks]
      omega

/-- The packet of an acknowledgement that asks for ranges. -/
theorem byteCount_ack_le {ack : FileAckV2Payload} {document : Json} (encoded : ack.encode = some document)
    (asked : ack.missingRanges = some (ranges.map fun range => ((range.1 : Int), (range.2 : Int))))
    (small : ∀ range ∈ ranges, range.1 < 10000 ∧ range.2 < 10000) :
    byteCount (document.dumps (.compact floatRepr)) ≤ 12 * ranges.length + 1800 := by
  unfold FileAckV2Payload.encode at encoded
  split at encoded
  · rename_i valid
    cases encoded
    simp only [FileAckV2Payload.valid, Bool.and_eq_true, Bool.or_eq_true, decide_eq_true_eq, validFileV2CommonId,
      validUuid4Hex, validPeerId] at valid
    have fileId : byteCount (quote ack.fileId) = 2 + 32 := byteCount_quote_hex valid.1.1.1.1.1.1
    have recipientId : byteCount (quote ack.recipientId) ≤ 2 + 12 * 128 := byteCount_quote_le valid.1.1.1.2.1
    have signature := @byteCount_quote_toText ack.signature
    have signed : ack.signature.length = 64 := by simpa using valid.2
    have status : byteCount (quote ack.status.text) ≤ 2 + 9 := by
      cases ack.status with
      | completed => decide
      | missing => decide
      | blocked => decide
    have array := @byteCount_array_le (.compact floatRepr)
      (ranges.map fun range => FileAckV2Payload.rangeJson ((range.1 : Int), (range.2 : Int)))
    have items := @byteCount_ranges_le ranges floatRepr small
    have names : byteCount (quote "file_id") = 9 ∧ byteCount (quote "recipient_id") = 14 ∧
        byteCount (quote "status") = 8 ∧ byteCount (quote "missing_ranges") = 16 ∧ byteCount (quote "signature") = 11 := by
      decide
    have marks : byteCount ['\x7b'] = 1 ∧ byteCount ['\x7d'] = 1 ∧ byteCount [','] = 1 ∧ byteCount [':'] = 1 := by decide
    have members : ack.unsignedMembers ++ [("signature", Json.text (Hex.toText ack.signature))] =
        [("file_id", .text ack.fileId), ("recipient_id", .text ack.recipientId), ("status", .text ack.status.text),
         ("missing_ranges", .array (ranges.map fun range => FileAckV2Payload.rangeJson ((range.1 : Int), (range.2 : Int)))),
         ("signature", .text (Hex.toText ack.signature))] := by
      simp [FileAckV2Payload.unsignedMembers, asked, List.map_map, Function.comp_def]
    rw [members]
    have separators : (JsonWriter.compact floatRepr).itemSeparator = [','] ∧
        (JsonWriter.compact floatRepr).keySeparator = [':'] := ⟨rfl, rfl⟩
    rw [Json.dumps]
    simp only [Json.dumpsMember, Json.dumpsMembers, separators, byteCount_append, byteCount_nil, names, marks, dumps_text]
    omega
  · cases encoded

/-! ## The acknowledgement -/

theorem ackDocument_encodes {crypto : FileCrypto} {identity : Identity crypto} {fileId : String} {status : AckStatus}
    {asked : Option (List (Nat × Nat))} {document : Json} (built : ackDocument identity fileId status asked = some document) :
    ∃ signature, (ackPayload identity fileId status asked signature).encode = some document := by
  obtain ⟨unsigned, -, encoded⟩ := Option.bind_eq_some_iff.mp built
  exact ⟨_, encoded⟩

theorem frame_of_short {type : PacketType} {payload : Bytes} (short : payload.length + headerSize ≤ maxPacketSize) :
    ∃ frame, Packet.encode ⟨.live type, payload⟩ = some frame ∧ frame.length ≤ maxPacketSize := by
  have live : type.value ≤ 255 := by cases type <;> decide
  have fits : ¬ (payload.length > maxPacketSize ∨ type.value > 255) := by
    simp only [headerSize] at short
    omega
  refine ⟨_, if_neg fits, ?_⟩
  simp only [List.length_append, BigEndian.toBytes_length]
  simp only [headerSize] at short
  omega

/-- The ranges are sorted, apart from each other and cover what is missing.
Where anything is missing, the acknowledgement that asks for them is valid, is
read back as it was, and fits into a packet. -/
theorem missing_ranges_make_acknowledgement (received : Nat → Bool) (total : Nat) (bounded : total ≤ maxFileChunks) :
    (∀ range ∈ missingRanges received total, range.1 ≤ range.2 ∧ range.2 < total) ∧
      Separated (missingRanges received total) ∧
      (∀ index, Covers (missingRanges received total) index ↔ index < total ∧ received index = false) ∧
      ((∃ index < total, received index = false) →
        ∀ {crypto : FileCrypto} (identity : Identity crypto) (fileId : String) (floatRepr : Rat → List Char),
          validFileV2CommonId fileId = true →
          ∃ document signature, ackDocument identity fileId .missing (some (missingRanges received total)) = some document ∧
            (ackPayload identity fileId .missing (some (missingRanges received total)) signature).valid true = true ∧
            FileAckV2Payload.decode document =
              some (ackPayload identity fileId .missing (some (missingRanges received total)) signature) ∧
            ∃ frame, Packet.encode ⟨.live .fileAckV2, document.encoded (.compact floatRepr)⟩ = some frame ∧
              frame.length ≤ maxPacketSize) := by
  refine ⟨missingRanges_ordered.1, missingRanges_separated, fun index => covers_missingRanges, ?_⟩
  intro ⟨index, below, absent⟩ crypto identity fileId floatRepr known
  have asked : missingRanges received total ≠ [] := by
    intro none
    have present := missingRanges_eq_nil_iff.mp none index below
    rw [absent] at present
    cases present
  have fits : AckFits fileId .missing (some (missingRanges received total)) :=
    ⟨known, asked, missingRanges_ordered.widen bounded⟩
  obtain ⟨document, built, -⟩ := @ackDocument_answers crypto identity ⟨"", [], none⟩ _ _ _ fits
  obtain ⟨signature, encoded⟩ := ackDocument_encodes built
  have valid : (ackPayload identity fileId .missing (some (missingRanges received total)) signature).valid true = true := by
    by_contra invalid
    rw [FileAckV2Payload.encode, if_neg invalid] at encoded
    cases encoded
  refine ⟨document, signature, built, valid, FileAckV2Payload.decode_encode encoded, frame_of_short ?_⟩
  have small : ∀ range ∈ missingRanges received total, range.1 < 10000 ∧ range.2 < 10000 := fun range member => by
    have within := missingRanges_ordered.1 range member
    simp only [maxFileChunks] at bounded
    omega
  have size := @byteCount_ack_le (missingRanges received total) floatRepr _ document encoded rfl small
  have few := @missingRanges_separated received total |>.length_le missingRanges_ordered.1
    (fun range _ => Nat.zero_le range.1) (Nat.zero_le _)
  rw [Json.length_encoded]
  simp only [maxFileChunks] at bounded
  simp only [headerSize, maxPacketSize]
  omega

theorem alternating_ranges_make_acknowledgement :
    Separated (missingRanges (fun index => index % 2 = 1) 10000) ∧
      ∃ document, ackDocument plainIdentity aliceFileId .missing (some (missingRanges (fun index => index % 2 = 1) 10000)) =
          some document ∧
        ∃ frame, Packet.encode ⟨.live .fileAckV2, document.encoded (.compact fun _ => [])⟩ = some frame ∧
          frame.length ≤ maxPacketSize := by
  obtain ⟨-, separated, -, acknowledged⟩ :=
    missing_ranges_make_acknowledgement (fun index => index % 2 = 1) 10000 (by decide)
  obtain ⟨document, -, built, -, -, framed⟩ :=
    acknowledged ⟨0, by decide, by decide⟩ plainIdentity aliceFileId (fun _ => []) (by decide +kernel)
  exact ⟨separated, document, built, framed⟩

/-- With every chunk recorded there is no range to ask for, and the validation
takes no empty list. -/
theorem recorded_chunks_make_no_acknowledgement :
    missingRanges (fun _ => true) 3 = [] ∧
      (ackPayload plainIdentity aliceFileId .missing (some (missingRanges (fun _ => true) 3)) (List.replicate 64 0)).valid
        true = false ∧
      ackDocument plainIdentity aliceFileId .missing (some (missingRanges (fun _ => true) 3)) = none := by
  have invalid : (ackPayload plainIdentity aliceFileId .missing (some []) []).valid false = false := by decide +kernel
  have none : missingRanges (fun _ => true) 3 = [] := by decide
  refine ⟨none, by rw [none]; decide +kernel, ?_⟩
  rw [none, ackDocument, FileAckV2Payload.signedDocument, invalid]
  rfl

end MeshTalk.Files
