import MeshTalk.Library.Machine
import MeshTalk.Library.Splices
import MeshTalk.Mentions.Segments

namespace MeshTalk.Mentions

open MeshTalk.Library

/-! # The composer of a group

A picked mention stands in the text as `@Display Name`.  The composer tracks where, and
puts the token of the peer there when the message is sent.
-/

structure MentionSpan where
  peerId : CodeUnits
  name : CodeUnits
  start : Nat
  stop : Nat
deriving Repr, DecidableEq

def atSign : UInt16 := 64

def MentionSpan.shown (span : MentionSpan) : CodeUnits := atSign :: span.name

def tokenOf (peerId : CodeUnits) : CodeUnits := 60 :: atSign :: (peerId ++ [62])

/-- A span before the change stays, and one after it is moved. -/
def MentionSpan.kept (change : Change) (span : MentionSpan) : Option MentionSpan :=
  if span.stop ≤ change.start then some span
  else if change.prevEnd ≤ span.start then
    some { span with
      start := span.start + change.nextEnd - change.prevEnd
      stop := span.stop + change.nextEnd - change.prevEnd }
  else none

def updateSpansAfterEdit (spans : List MentionSpan) (prevText nextText : CodeUnits) : List MentionSpan :=
  if prevText = nextText then spans else spans.filterMap (MentionSpan.kept (diff prevText nextText))

def MentionSpan.splice (span : MentionSpan) : Splice UInt16 := ⟨span.start, span.stop, span.shown, tokenOf span.peerId⟩

/-- The spans from last to first, each of them only where its name still stands. -/
def spansToTokens (text : CodeUnits) (spans : List MentionSpan) : CodeUnits :=
  (spans.mergeSort fun one other => other.start ≤ one.start).foldl (fun result span => span.splice.apply result) text

/-- `[A-Za-z0-9_.-]` -/
def isQueryUnit (unit : UInt16) : Bool :=
  match TextUnit.ascii? unit with
  | some char => isIdChar char || char = '.'
  | none => false

/-- The `@query` right before the cursor, without its sign. -/
def mentionQueryAt (text : CodeUnits) (cursor : Nat) : Option CodeUnits :=
  let before := (text.take cursor).reverse
  let query := (before.takeWhile isQueryUnit).reverse
  match before.dropWhile isQueryUnit with
  | [] => none
  | sign :: rest => if sign = atSign ∧ rest.head?.all isWhitespace then some query else none

/-- `popup` tells whether candidates are offered. -/
structure Composer where
  plainText : CodeUnits
  mentionSpans : List MentionSpan
  prevComposerText : CodeUnits
  popup : Bool
deriving Repr, DecidableEq

namespace Composer

def new : Composer := ⟨[], [], [], false⟩

def handleComposerChange (composer : Composer) (content : CodeUnits) (cursor : Nat) (focused : Bool) : Composer :=
  if composer.prevComposerText = content then composer
  else
    let spans := updateSpansAfterEdit composer.mentionSpans composer.prevComposerText content
    let inSpan := spans.any fun span => decide (span.start ≤ cursor ∧ cursor ≤ span.stop)
    { composer with
      mentionSpans := spans
      prevComposerText := content
      popup := focused && !inSpan && (mentionQueryAt content cursor).isSome }

/-- The text with a name in the place of the query before the cursor. -/
def completed (content query name : CodeUnits) (cursor : Nat) : CodeUnits :=
  content.take (cursor - (query.length + 1)) ++ (atSign :: name ++ [32]) ++ content.drop cursor

def completeMention (composer : Composer) (cursor : Nat) (peerId displayName : CodeUnits) : Composer :=
  match mentionQueryAt composer.plainText cursor with
  | none => { composer with popup := false }
  | some query =>
      let insertAt := cursor - (query.length + 1)
      let after := completed composer.plainText query displayName cursor
      let span : MentionSpan := ⟨peerId, displayName, insertAt, insertAt + displayName.length + 1⟩
      { plainText := after
        mentionSpans := updateSpansAfterEdit composer.mentionSpans composer.plainText after ++ [span]
        prevComposerText := after
        popup := false }

/-- One key takes a whole mention away; a span whose name does not stand there is only dropped. -/
def deleteMentionSpan (composer : Composer) (span : MentionSpan) : Composer :=
  if slice composer.plainText span.start span.stop ≠ span.shown then
    { composer with mentionSpans := composer.mentionSpans.filter fun item =>
        item.peerId ≠ span.peerId ∨ item.start ≠ span.start ∨ item.stop ≠ span.stop }
  else
    let after := composer.plainText.take span.start ++ composer.plainText.drop span.stop
    { plainText := after
      mentionSpans := updateSpansAfterEdit composer.mentionSpans composer.plainText after
      prevComposerText := after
      popup := false }

def trim (text : CodeUnits) : CodeUnits := ((text.dropWhile isWhitespace).reverse.dropWhile isWhitespace).reverse

def message (composer : Composer) : CodeUnits := trim (spansToTokens composer.plainText composer.mentionSpans)

/-- A message that is sent leaves the composer empty; one that is empty or too long stays. -/
def send (composer : Composer) (tooLong : Bool) : Composer :=
  if composer.message = [] ∨ tooLong then composer else { new with popup := composer.popup }

end Composer

inductive ComposerEvent where
  | change (content : CodeUnits) (cursor : Nat) (focused : Bool)
  | pick (cursor : Nat) (peerId displayName : CodeUnits)
  | delete (span : MentionSpan)
  | dismiss
  | send (tooLong : Bool)
deriving Repr, DecidableEq

namespace Composer

/-- Candidates are picked from the popup, and keys are for tracked spans. -/
def step (composer : Composer) : ComposerEvent → Option Composer
  | .change content cursor focused => some ({ composer with plainText := content }.handleComposerChange content cursor focused)
  | .pick cursor peerId displayName =>
      if composer.popup ∧ cursor ≤ composer.plainText.length then some (composer.completeMention cursor peerId displayName) else none
  | .delete span => if span ∈ composer.mentionSpans then some (composer.deleteMentionSpan span) else none
  | .dismiss => some { composer with popup := false }
  | .send tooLong => some (composer.send tooLong)

end Composer

end MeshTalk.Mentions
