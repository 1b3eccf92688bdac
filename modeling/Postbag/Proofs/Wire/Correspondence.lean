import Postbag.Proofs.Imap.Letters
import Postbag.Proofs.Stream.Consumers
import Postbag.Proofs.Wire.Listing
/-!
# Correspondence — a letter in a mailbox, and the message that a consumer is handed of it

The letter stands among other data of the answer to a FETCH.  Its message comes where the letter stands, and tells the
values of the letter as a reader gets them: as they were meant, but for the backslashes in those between quotes.
-/
namespace Postbag

namespace Wire

open Imap (Correspondent Correspondents Letter NilForm Numeral Part SlotForm StringForm Value)
open Imap.Reader (ascii)
open Postbag.Stream (given isFailure upToFailure)

/-- What a consumer is handed of data. -/
def told (data : List Datum) : List Element := ((data.filterMap Datum.record?).map Except.ok).filterMap given

theorem told_append (data data' : List Datum) : told (data ++ data') = told data ++ told data' := by
  unfold told
  rw [List.filterMap_append, List.map_append, List.filterMap_append]

namespace Stored

theorem told_datum {m : Stored} {message : Message} (h : m.message? = some message) (behind : List Datum) :
    told (m.datum :: behind) = .ok message :: told behind := by
  have hrecord : m.datum.record? = some m.record := rfl
  have hgiven : given (.ok m.record) = some (.ok message) := by rw [given_record, h]; rfl
  unfold told
  rw [List.filterMap_cons_some hrecord, List.map_cons, List.filterMap_cons_some hgiven]

end Stored

namespace Connection

/-- **A letter is delivered with its values as a reader gets them.**  Where nothing before it ends the stream, its message
stands behind what was told before.  It tells what was meant just where no backslash had to be put in the letter. -/
theorem stream_letter (c : Connection) (mailbox : String) (count : UInt32) (selection fetched : Answer)
    (rest : List Reply) (before behind : List Datum) (m : Stored) (l : Letter)
    (hc : c.Idle (selection.reply :: fetched.reply :: rest)) (hm : Imap.checkArgument mailbox = .ok ())
    (hs : selection.selection = .ok count) (hn : count ≠ 0) (hd : fetched.data = before ++ m.datum :: behind)
    (hb : (told before).any isFailure = false) (hl : m.envelope = some l.form) :
    ∃ message : Message,
      (c.stream mailbox .eager).1.elements = told before ++ .ok message :: upToFailure (told behind) ∧
      message.uid = m.uid ∧ message.body = m.body ∧ l.Tells Value.kept message.headers ∧
      (l.Tells Value.text message.headers ↔ l.Plain) := by
  obtain ⟨hselected, hstream⟩ := stream_selected hc hm hs hn .eager
  obtain ⟨hf, -⟩ := fetch_idle hselected
  have hmessage : m.message? = some ⟨m.uid, m.body, Headers.ofEnvelope l.form.value⟩ := by
    rw [Stored.message?, hl]
    rfl
  have htold := told_append before (m.datum :: behind)
  rw [Stored.told_datum hmessage] at htold
  refine ⟨⟨m.uid, m.body, Headers.ofEnvelope l.form.value⟩, ?_, rfl, rfl, l.tells_kept,
    Letter.tells_text_iff l.tells_kept⟩
  rw [hstream, hf, Stream.elements_run_drains hn, Answer.records, hd]
  show upToFailure (told (before ++ m.datum :: behind)) = _
  rw [htold, Stream.upToFailure_of_all hb, upToFailure]

/-- A letter whose id is counted and has a quote in it, from a correspondent without a host, behind another number of
messages. -/
theorem stream_letter_of_counted_quote :
    let empty : SlotForm := .empty ⟨ascii "NIL", by decide⟩
    let nobody : Correspondents := ⟨⟨ascii "nil", by decide⟩, []⟩
    let three : Numeral := .ofNat 3 (by decide)
    let id : Value := .counted three "a\"b".toList (by decide) (by decide) (by decide)
    let ann : Correspondent := ⟨empty, empty, .given (.quoted "ann".toList (by decide) (by decide)),
      .lacking ⟨ascii "NIL", by decide⟩, false⟩
    let l : Letter := ⟨empty, empty, ⟨⟨ascii "NIL", by decide⟩, [ann]⟩, nobody.form, nobody.form, nobody, nobody,
      nobody.form, empty, id⟩
    let m : Stored := ⟨1, 7, by decide, some l.form, ascii "x", by decide, by decide, by decide⟩
    let selection : Answer := .succeeding [.counting 1]
    let fetched : Answer := .succeeding [.counting 1, m.datum]
    let c := fresh [] [selection.reply, fetched.reply] []
    c.Idle [selection.reply, fetched.reply] ∧ ∃ message : Message,
      (c.stream "INBOX" .eager).1.elements = [.ok message] ∧ message.uid = 7 ∧ message.body = ascii "x" ∧
      l.Tells Value.kept message.headers ∧ (l.Tells Value.text message.headers ↔ l.Plain) := by
  intro empty nobody three id ann l m selection fetched c
  have hc : c.Idle [selection.reply, fetched.reply] := ⟨rfl, rfl⟩
  have hsendable : Imap.checkArgument "INBOX" = .ok () := by decide +kernel
  exact ⟨hc, stream_letter c "INBOX" 1 selection fetched [] [.counting 1] [] m l hc hsendable rfl (by decide) rfl rfl rfl⟩

/-- **A backslash comes into an id**: `a"b` is meant, and sent between quotes, and a consumer is handed another text. -/
theorem backslash_in_id :
    let empty : SlotForm := .empty ⟨ascii "NIL", by decide⟩
    let nobody : Correspondents := ⟨⟨ascii "NIL", by decide⟩, []⟩
    let id : Value := .quoted "a\"b".toList (by decide) (by decide)
    let l : Letter := ⟨empty, empty, nobody, nobody.form, nobody.form, nobody, nobody, nobody.form, empty, id⟩
    let m : Stored := ⟨1, 7, by decide, some l.form, ascii "x", by decide, by decide, by decide⟩
    let selection : Answer := .succeeding [.counting 1]
    let fetched : Answer := .succeeding [m.datum]
    let c := fresh [] [selection.reply, fetched.reply] []
    m.octets = ascii ("* 1 FETCH (UID 7 ENVELOPE (NIL NIL NIL NIL NIL NIL NIL NIL NIL \"a\\\"b\") " ++
        "BODY[] \x7b1\x7d\r\nx)\r\n") ∧
      (c.stream "INBOX" .eager).1.elements.map (fun e => e.toOption.map fun message => message.headers.messageId) =
        [some "a\\\"b"] ∧
      "a\\\"b" ≠ String.ofList id.text := by
  intro empty nobody id l m selection fetched c
  exact ⟨by decide +kernel, by decide +kernel, by decide +kernel⟩

end Connection
end Wire
end Postbag
