import Postbag.Proofs.Wire.Calls
/-!
# Listing — the messages of a mailbox as a server sends them

Each message is one FETCH response: its numbers, perhaps its ENVELOPE, and its octets behind their count.  The count
alone says where the octets end, so they may look like anything, like another response or the end of the command too.
-/
namespace Postbag

namespace Wire

open Imap (AddressesForm Attribute EnvelopeForm Numeral SlotForm StringForm item recordOf)
open Imap.Numeral (decimal)
open Imap.Reader
open Postbag.Stream (given)

/-- **A message as a mailbox holds it.**  The server may know no ENVELOPE of it.  Its octets may be anything but the
octet 0, and as many as a count can tell. -/
structure Stored where
  number : UInt32
  uid : UInt32
  uid_ne_zero : uid ≠ 0
  envelope : Option EnvelopeForm
  body : List UInt8
  body_ne_nil : body ≠ []
  zero_not_mem : 0 ∉ body
  counted : body.length < UInt32.size

namespace Stored

def envelopeOctets (m : Stored) : List UInt8 :=
  match m.envelope with
  | none => []
  | some f => ascii " ENVELOPE " ++ f.octets

/-- The FETCH response of a message. -/
def octets (m : Stored) : List UInt8 :=
  ascii "* " ++ decimal m.number.toNat ++ ascii " FETCH (UID " ++ decimal m.uid.toNat ++ m.envelopeOctets ++
    ascii " BODY[] \x7b" ++ decimal m.body.length ++ ascii "\x7d\r\n" ++ m.body ++ ascii ")\r\n"

def record (m : Stored) : Record := ⟨m.uid, m.envelope.map EnvelopeForm.value, some m.body⟩

def message? (m : Stored) : Option Message :=
  m.envelope.map fun f => ⟨m.uid, m.body, Headers.ofEnvelope f.value⟩

def bodyForm (m : Stored) : StringForm :=
  .counted (.ofNat m.body.length m.counted) m.body
    (by rw [Imap.Numeral.value_ofNat, UInt32.toNat_ofNat_of_lt' m.counted]) m.zero_not_mem

def attributes (m : Stored) : List Attribute :=
  .uid m.uid :: (m.envelope.map fun f => .envelope f.value).toList ++ [.body (some m.body)]

theorem recordOf_attributes (m : Stored) : recordOf m.attributes = m.record := by
  unfold attributes record
  cases m.envelope <;> rfl

/-- The attributes of a message are read up to the closing bracket, which is found by the count. -/
theorem spaced_attributes (m : Stored) (rest : List UInt8) :
    spaced item (ascii "UID " ++ (decimal m.uid.toNat ++ (m.envelopeOctets ++ (ascii " " ++ (ascii "BODY[] " ++
      (m.bodyForm.octets ++ (ascii ")\r\n" ++ rest))))))) = .done m.attributes (ascii ")\r\n" ++ rest) := by
  -- from the last attribute to the first, since each is read with what stands behind it
  have hend : many (do word " "; item) (ascii ")\r\n" ++ rest) = .done [] (ascii ")\r\n" ++ rest) := many_nil rfl
  have hbody := Imap.many_item (Imap.item_body (.filled m.bodyForm) (ascii ")\r\n" ++ rest)) hend
  have huid (t : List UInt8) : item (ascii "UID " ++ (decimal m.uid.toNat ++ (ascii " " ++ t))) =
      .done (.uid m.uid) (ascii " " ++ t) := by
    have := Imap.item_uid (.ofNat m.uid.toNat m.uid.toNat_lt) t
    rwa [Imap.Numeral.value_ofNat, UInt32.ofNat_toNat] at this
  unfold envelopeOctets attributes
  cases m.envelope with
  | none => exact Imap.spaced_of_done (huid _) hbody
  | some f =>
    have hname : ascii " ENVELOPE " = ascii " " ++ ascii "ENVELOPE " := rfl
    simp only [hname, List.append_assoc]
    exact Imap.spaced_of_done (huid _) (Imap.many_item (Imap.item_envelope f _) hbody)

/-- **A stored message is read as its record**, whatever its octets look like. -/
theorem response_octets (m : Stored) : Imap.response m.octets = .done (.fetch m.record) [] := by
  have hfetch : ascii " FETCH (UID " = ascii " FETCH (" ++ ascii "UID " := rfl
  have hbody : ascii " BODY[] \x7b" = ascii " " ++ (ascii "BODY[] " ++ ascii "\x7b") := rfl
  have hcounted : m.bodyForm.octets = ascii "\x7b" ++ decimal m.body.length ++ ascii "\x7d\r\n" ++ m.body := rfl
  have hread := Imap.response_fetch (.ofNat m.number.toNat m.number.toNat_lt) (m.spaced_attributes [])
  rw [recordOf_attributes, hcounted, Numeral.digits_ofNat] at hread
  rw [octets, hfetch, hbody]
  simpa only [List.append_assoc, List.append_nil] using hread

def datum (m : Stored) : Datum := ⟨m.octets, .fetch m.record, m.response_octets, rfl⟩

theorem given_record (m : Stored) : given (.ok m.record) = m.message?.map .ok := by
  obtain ⟨b, bs, hb⟩ := List.exists_cons_of_ne_nil m.body_ne_nil
  unfold message? record
  rw [hb]
  cases m.envelope <;> simp [given, m.uid_ne_zero]

end Stored

theorem filterMap_given_stored (stored : List Stored) :
    (((stored.map Stored.datum).filterMap Datum.record?).map Except.ok).filterMap given =
      (stored.filterMap Stored.message?).map .ok := by
  have hrecords : (stored.map Stored.datum).filterMap Datum.record? = stored.map Stored.record := by
    rw [List.filterMap_map]
    show stored.filterMap (some ∘ Stored.record) = _
    rw [List.filterMap_eq_map]
  rw [hrecords, List.map_map, List.filterMap_map, List.map_filterMap]
  exact congrArg (List.filterMap · stored) (funext Stored.given_record)

namespace Connection

/-- **What a mailbox holds is what a consumer is handed.**  Where the server tells of a mailbox that is not empty, and
sends its messages one after another, a consumer that takes every element is handed those that have an ENVELOPE, in
order, each with its number and its octets as they were sent, and no failure; and the connection is idle again, with
every octet read. -/
theorem stream_stored (c : Connection) (mailbox : String) (count : UInt32) (selection fetched : Answer)
    (stored : List Stored) (rest : List Reply) (hc : c.Idle (selection.reply :: fetched.reply :: rest))
    (hm : Imap.checkArgument mailbox = .ok ()) (hs : selection.selection = .ok count) (hn : count ≠ 0)
    (hd : fetched.data = stored.map Stored.datum) :
    (c.stream mailbox .eager).1.elements = (stored.filterMap Stored.message?).map .ok ∧
      (c.stream mailbox .eager).2.Idle rest := by
  obtain ⟨hselected, hstream⟩ := stream_selected hc hm hs hn .eager
  obtain ⟨hf, hidle⟩ := fetch_idle hselected
  rw [hstream, hf]
  refine ⟨?_, hidle⟩
  rw [Stream.elements_run_drains hn, Answer.records, hd, filterMap_given_stored, Stream.upToFailure_map_ok]

/-- A mail whose octets look like another response and the end of the command, and one without an ENVELOPE. -/
theorem stream_stored_of_imitation :
    let empty : SlotForm := .empty ⟨ascii "NIL", by decide⟩
    let nobody : AddressesForm := .none ⟨ascii "nil", by decide⟩
    let two : Numeral := ⟨ascii "02", by decide, by decide +kernel, by decide +kernel⟩
    let subject : SlotForm := .filled (.counted two (ascii "Hi") rfl (by decide))
    let f : EnvelopeForm := ⟨empty, subject, nobody, nobody, nobody, nobody, nobody, nobody, empty, empty⟩
    let first : Stored := ⟨1, 7, by decide, some f, ascii ")\r\n* 2 FETCH (UID 9 BODY[] \"x\")\r\nA0002 OK\r\n",
      by decide +kernel, by decide +kernel, by decide +kernel⟩
    let second : Stored := ⟨2, 8, by decide, none, ascii "x", by decide, by decide, by decide +kernel⟩
    let selection : Answer := .succeeding [.counting 2]
    let fetched : Answer := .succeeding [first.datum, second.datum]
    let replies := [selection.reply, fetched.reply]
    let c := fresh [] replies []
    c.Idle replies ∧ (c.stream "INBOX" .eager).1.elements = [.ok ⟨7, first.body, Headers.ofEnvelope f.value⟩] ∧
      (c.stream "INBOX" .eager).2.Idle [] := by
  intro empty nobody two subject f first second selection fetched replies c
  have hc : c.Idle replies := ⟨rfl, rfl⟩
  have hsendable : Imap.checkArgument "INBOX" = .ok () := by decide +kernel
  exact ⟨hc, stream_stored c "INBOX" 2 selection fetched [first, second] [] hc hsendable rfl (by decide) rfl⟩

end Connection
end Wire
end Postbag
