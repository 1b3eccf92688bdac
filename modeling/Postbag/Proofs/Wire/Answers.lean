import Postbag.Proofs.Imap.Written
import Postbag.Wire.Connection
/-!
# Answers — what is heard of a complete answer

An answer is complete where data comes first and the tagged line of its command last, each of them a response that can
be read.  Heard to its end, a complete answer leaves nothing behind, and what is heard of it does not depend on the tag.
-/
namespace Postbag

namespace Imap

open Reader

/-- Data that a command waits behind: neither the end of a command nor a status that is a failure. -/
def Response.isData : Response → Bool
  | .condition .ok _ | .count _ | .fetch _ | .other => true
  | _ => false

/-- What stands behind the tag in the last line of an answer. -/
def ending : Reader (Status × Remark) := do
  word " "
  let c ← condition
  word "\r\n"
  return c

/-! ## The tagged line -/

theorem eq_space_of_lower {b : UInt8} (h : lower b = lower 0x20) : b = 0x20 := by
  have hspace : lower 0x20 = 0x20 := by decide
  rw [hspace, lower] at h
  split at h
  · rename_i hr
    rw [Bool.and_eq_true, decide_eq_true_eq, decide_eq_true_eq, UInt8.le_iff_toNat_le, UInt8.le_iff_toNat_le] at hr
    have hn := congrArg UInt8.toNat h
    rw [UInt8.toNat_add] at hn
    have h1 : (0x41 : UInt8).toNat = 65 := rfl
    have h2 : (0x5A : UInt8).toNat = 90 := rfl
    have h3 : (0x20 : UInt8).toNat = 32 := rfl
    omega
  · exact h

/-- What a space can be read of does not go on with a tag. -/
theorem exists_cons_of_word_space {s rest : List UInt8} {u : Unit} (h : word " " s = .done u rest) :
    ∃ b t, s = b :: t ∧ isTag b = false := by
  have hword : word " " = keyword [0x20] := rfl
  rw [hword, keyword_cons, bind_apply] at h
  obtain ⟨b, t, ho, -⟩ := Scan.bind_eq_done h
  cases s with
  | nil => cases ho
  | cons c s =>
    refine ⟨c, s, rfl, ?_⟩
    rw [octet] at ho
    split at ho
    · rename_i hl
      rw [eq_space_of_lower (of_decide_eq_true hl)]
      decide
    · cases ho

theorem isTag_of_isDigit {c : Char} (h : c.isDigit = true) : isTag (UInt8.ofNat c.toNat) = true := by
  have hall : ∀ k < 10, isTag (UInt8.ofNat (Char.ofNat (48 + k)).toNat) = true := by decide
  obtain ⟨k, hk, rfl⟩ := Text.eq_ofNat_of_isDigit h
  exact hall k hk

/-- **A tag is a letter and digits.** -/
theorem ascii_tag (n : Nat) : ∃ s, ascii (tag n) = 0x41 :: s ∧ ∀ b ∈ s, isTag b = true := by
  refine ⟨(Text.zeroPadded 4 n).map fun c => UInt8.ofNat c.toNat, ?_, fun b hb => ?_⟩
  · rw [ascii, tag, String.toList_ofList]
    rfl
  · obtain ⟨c, hc, rfl⟩ := List.mem_map.1 hb
    exact isTag_of_isDigit (Text.isDigit_of_mem_zeroPadded hc)

/-- **The tagged line of a command is read as such**, whatever its number. -/
theorem response_tagged (n : Nat) {line : List UInt8} {s : Status} {r : Remark} (h : ending line = .done (s, r) []) :
    response (ascii (tag n) ++ line) = .done (.tagged (ascii (tag n)) s r) [] := by
  obtain ⟨ds, htag, hds⟩ := ascii_tag n
  obtain ⟨u, s1, hspace, h1⟩ := Scan.bind_eq_done h
  obtain ⟨b, t, hline, hb⟩ := exists_cons_of_word_space hspace
  obtain ⟨c, s2, hcond, h2⟩ := Scan.bind_eq_done h1
  obtain ⟨u', s3, hend, h3⟩ := Scan.bind_eq_done h2
  cases h3
  have hletter : isTag 0x41 = true := by decide
  have hspan : span1 isTag (ascii (tag n) ++ line) = .done (ascii (tag n)) line := by
    rw [htag, span1, List.cons_append, bind_apply, octet, if_pos hletter, hline]
    show Scan.bind (span isTag (ds ++ b :: t)) _ = _
    rw [span_append hds hb]
    rfl
  have htagged : tagged (ascii (tag n) ++ line) = .done (.tagged (ascii (tag n)) s r) [] := by
    rw [tagged, bind_apply, hspan]
    show Scan.bind (word " " line) _ = _
    rw [hspace]
    show Scan.bind (condition s1) _ = _
    rw [hcond]
    show Scan.bind (word "\r\n" s2) _ = _
    rw [hend]
    rfl
  rw [response, firstOf, either_of_refused (by rw [htag]; rfl), firstOf, either_of_refused (by rw [htag]; rfl), firstOf]
  exact either_of_done htagged

theorem ending_ok : ending (ascii " OK\r\n") = .done (.ok, ⟨none, none⟩) [] := rfl

end Imap

namespace Wire

open Imap (Response Status Remark Fault Numeral Scan ending)
open Imap.Numeral (decimal)
open Imap.Reader (ascii)

/-- Octets that are one response, of data. -/
structure Datum where
  octets : List UInt8
  response : Response
  read : Imap.response octets = .done response []
  isData : response.isData = true

/-- The number of messages behind a datum, where `n` was told before. -/
def Datum.count (n : UInt32) (d : Datum) : UInt32 :=
  match d.response with
  | .count m => m
  | _ => n

theorem Datum.read_counting (n : UInt32) :
    Imap.response (ascii "* " ++ decimal n.toNat ++ ascii " EXISTS\r\n") = .done (.count n) [] := by
  have h := Imap.response_count (.ofNat n.toNat n.toNat_lt) []
  rwa [Numeral.digits_ofNat, Numeral.value_ofNat, UInt32.ofNat_toNat, List.append_nil, ← List.append_assoc] at h

/-- The datum that tells a number of messages. -/
def Datum.counting (n : UInt32) : Datum :=
  ⟨ascii "* " ++ decimal n.toNat ++ ascii " EXISTS\r\n", .count n, read_counting n, rfl⟩

def Datum.record? (d : Datum) : Option Record :=
  match d.response with
  | .fetch r => some r
  | _ => none

/-- **A complete answer**: data, and the tagged line. -/
structure Answer where
  data : List Datum
  /-- The last line, without its tag. -/
  line : List UInt8
  status : Status
  remark : Remark
  ended : ending line = .done (status, remark) []

namespace Answer

/-- The answer of a command that succeeds, in the fewest words. -/
def succeeding (data : List Datum) : Answer := ⟨data, ascii " OK\r\n", .ok, ⟨none, none⟩, Imap.ending_ok⟩

def octets (a : Answer) : List UInt8 := a.data.flatMap Datum.octets

/-- The answer as a server gives it. -/
def reply (a : Answer) : Reply := ⟨a.octets.map .octet ++ .tag :: a.line.map .octet, false⟩

theorem said_reply (a : Answer) (tag : List UInt8) : a.reply.said tag = a.octets ++ (tag ++ a.line) := by
  simp only [reply, Reply.said, List.flatMap_append, List.flatMap_cons, List.flatMap_map, List.flatMap_singleton']

def count (a : Answer) : UInt32 := a.data.foldl Datum.count 0

def records (a : Answer) : List Record := a.data.filterMap Datum.record?

def result (a : Answer) : Except Fault Unit :=
  match a.status with
  | .ok => .ok ()
  | s => .error (statusFault s a.remark)

def selection (a : Answer) : Except Fault UInt32 := a.result.map fun _ => a.count

end Answer

/-! ## Hearing an answer -/

namespace Feed

/-- The limit on the number of responses is never reached. -/
theorem upTo_eq {n m : Nat} {bs : List UInt8} (hn : bs.length ≤ n) (hm : bs.length ≤ m) : upTo n bs = upTo m bs := by
  induction n generalizing m bs with
  | zero =>
    rw [List.length_eq_zero_iff.1 (Nat.le_zero.1 hn), upTo, upTo]
  | succ n ih =>
    cases bs with
    | nil => rw [upTo, upTo]
    | cons b bs =>
      obtain ⟨m, rfl⟩ := Nat.exists_eq_add_one_of_ne_zero (Nat.ne_zero_of_lt hm)
      rw [upTo, upTo]
      cases h : Imap.response (b :: bs) with
      | done r behind =>
        have hlt := Imap.eats_response _ _ _ h
        have hn' : behind.length ≤ n := by omega
        have hm' : behind.length ≤ m := by omega
        simp only [ih hn' hm']
      | more => rfl
      | refused => rfl

/-- **A response that can be read is read, and what stands behind it is read next.** -/
theorem ofOctets_append {octets : List UInt8} {r : Response} (h : Imap.response octets = .done r []) (t : List UInt8) :
    ofOctets (octets ++ t) = .response r t (ofOctets t) := by
  have hread := Imap.regular_response.done h t
  rw [List.nil_append] at hread
  have hlt := Imap.eats_response _ _ _ hread
  obtain ⟨n, hlen⟩ := Nat.exists_eq_add_one_of_ne_zero (Nat.ne_zero_of_lt hlt)
  obtain ⟨b, bs, hcons⟩ := List.exists_cons_of_length_eq_add_one hlen
  have ht : t.length ≤ n := by omega
  rw [ofOctets, hlen, hcons, upTo, ← hcons, hread]
  exact congrArg _ (upTo_eq ht (Nat.le_refl _))

theorem ofOctets_tagged (a : Answer) (n : Nat) :
    ofOctets (ascii (Imap.tag n) ++ a.line) = .response (.tagged (ascii (Imap.tag n)) a.status a.remark) [] .ended := by
  have := ofOctets_append (Imap.response_tagged n a.ended) []
  rwa [List.append_nil] at this

theorem selected_data (tag : List UInt8) (data : List Datum) (count : UInt32) (t : List UInt8) :
    (ofOctets (data.flatMap Datum.octets ++ t)).selected tag count =
      (ofOctets t).selected tag (data.foldl Datum.count count) := by
  induction data generalizing count with
  | nil => rfl
  | cons d data ih =>
    rw [List.flatMap_cons, List.append_assoc, ofOctets_append d.read, List.foldl_cons, Datum.count]
    have hd := d.isData
    cases hr : d.response with
    | goOn => rw [hr] at hd; cases hd
    | tagged => rw [hr] at hd; cases hd
    | condition s r =>
      cases s with
      | ok => exact ih count
      | _ => rw [hr] at hd; cases hd
    | count n => exact ih n
    | _ => exact ih count

theorem steps_data (tag : List UInt8) (data : List Datum) (t : List UInt8) :
    (ofOctets (data.flatMap Datum.octets ++ t)).steps tag =
      ⟨(data.filterMap Datum.record?).map Except.ok ++ ((ofOctets t).steps tag).value,
        ((ofOctets t).steps tag).left⟩ := by
  induction data with
  | nil => rfl
  | cons d data ih =>
    rw [List.flatMap_cons, List.append_assoc, ofOctets_append d.read, List.filterMap_cons, Datum.record?]
    have hd := d.isData
    cases hr : d.response with
    | tagged => rw [hr] at hd; cases hd
    | fetch r =>
      rw [steps, ih]
      rfl
    | _ => exact ih

end Feed

namespace Answer

/-- **A selection is heard of a complete answer**, whatever the tag, and nothing is left behind. -/
theorem selected_said (a : Answer) (n : Nat) :
    (Feed.ofOctets (a.reply.said (ascii (Imap.tag n)))).selected (ascii (Imap.tag n)) 0 = ⟨a.selection, some []⟩ := by
  rw [said_reply, octets, Feed.selected_data, Feed.ofOctets_tagged, selection, count, result]
  cases a.status <;> simp [Feed.selected, Except.map]

/-- **The steps of a FETCH are heard of a complete answer**, whatever the tag, and nothing is left behind. -/
theorem steps_said (a : Answer) (n : Nat) :
    (Feed.ofOctets (a.reply.said (ascii (Imap.tag n)))).steps (ascii (Imap.tag n)) =
      ⟨a.records.map .ok, some []⟩ := by
  rw [said_reply, octets, Feed.steps_data, Feed.ofOctets_tagged]
  simp [Feed.steps, records]

end Answer
end Wire
end Postbag
