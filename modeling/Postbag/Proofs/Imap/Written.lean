import Postbag.Proofs.Imap.Regular
import Postbag.Proofs.Text.Numbers
/-!
# Written — the forms in which a server may write what it tells of a message

The grammar of an ENVELOPE, as trees.  Each form tells the octets that it is written as and the value that they stand
for.  Whatever stands behind the octets, the reader of the value reads this value of them and stops behind them, so that
forms can be put one after another, as the attributes of a FETCH response.
-/
namespace Postbag
namespace Imap

open Reader

namespace Reader

variable {α β : Type}

@[simp] theorem Scan.bind_done (a : α) (rest : List UInt8) (f : α → Reader β) : Scan.bind (.done a rest) f = f a rest :=
  rfl

theorem map_apply (f : α → β) (r : Reader α) (s : List UInt8) :
    (f <$> r) s = Scan.bind (r s) fun a => Pure.pure (f a) := rfl

theorem keyword_append {w bs : List UInt8} (h : bs.map lower = w.map lower) (rest : List UInt8) :
    keyword w (bs ++ rest) = .done () rest := by
  induction w generalizing bs with
  | nil =>
    rw [List.map_eq_nil_iff.1 h]
    rfl
  | cons b w ih =>
    obtain ⟨c, bs, rfl, hc, hbs⟩ := List.map_eq_cons_iff.1 h
    rw [List.cons_append, keyword_cons, bind_apply, octet, if_pos (decide_eq_true hc), Scan.bind_done, ih hbs]

@[simp] theorem word_ascii (w : String) (rest : List UInt8) : word w (ascii w ++ rest) = .done () rest :=
  keyword_append rfl rest

theorem take_append {n : Nat} {s : List UInt8} (h : s.length = n) (rest : List UInt8) :
    take n (s ++ rest) = .done s rest := by
  rw [take, if_neg (by rw [List.length_append]; omega), List.take_left' h, List.drop_left' h]

end Reader

/-! ## Numbers -/

theorem mem_of_isDigit {d : UInt8} (h : isDigit d = true) :
    d ∈ [0x30, 0x31, 0x32, 0x33, 0x34, 0x35, 0x36, 0x37, 0x38, 0x39] := by
  have hall : ∀ k < 10,
      UInt8.ofNat (48 + k) ∈ [0x30, 0x31, 0x32, 0x33, 0x34, 0x35, 0x36, 0x37, 0x38, 0x39] := by decide
  rw [isDigit, Bool.and_eq_true, decide_eq_true_eq, decide_eq_true_eq, UInt8.le_iff_toNat_le,
    UInt8.le_iff_toNat_le] at h
  have h0 : (0x30 : UInt8).toNat = 48 := rfl
  have h9 : (0x39 : UInt8).toNat = 57 := rfl
  have hd : 48 + (d.toNat - 48) = d.toNat := by omega
  have hmem := hall (d.toNat - 48) (by omega)
  rwa [hd, UInt8.ofNat_toNat] at hmem

structure Numeral where
  digits : List UInt8
  nonempty : digits ≠ []
  isDigit : ∀ d ∈ digits, Reader.isDigit d = true
  small : valueOf digits < UInt32.size

namespace Numeral

def value (n : Numeral) : UInt32 := .ofNat (valueOf n.digits)

/-- **A number is read up to the first octet that is no digit.** -/
theorem read (n : Numeral) {b : UInt8} (hb : Reader.isDigit b = false) (rest : List UInt8) :
    number (n.digits ++ b :: rest) = .done n.value (b :: rest) := by
  obtain ⟨d, ds, hds⟩ := List.exists_cons_of_ne_nil n.nonempty
  have hd := n.isDigit
  rw [hds] at hd
  have hspan : span1 Reader.isDigit (n.digits ++ b :: rest) = .done n.digits (b :: rest) := by
    rw [hds, List.cons_append, span1, bind_apply, octet, if_pos (hd d List.mem_cons_self), Scan.bind_done, bind_apply,
      span_append (fun c hc => hd c (List.mem_cons_of_mem _ hc)) hb]
    rfl
  rw [number, map_apply, numberBelow, bind_apply, hspan, Scan.bind_done, if_pos n.small]
  rfl

theorem isDigit_ofNat {c : Char} (h : c.isDigit = true) :
    Reader.isDigit (UInt8.ofNat c.toNat) = true ∧ (UInt8.ofNat c.toNat).toNat = c.toNat := by
  have hall : ∀ k < 10, Reader.isDigit (UInt8.ofNat (Char.ofNat (48 + k)).toNat) = true ∧
      (UInt8.ofNat (Char.ofNat (48 + k)).toNat).toNat = (Char.ofNat (48 + k)).toNat := by decide
  obtain ⟨k, hk, rfl⟩ := Text.eq_ofNat_of_isDigit h
  exact hall k hk

def decimal (n : Nat) : List UInt8 := (Text.digits n).map fun c => UInt8.ofNat c.toNat

theorem isDigit_of_mem_decimal {n : Nat} {d : UInt8} (h : d ∈ decimal n) : Reader.isDigit d = true := by
  obtain ⟨c, hc, rfl⟩ := List.mem_map.1 h
  exact (isDigit_ofNat (Text.isDigit_of_mem_digits hc)).1

theorem valueOf_decimal (n : Nat) : valueOf (decimal n) = n := by
  have hfold : ∀ (cs : List Char) (v : Nat), (∀ c ∈ cs, c.isDigit = true) →
      (cs.map fun c => UInt8.ofNat c.toNat).foldl (fun v d => v * 10 + (d.toNat - 48)) v =
        Nat.ofDigitChars 10 cs v := by
    intro cs
    induction cs with
    | nil => exact fun _ _ => rfl
    | cons c cs ih =>
      intro v h
      have hc := (isDigit_ofNat (h c List.mem_cons_self)).2
      rw [List.map_cons, List.foldl_cons, ih _ fun d hd => h d (List.mem_cons_of_mem _ hd), Nat.ofDigitChars_cons, hc,
        Nat.mul_comm v]
      rfl
  exact (hfold _ 0 fun _ => Text.isDigit_of_mem_digits).trans Nat.ofDigitChars_ten_toDigits

/-- A number as it is mostly written. -/
def ofNat (n : Nat) (h : n < UInt32.size) : Numeral where
  digits := decimal n
  nonempty := fun h => Nat.toDigits_ne_nil (List.map_eq_nil_iff.1 h)
  isDigit := fun _ => isDigit_of_mem_decimal
  small := by rwa [valueOf_decimal]

theorem digits_ofNat {n : Nat} (h : n < UInt32.size) : (ofNat n h).digits = decimal n := rfl

theorem value_ofNat {n : Nat} (h : n < UInt32.size) : (ofNat n h).value = .ofNat n := by
  rw [value, ofNat, valueOf_decimal]

end Numeral

/-! ## Strings -/

/-- What may stand between quotes: text in which each quote and each backslash has a backslash in front. -/
inductive Quotable : List UInt8 → Prop
  | nil : Quotable []
  | text {b : UInt8} {s : List UInt8} : isText b = true → b ≠ 0x22 → b ≠ 0x5C → Quotable s → Quotable (b :: s)
  | escaped {b : UInt8} {s : List UInt8} : b = 0x22 ∨ b = 0x5C → Quotable s → Quotable (0x5C :: b :: s)

theorem Quotable.read {s : List UInt8} (h : Quotable s) (rest : List UInt8) :
    quotedRest (s ++ (ascii "\"" ++ rest)) = .done s rest := by
  induction h with
  | nil =>
    show quotedRest (0x22 :: rest) = _
    rw [quotedRest.eq_def]
    rfl
  | text ht hq hb _ ih =>
    rw [List.cons_append, quotedRest.eq_def]
    simp [hq, hb, ht, ih]
  | escaped hb _ ih =>
    rw [List.cons_append, List.cons_append, quotedRest.eq_def]
    simp [hb, ih]

/-- A string: between quotes, or counted.  What is counted may be anything but the octet 0. -/
inductive StringForm
  | quoted (text : List UInt8) (h : Quotable text)
  | counted (count : Numeral) (text : List UInt8) (h : text.length = count.value.toNat) (hz : 0 ∉ text)

namespace StringForm

def octets : StringForm → List UInt8
  | quoted text _ => ascii "\"" ++ text ++ ascii "\""
  | counted count text _ _ => ascii "\x7b" ++ count.digits ++ ascii "\x7d\r\n" ++ text

def value : StringForm → List UInt8
  | quoted text _ => text
  | counted _ text _ _ => text

@[simp] theorem read (f : StringForm) (rest : List UInt8) : string (f.octets ++ rest) = .done f.value rest := by
  cases f with
  | quoted text h =>
    have hrefused : literal (ascii "\"" ++ (text ++ (ascii "\"" ++ rest))) = .refused := rfl
    simp only [octets, List.append_assoc, string]
    rw [either_of_refused hrefused, Imap.quoted, bind_apply, word_ascii, Scan.bind_done, h.read]
    rfl
  | counted count text h hz =>
    have hcount : number (count.digits ++ (ascii "\x7d\r\n" ++ (text ++ rest))) =
      .done count.value (ascii "\x7d\r\n" ++ (text ++ rest)) := count.read rfl _
    simp only [octets, List.append_assoc, string]
    refine either_of_done ?_
    rw [literal, bind_apply, word_ascii, Scan.bind_done, bind_apply, hcount, Scan.bind_done, bind_apply, word_ascii,
      Scan.bind_done, take_append h]
    rfl

end StringForm

/-- The word for what is not there. -/
structure NilForm where
  octets : List UInt8
  nil : octets.map lower = ascii "nil"

theorem NilForm.read (f : NilForm) (rest : List UInt8) : word "NIL" (f.octets ++ rest) = .done () rest :=
  keyword_append f.nil rest

/-- A place that a string may fill. -/
inductive SlotForm
  | empty (nil : NilForm)
  | filled (s : StringForm)

namespace SlotForm

def octets : SlotForm → List UInt8
  | empty nil => nil.octets
  | filled s => s.octets

def value : SlotForm → Option (List UInt8)
  | empty _ => none
  | filled s => some s.value

def text (f : SlotForm) : Option String := f.value.map Utf8.decodeString

@[simp] theorem read (f : SlotForm) (rest : List UInt8) : nstring (f.octets ++ rest) = .done f.value rest := by
  cases f with
  | empty nil =>
    refine either_of_done ?_
    rw [octets, bind_apply, nil.read]
    rfl
  | filled s =>
    have hrefused : (do word "NIL"; return none : Reader (Option (List UInt8))) (s.octets ++ rest) = .refused := by
      cases s <;> rfl
    rw [octets, nstring, either_of_refused hrefused, map_apply, s.read]
    rfl

@[simp] theorem read_text (f : SlotForm) (rest : List UInt8) : ntext (f.octets ++ rest) = .done f.text rest := by
  rw [ntext, map_apply, f.read]
  rfl

end SlotForm

/-! ## Addresses -/

/-- An address in a list of them; a space may follow it. -/
structure AddressForm where
  name : SlotForm
  route : SlotForm
  mailbox : SlotForm
  host : SlotForm
  spaced : Bool

namespace AddressForm

def octets (f : AddressForm) : List UInt8 :=
  ascii "(" ++ (ascii " ").intercalate [f.name.octets, f.route.octets, f.mailbox.octets, f.host.octets] ++ ascii ")" ++
    if f.spaced then ascii " " else []

def value (f : AddressForm) : Address := ⟨f.name.text, f.mailbox.text, f.host.text⟩

/-- **An address is read where no further space stands behind it.** -/
theorem read (f : AddressForm) {rest : List UInt8} (h : word " " rest = .refused) :
    listed (f.octets ++ rest) = .done f.value rest := by
  have hspace : optional (word " ") ((if f.spaced then ascii " " else []) ++ rest) =
      .done (if f.spaced then some () else none) rest := by
    cases f.spaced with
    | true =>
      refine either_of_done ?_
      rw [if_pos rfl, map_apply, word_ascii]
      rfl
    | false =>
      refine (either_of_refused ?_).trans rfl
      rw [if_neg Bool.false_ne_true, List.nil_append, map_apply, h]
      rfl
  simp [listed, address, octets, value, bind_apply, hspace, pure_apply, List.intercalate, List.intersperse]

end AddressForm

inductive AddressesForm
  | none (nil : NilForm)
  | list (first : AddressForm) (others : List AddressForm)

theorem many_listed (fs : List AddressForm) (rest : List UInt8) :
    many listed (fs.flatMap AddressForm.octets ++ (ascii ")" ++ rest)) =
      .done (fs.map AddressForm.value) (ascii ")" ++ rest) := by
  -- behind an address stands another one or the bracket, and neither begins with a space
  induction fs with
  | nil => exact many_nil rfl
  | cons f fs ih =>
    rw [List.flatMap_cons, List.append_assoc]
    exact many_cons regular_listed eats_listed (f.read (by cases fs <;> rfl)) ih

namespace AddressesForm

def octets : AddressesForm → List UInt8
  | none nil => nil.octets
  | list first others => ascii "(" ++ first.octets ++ others.flatMap AddressForm.octets ++ ascii ")"

def value : AddressesForm → List Address
  | none _ => []
  | list first others => first.value :: others.map AddressForm.value

@[simp] theorem read (f : AddressesForm) (rest : List UInt8) : addresses (f.octets ++ rest) = .done f.value rest := by
  cases f with
  | none nil =>
    refine either_of_done ?_
    rw [octets, bind_apply, nil.read]
    rfl
  | list first others =>
    have hfirst : listed (first.octets ++ (others.flatMap AddressForm.octets ++ (ascii ")" ++ rest))) =
        .done first.value (others.flatMap AddressForm.octets ++ (ascii ")" ++ rest)) :=
      first.read (by cases others <;> rfl)
    simp only [octets, List.append_assoc]
    refine (either_of_refused rfl).trans ?_
    rw [bind_apply, word_ascii, Scan.bind_done]
    show Scan.bind (listed _) _ = _
    rw [hfirst, Scan.bind_done]
    show Scan.bind (many listed _) _ = _
    rw [many_listed, Scan.bind_done, bind_apply, word_ascii]
    rfl

end AddressesForm

/-! ## The header fields -/

structure EnvelopeForm where
  date : SlotForm
  subject : SlotForm
  «from» : AddressesForm
  sender : AddressesForm
  replyTo : AddressesForm
  «to» : AddressesForm
  cc : AddressesForm
  bcc : AddressesForm
  inReplyTo : SlotForm
  messageId : SlotForm

namespace EnvelopeForm

def octets (f : EnvelopeForm) : List UInt8 :=
  ascii "(" ++ (ascii " ").intercalate [f.date.octets, f.subject.octets, f.from.octets, f.sender.octets,
    f.replyTo.octets, f.to.octets, f.cc.octets, f.bcc.octets, f.inReplyTo.octets, f.messageId.octets] ++ ascii ")"

/-- What is read of it: the addresses that are told as the sender's are those of From. -/
def value (f : EnvelopeForm) : Envelope where
  date := f.date.text
  subject := f.subject.text
  sender := f.from.value
  «to» := f.to.value
  cc := f.cc.value
  bcc := f.bcc.value
  messageId := f.messageId.text

/-- **A written ENVELOPE is read as what was written**, whatever stands behind it. -/
theorem read (f : EnvelopeForm) (rest : List UInt8) : envelope (f.octets ++ rest) = .done f.value rest := by
  -- each form is read in its turn, and the next reader begins where it ends
  simp [envelope, octets, value, bind_apply, pure_apply, List.intercalate, List.intersperse]

end EnvelopeForm

/-! ## Data of a message -/

theorem item_uid (n : Numeral) (rest : List UInt8) :
    item (ascii "UID " ++ (n.digits ++ (ascii " " ++ rest))) = .done (.uid n.value) (ascii " " ++ rest) := by
  have hnumber : number (n.digits ++ (ascii " " ++ rest)) = .done n.value (ascii " " ++ rest) := n.read rfl rest
  rw [item, firstOf]
  refine either_of_done ?_
  rw [bind_apply, word_ascii, Scan.bind_done, map_apply, hnumber]
  rfl

theorem item_envelope (f : EnvelopeForm) (rest : List UInt8) :
    item (ascii "ENVELOPE " ++ (f.octets ++ rest)) = .done (.envelope f.value) rest := by
  have huid : (do word "UID "; Attribute.uid <$> number : Reader Attribute) (ascii "ENVELOPE " ++ (f.octets ++ rest)) =
      .refused := rfl
  rw [item, firstOf, either_of_refused huid, firstOf]
  refine either_of_done ?_
  rw [bind_apply, word_ascii, Scan.bind_done, map_apply, f.read]
  rfl

theorem item_body (f : SlotForm) (rest : List UInt8) :
    item (ascii "BODY[] " ++ (f.octets ++ rest)) = .done (.body f.value) rest := by
  have huid : (do word "UID "; Attribute.uid <$> number : Reader Attribute) (ascii "BODY[] " ++ (f.octets ++ rest)) =
      .refused := rfl
  have henvelope : (do word "ENVELOPE "; Attribute.envelope <$> envelope : Reader Attribute)
      (ascii "BODY[] " ++ (f.octets ++ rest)) = .refused := rfl
  have hsection : ascii "BODY[] " = ascii "BODY[" ++ (ascii "]" ++ ascii " ") := rfl
  have hwhole : wholeSection (ascii "]" ++ (ascii " " ++ (f.octets ++ rest))) =
      .done true (ascii "]" ++ (ascii " " ++ (f.octets ++ rest))) := rfl
  have hpart : optional (do word "<"; let _ ← number; word ">") (ascii " " ++ (f.octets ++ rest)) =
      .done none (ascii " " ++ (f.octets ++ rest)) := rfl
  rw [item, firstOf, either_of_refused huid, firstOf, either_of_refused henvelope, firstOf]
  refine either_of_done ?_
  simp only [hsection, List.append_assoc, bodySection, bind_apply, word_ascii, Scan.bind_done, hwhole, hpart, f.read]
  rfl

theorem spaced_of_done {α : Type} {r : Reader α} {s rest behind : List UInt8} {a : α} {as : List α}
    (h : r s = .done a rest) (hm : many (do word " "; r) rest = .done as behind) :
    spaced r s = .done (a :: as) behind := by
  rw [spaced, bind_apply, h, Scan.bind_done, bind_apply, hm]
  rfl

/-- **One attribute, and as many as there are behind it.** -/
theorem many_item {s rest behind : List UInt8} {a : Attribute} {as : List Attribute} (h : item s = .done a rest)
    (hm : many (do word " "; item) rest = .done as behind) :
    many (do word " "; item) (ascii " " ++ s) = .done (a :: as) behind := by
  refine many_cons (.word_then _ regular_item) (.word_then " " (by decide) regular_item) ?_ hm
  rw [bind_apply, word_ascii]
  exact h

/-- No status begins with a digit, so a number in front tells the data of a message. -/
theorem Numeral.condition_refused (n : Numeral) (rest : List UInt8) : condition (n.digits ++ rest) = .refused := by
  obtain ⟨d, ds, hds⟩ := List.exists_cons_of_ne_nil n.nonempty
  have hd := mem_of_isDigit (n.isDigit d (hds ▸ List.mem_cons_self))
  simp only [List.mem_cons, List.not_mem_nil, or_false] at hd
  rw [hds]
  rcases hd with rfl | rfl | rfl | rfl | rfl | rfl | rfl | rfl | rfl | rfl <;> rfl

/-- **A response that begins with a number is data of a message.** -/
theorem response_of_messageData (n : Numeral) {s rest : List UInt8} {r : Response}
    (h : messageData (n.digits ++ s) = .done r (ascii "\r\n" ++ rest)) :
    response (ascii "* " ++ (n.digits ++ s)) = .done r rest := by
  have hspan : span (· = 0x20) (ascii "\r\n" ++ rest) = .done [] (ascii "\r\n" ++ rest) := rfl
  rw [response, firstOf, either_of_refused rfl, firstOf]
  refine either_of_done ?_
  rw [data, bind_apply, word_ascii, Scan.bind_done, bind_apply, firstOf, either_of_refused, firstOf, either_of_done h,
    Scan.bind_done, bind_apply, hspan, Scan.bind_done, bind_apply, word_ascii]
  · rfl
  · rw [bind_apply, n.condition_refused]
    rfl

theorem response_count (n : Numeral) (rest : List UInt8) :
    response (ascii "* " ++ (n.digits ++ (ascii " EXISTS\r\n" ++ rest))) = .done (.count n.value) rest := by
  have hexists : ascii " EXISTS\r\n" = ascii " " ++ (ascii "EXISTS" ++ ascii "\r\n") := rfl
  have hnumber : number (n.digits ++ (ascii " " ++ (ascii "EXISTS" ++ (ascii "\r\n" ++ rest)))) =
      .done n.value (ascii " " ++ (ascii "EXISTS" ++ (ascii "\r\n" ++ rest))) := n.read rfl _
  refine response_of_messageData n ?_
  rw [hexists, List.append_assoc, List.append_assoc, messageData, bind_apply, hnumber, Scan.bind_done, bind_apply,
    word_ascii, Scan.bind_done, firstOf]
  refine either_of_done ?_
  rw [bind_apply, word_ascii]
  rfl

/-- **A FETCH response is read by its attributes**, where these are read up to the closing bracket. -/
theorem response_fetch (n : Numeral) {s rest : List UInt8} {as : List Attribute}
    (h : spaced item s = .done as (ascii ")\r\n" ++ rest)) :
    response (ascii "* " ++ (n.digits ++ (ascii " FETCH (" ++ s))) = .done (.fetch (recordOf as)) rest := by
  have hfetch : ascii " FETCH (" = ascii " " ++ ascii "FETCH (" := rfl
  have hend : ascii ")\r\n" = ascii ")" ++ ascii "\r\n" := rfl
  have hnumber : number (n.digits ++ (ascii " " ++ (ascii "FETCH (" ++ s))) =
      .done n.value (ascii " " ++ (ascii "FETCH (" ++ s)) := n.read rfl _
  have hspan : span (· = 0x20) (ascii ")" ++ (ascii "\r\n" ++ rest)) = .done [] (ascii ")" ++ (ascii "\r\n" ++ rest)) :=
    rfl
  rw [hend, List.append_assoc] at h
  refine response_of_messageData n ?_
  rw [hfetch, List.append_assoc, messageData, bind_apply, hnumber, Scan.bind_done, bind_apply, word_ascii,
    Scan.bind_done, firstOf, either_of_refused rfl, firstOf, either_of_refused rfl, firstOf, either_of_refused rfl,
    firstOf]
  refine either_of_done ?_
  rw [bind_apply, word_ascii, Scan.bind_done, bind_apply, h, Scan.bind_done, bind_apply, hspan, Scan.bind_done,
    bind_apply, word_ascii]
  rfl

end Imap
end Postbag
