import Postbag.Proofs.Bytes.Utf8
import Postbag.Proofs.Imap.Request
import Postbag.Proofs.Imap.Written
/-!
# Letters — what an ENVELOPE means, beside what a reader gets of it

An ENVELOPE means texts: the id of a message, and the mailbox and the host of each correspondent.  A text is sent counted,
as it is, or between quotes, with a backslash in front of each quote and each backslash.  A reader gets what stands
between the quotes, backslashes included, so it gets the text that was meant where no backslash had to be put, and
another one wherever it had.
-/
namespace Postbag

theorem Address.spec_of_ne_nil (name : Option String) {mailbox host : List Char} (hm : mailbox ≠ []) (hh : host ≠ []) :
    (Address.mk name (some (String.ofList mailbox)) (some (String.ofList host))).spec =
      String.ofList (mailbox ++ '@' :: host) := by
  have hmailbox : (String.ofList mailbox).isEmpty = false := by simp [hm]
  have hhost : (String.ofList host).isEmpty = false := by simp [hh]
  rw [Address.spec]
  simp only [hmailbox, hhost, Bool.or_self, if_neg Bool.false_ne_true]
  exact String.toList_inj.1 (by simp)

namespace Imap

open Reader

/-- Printable ASCII. -/
def isPrintable (c : Char) : Bool := decide (0x20 ≤ c.toNat) && decide (c.toNat < 0x7F)

/-! ## Escaped texts -/

theorem length_le_escaped (s : List Char) : s.length ≤ (escaped s).length := by
  induction s with
  | nil => exact Nat.le_refl 0
  | cons c s ih =>
    by_cases hc : c = '"' ∨ c = '\\'
    · rw [escaped_cons_of_special hc, List.length_cons, List.length_cons, List.length_cons]
      omega
    · rw [escaped_cons hc, List.length_cons, List.length_cons]
      omega

/-- **An escaped text is the text just where there is nothing to escape.** -/
theorem escaped_eq_iff {s : List Char} : escaped s = s ↔ '"' ∉ s ∧ '\\' ∉ s := by
  induction s with
  | nil => simp [escaped]
  | cons c s ih =>
    by_cases hc : c = '"' ∨ c = '\\'
    · rw [escaped_cons_of_special hc]
      have hlength := length_le_escaped s
      constructor
      · intro h
        have hlong := congrArg List.length h
        simp only [List.length_cons] at hlong
        omega
      · rintro ⟨hquote, hslash⟩
        rcases hc with rfl | rfl
        · exact absurd List.mem_cons_self hquote
        · exact absurd List.mem_cons_self hslash
    · rw [escaped_cons hc, List.cons.injEq, ih]
      rw [not_or] at hc
      simp [Ne.symm hc.1, Ne.symm hc.2]

theorem encode_cons (c : Char) (s : List Char) : Utf8.encode (c :: s) = String.utf8EncodeChar c ++ Utf8.encode s :=
  List.flatMap_cons

theorem utf8EncodeChar_of_isPrintable {c : Char} (h : isPrintable c = true) :
    String.utf8EncodeChar c = [UInt8.ofNat c.toNat] := by
  rw [isPrintable, Bool.and_eq_true, decide_eq_true_eq, decide_eq_true_eq] at h
  have hval : c.val.toNat = c.toNat := rfl
  have hone : c.toNat ≤ 127 := by omega
  unfold String.utf8EncodeChar
  rw [hval]
  simp only [if_pos hone]

/-- The octet of a character that is printed, and which characters have the octets of a quote and a backslash. -/
theorem octet_of_isPrintable {c : Char} (h : isPrintable c = true) :
    isText (UInt8.ofNat c.toNat) = true ∧ (UInt8.ofNat c.toNat = 0x22 ↔ c = '"') ∧
      (UInt8.ofNat c.toNat = 0x5C ↔ c = '\\') := by
  have hall : ∀ k < 0x7F, 0x20 ≤ k → isText (UInt8.ofNat (Char.ofNat k).toNat) = true ∧
      (UInt8.ofNat (Char.ofNat k).toNat = 0x22 ↔ Char.ofNat k = '"') ∧
      (UInt8.ofNat (Char.ofNat k).toNat = 0x5C ↔ Char.ofNat k = '\\') := by decide
  rw [isPrintable, Bool.and_eq_true, decide_eq_true_eq, decide_eq_true_eq] at h
  have hchar := hall c.toNat h.2 h.1
  rwa [Char.ofNat_toNat] at hchar

/-- **An escaped text may stand between quotes.** -/
theorem quotable_escaped {s : List Char} (h : ∀ c ∈ s, isPrintable c = true) : Quotable (Utf8.encode (escaped s)) := by
  induction s with
  | nil => exact .nil
  | cons c s ih =>
    obtain ⟨hc, hs⟩ := List.forall_mem_cons.1 h
    obtain ⟨htext, hquote, hslash⟩ := octet_of_isPrintable hc
    have hoctet := utf8EncodeChar_of_isPrintable hc
    have hbackslash : String.utf8EncodeChar '\\' = [0x5C] := rfl
    by_cases hspecial : c = '"' ∨ c = '\\'
    · rw [escaped_cons_of_special hspecial, encode_cons, encode_cons, hoctet, hbackslash]
      exact .escaped (hspecial.imp hquote.2 hslash.2) (ih hs)
    · rw [escaped_cons hspecial, encode_cons, hoctet]
      rw [not_or] at hspecial
      exact .text htext (fun he => hspecial.1 (hquote.1 he)) (fun he => hspecial.2 (hslash.1 he)) (ih hs)

/-! ## Values -/

/-- **A value as a server sends it**, which is never empty: printable ASCII between quotes, or counted, any text without
the character 0. -/
inductive Value
  | quoted (text : List Char) (hne : text ≠ []) (h : text.all isPrintable = true)
  | counted (count : Numeral) (text : List Char) (hne : text ≠ [])
      (h : (Utf8.encode text).length = count.value.toNat) (hz : '\x00' ∉ text)

namespace Value

def form : Value → StringForm
  | quoted text _ h => .quoted (Utf8.encode (escaped text)) (quotable_escaped (List.all_eq_true.1 h))
  | counted count text _ h hz => .counted count (Utf8.encode text) h (Utf8.not_mem_encode (by decide) hz)

/-- The text that is meant. -/
def text : Value → List Char
  | quoted text _ _ => text
  | counted _ text _ _ _ => text

/-- The text that a reader gets. -/
def kept : Value → List Char
  | quoted text _ _ => escaped text
  | counted _ text _ _ _ => text

/-- A value in which no backslash had to be put. -/
def Plain : Value → Prop
  | quoted text _ _ => '"' ∉ text ∧ '\\' ∉ text
  | counted _ _ _ _ _ => True

theorem decodeString_form (v : Value) : Utf8.decodeString v.form.value = String.ofList v.kept := by
  cases v with
  | quoted text _ h => exact congrArg String.ofList (Utf8.decode_encode (escaped text))
  | counted count text _ h hz => exact congrArg String.ofList (Utf8.decode_encode text)

/-- **What a reader gets is what is meant** just where no backslash had to be put. -/
theorem kept_eq_text_iff (v : Value) : v.kept = v.text ↔ v.Plain := by
  cases v with
  | quoted text _ h => exact escaped_eq_iff
  | counted count text _ h hz => exact iff_of_true rfl trivial

theorem length_text_le (v : Value) : v.text.length ≤ v.kept.length := by
  cases v with
  | quoted text _ h => exact length_le_escaped text
  | counted count text _ h hz => exact Nat.le_refl _

theorem text_ne_nil (v : Value) : v.text ≠ [] := by
  cases v with
  | quoted text hne h => exact hne
  | counted count text hne h hz => exact hne

theorem kept_ne_nil (v : Value) : v.kept ≠ [] := by
  have hpos := List.length_pos_iff.2 v.text_ne_nil
  have hle := v.length_text_le
  exact List.ne_nil_of_length_pos (by omega)

end Value

/-! ## Correspondents -/

/-- A part of an address, which may be lacking. -/
inductive Part
  | lacking (nil : NilForm)
  | given (v : Value)

namespace Part

def form : Part → SlotForm
  | lacking nil => .empty nil
  | given v => .filled v.form

end Part

/-- A correspondent as a server lists one; the name and the route may be anything. -/
structure Correspondent where
  name : SlotForm
  route : SlotForm
  mailbox : Part
  host : Part
  spaced : Bool

namespace Correspondent

def form (a : Correspondent) : AddressForm := ⟨a.name, a.route, a.mailbox.form, a.host.form, a.spaced⟩

/-- **`mailbox@host`**, of what `part` makes of the two values, or nothing where one is lacking. -/
def entry (part : Value → List Char) (a : Correspondent) : String :=
  match a.mailbox, a.host with
  | .given mailbox, .given host => String.ofList (part mailbox ++ '@' :: part host)
  | _, _ => ""

def Plain (a : Correspondent) : Prop :=
  match a.mailbox, a.host with
  | .given mailbox, .given host => mailbox.Plain ∧ host.Plain
  | _, _ => True

theorem spec_form (a : Correspondent) : a.form.value.spec = a.entry Value.kept := by
  obtain ⟨name, route, mailbox, host, spaced⟩ := a
  cases mailbox with
  | lacking nil => rfl
  | given mailbox =>
    cases host with
    | lacking nil => rfl
    | given host =>
      show Address.spec ⟨_, some (Utf8.decodeString mailbox.form.value), some (Utf8.decodeString host.form.value)⟩ = _
      rw [mailbox.decodeString_form, host.decodeString_form]
      exact Address.spec_of_ne_nil _ mailbox.kept_ne_nil host.kept_ne_nil

/-- The longer text cannot make up for the shorter one, since neither is ever shorter than what is meant. -/
theorem entry_kept_eq_iff (a : Correspondent) : a.entry Value.kept = a.entry Value.text ↔ a.Plain := by
  obtain ⟨name, route, mailbox, host, spaced⟩ := a
  cases mailbox with
  | lacking nil => exact iff_of_true rfl trivial
  | given mailbox =>
    cases host with
    | lacking nil => exact iff_of_true rfl trivial
    | given host =>
      show String.ofList _ = String.ofList _ ↔ mailbox.Plain ∧ host.Plain
      rw [← mailbox.kept_eq_text_iff, ← host.kept_eq_text_iff]
      constructor
      · intro h
        have htexts : mailbox.kept ++ '@' :: host.kept = mailbox.text ++ '@' :: host.text := String.ofList_injective h
        have hlength := congrArg List.length htexts
        have hm := mailbox.length_text_le
        have hh := host.length_text_le
        simp only [List.length_append, List.length_cons] at hlength
        obtain ⟨hmailbox, hhost⟩ := List.append_inj htexts (by omega)
        exact ⟨hmailbox, (List.cons.inj hhost).2⟩
      · rintro ⟨hm, hh⟩
        rw [hm, hh]

end Correspondent

/-- A list of correspondents, of any length; the word stands where there are none. -/
structure Correspondents where
  nil : NilForm
  members : List Correspondent

namespace Correspondents

def form (l : Correspondents) : AddressesForm :=
  match l.members with
  | [] => .none l.nil
  | a :: as => .list a.form (as.map Correspondent.form)

theorem value_form (l : Correspondents) : l.form.value = l.members.map fun a => a.form.value := by
  obtain ⟨nil, members⟩ := l
  cases members with
  | nil => rfl
  | cons a as => simp [form, AddressesForm.value]

theorem specs_form (l : Correspondents) :
    l.form.value.map Address.spec = l.members.map (Correspondent.entry Value.kept) := by
  rw [value_form, List.map_map]
  exact List.map_congr_left fun a _ => a.spec_form

end Correspondents

/-! ## Letters -/

/-- **An ENVELOPE with the id of its message.**  What a reader is told nothing of, or not as it was sent, may be
anything. -/
structure Letter where
  date : SlotForm
  subject : SlotForm
  «from» : Correspondents
  sender : AddressesForm
  replyTo : AddressesForm
  «to» : Correspondents
  cc : Correspondents
  bcc : AddressesForm
  inReplyTo : SlotForm
  messageId : Value

namespace Letter

def form (l : Letter) : EnvelopeForm where
  date := l.date
  subject := l.subject
  «from» := l.from.form
  sender := l.sender
  replyTo := l.replyTo
  «to» := l.to.form
  cc := l.cc.form
  bcc := l.bcc
  inReplyTo := l.inReplyTo
  messageId := .filled l.messageId.form

/-- **Headers tell of a letter** what `part` makes of its values: its id, an entry for each correspondent of From, and
one for each of To, of Cc and of Cc again. -/
structure Tells (part : Value → List Char) (l : Letter) (h : Headers) : Prop where
  messageId : h.messageId = String.ofList (part l.messageId)
  sender : h.sender = l.from.members.map (Correspondent.entry part)
  recipients : h.recipients =
    (l.to.members ++ l.cc.members ++ l.cc.members).map (Correspondent.entry part)

/-- A letter in whose values no backslash had to be put. -/
structure Plain (l : Letter) : Prop where
  messageId : l.messageId.Plain
  «from» : ∀ a ∈ l.from.members, a.Plain
  «to» : ∀ a ∈ l.to.members, a.Plain
  cc : ∀ a ∈ l.cc.members, a.Plain

/-- **What a reader gets of a letter.** -/
theorem tells_kept (l : Letter) : l.Tells Value.kept (Headers.ofEnvelope l.form.value) := by
  refine ⟨l.messageId.decodeString_form, l.from.specs_form, ?_⟩
  show l.to.form.value.map Address.spec ++ l.cc.form.value.map Address.spec ++ l.cc.form.value.map Address.spec = _
  rw [l.to.specs_form, l.cc.specs_form, List.map_append, List.map_append]

theorem tells_text_iff {l : Letter} {h : Headers} (hkept : l.Tells Value.kept h) : l.Tells Value.text h ↔ l.Plain := by
  have hmembers : ∀ as : List Correspondent,
      as.map (Correspondent.entry Value.kept) = as.map (Correspondent.entry Value.text) ↔ ∀ a ∈ as, a.Plain := by
    intro as
    rw [List.map_inj_left]
    exact forall₂_congr fun a _ => a.entry_kept_eq_iff
  constructor
  · rintro ⟨hid, hfrom, hall⟩
    rw [hkept.messageId] at hid
    rw [hkept.sender, hmembers] at hfrom
    rw [hkept.recipients, hmembers] at hall
    refine ⟨l.messageId.kept_eq_text_iff.1 (String.ofList_injective hid), hfrom, fun a ha => ?_, fun a ha => ?_⟩
    · exact hall a (List.mem_append_left _ (List.mem_append_left _ ha))
    · exact hall a (List.mem_append_right _ ha)
  · intro hplain
    refine ⟨?_, ?_, ?_⟩
    · rw [hkept.messageId, l.messageId.kept_eq_text_iff.2 hplain.messageId]
    · rw [hkept.sender, hmembers]
      exact hplain.from
    · rw [hkept.recipients, hmembers]
      intro a ha
      simp only [List.mem_append, or_assoc, or_self] at ha
      exact ha.elim (hplain.to a) (hplain.cc a)

end Letter

end Imap
end Postbag
