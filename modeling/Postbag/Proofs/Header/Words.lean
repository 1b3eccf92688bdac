import Mathlib.Data.List.Forall2
import Postbag.Envelope
import Postbag.Proofs.Bytes.Base64
import Postbag.Proofs.Bytes.QuotedPrintable
import Postbag.Proofs.Bytes.Utf8
/-!
# Words — a subject that was written in words is read back

A sender cuts a text into pieces and writes each of them as a word, in base64 or quoted, with a space between two words.
A reader finds every word where it was put, because no name and no text in a word holds the sign that ends it, and
passes over the spaces between them.  Each word gives the octets of its piece, and these the piece.

Two things do not come through.  A mark of the byte order is no text, so a piece that begins with one loses it.  And a
quoted text is cut at its end, after the signs of spaces were read, so none may stand there.
-/
namespace Postbag

/-- A text without the mark of the byte order that it begins with. -/
def unmarked : List Char → List Char
  | '\uFEFF' :: s => s
  | s => s

theorem unmarked_of_head {s : List Char} (h : s.head? ≠ some '\uFEFF') : unmarked s = s := by
  unfold unmarked
  split
  · exact absurd rfl h
  · rfl

namespace Charset

theorem utf8_mark (bs : List UInt8) : Utf8.decode (0xEF :: 0xBB :: 0xBF :: bs) = '\uFEFF' :: Utf8.decode bs :=
  Utf8.decodeFrom_encodeChar '\uFEFF' bs

/-- An octet that begins no character is none of the first octets of a text. -/
theorem encode_ne_of_broken {b : UInt8} (h : Utf8.begin b = .broken) (hb : b ≠ 0xEF) (s : List Char)
    (bs : List UInt8) : Utf8.encode s ≠ b :: bs := by
  intro he
  have hs := Utf8.decode_encode s
  rw [he, Utf8.decode, Utf8.decodeFrom, h] at hs
  -- the text would begin with the replacement character, and that with another octet
  rw [← hs] at he
  exact hb (List.cons.inj he).1.symm

/-- **Octets of a text in UTF-8 are the text**, but for a mark of the byte order at its start. -/
theorem decode_encode (s : List Char) : Charset.utf8.decode (Utf8.encode s) = unmarked s := by
  have hs := Utf8.decode_encode s
  unfold decode
  split
  · rename_i bs he
    rw [he, utf8_mark] at hs
    rw [← hs]
    rfl
  · rename_i bs he
    exact absurd he (encode_ne_of_broken (by decide) (by decide) s _)
  · rename_i bs he
    exact absurd he (encode_ne_of_broken (by decide) (by decide) s _)
  · rename_i hmark _ _
    have hhead : s.head? ≠ some '\uFEFF' := fun he => by
      obtain ⟨rest, rfl⟩ := List.head?_eq_some_iff.1 he
      exact hmark _ rfl
    rw [unmarked_of_head hhead]
    exact hs

def IsUtf8 (label : List Char) : Prop := label.map Char.toLower = "utf-8".toList

theorem decodeNamed_encode {label : List Char} (h : IsUtf8 label) (s : List Char) :
    decodeNamed label (Utf8.encode s) = unmarked s := by
  have hlabel : ofLabel? label = some .utf8 := by
    rw [ofLabel?, h]
    decide +kernel
  rw [decodeNamed, hlabel]
  exact decode_encode s

end Charset

namespace EncodedWord

/-! ## A word is found where it was put -/

/-- A word with names and a text that can be told apart. -/
structure IsSound (w : EncodedWord) : Prop where
  charset_ne : w.charset ≠ []
  charset : ∀ c ∈ w.charset, isNameChar c = true
  encoding_ne : w.encoding ≠ []
  encoding : ∀ c ∈ w.encoding, isNameChar c = true
  text : ∀ c ∈ w.text, isTextChar c = true

theorem render_append (w : EncodedWord) (rest : List Char) :
    w.render ++ rest = '=' :: '?' :: (w.charset ++ '?' :: (w.encoding ++ '?' :: (w.text ++ '?' :: '=' :: rest))) := by
  simp [render]

theorem takeWhile_stop {p : Char → Bool} {s : List Char} (hs : ∀ c ∈ s, p c = true) {c : Char} (hc : p c = false)
    (rest : List Char) : (s ++ c :: rest).takeWhile p = s := by
  rw [List.takeWhile_append_of_pos hs, List.takeWhile_cons_of_neg (by simp [hc]), List.append_nil]

theorem dropWhile_stop {p : Char → Bool} {s : List Char} (hs : ∀ c ∈ s, p c = true) {c : Char} (hc : p c = false)
    (rest : List Char) : (s ++ c :: rest).dropWhile p = c :: rest := by
  rw [List.dropWhile_append_of_pos hs, List.dropWhile_cons_of_neg (by simp [hc])]

theorem ofStart?_render {w : EncodedWord} (h : w.IsSound) (rest : List Char) :
    ofStart? (w.render ++ rest) = some w := by
  have hname : isNameChar '?' = false := by decide
  have htext : isTextChar '?' = false := by decide
  have hcharset : w.charset.isEmpty = false := List.isEmpty_eq_false_iff.2 h.charset_ne
  have hencoding : w.encoding.isEmpty = false := List.isEmpty_eq_false_iff.2 h.encoding_ne
  rw [render_append, ofStart?]
  simp only [dropWhile_stop h.charset hname, takeWhile_stop h.charset hname, dropWhile_stop h.encoding hname,
    takeWhile_stop h.encoding hname, dropWhile_stop h.text htext, takeWhile_stop h.text htext, hcharset, hencoding,
    Bool.or_false, Bool.false_eq_true, if_false]

end EncodedWord

namespace HeaderText

theorem partsFrom_pass : ∀ s rest : List Char, partsFrom s.length (s ++ rest) = parts rest
  | [], _ => rfl
  | _ :: s, rest => partsFrom_pass s rest

theorem parts_render {w : EncodedWord} (h : w.IsSound) (rest : List Char) :
    parts (w.render ++ rest) = .word w :: parts rest := by
  have hstart := EncodedWord.ofStart?_render h rest
  have hcons : ∃ s, w.render = '=' :: s := ⟨_, rfl⟩
  obtain ⟨s, hs⟩ := hcons
  rw [hs, List.cons_append] at hstart ⊢
  rw [parts, partsFrom, hstart]
  simp only [hs, List.length_cons, Nat.add_sub_cancel, partsFrom_pass]

def joined (words : List EncodedWord) : String := " ".intercalate (words.map fun w => String.ofList w.render)

theorem toList_joined (words : List EncodedWord) :
    (joined words).toList = [' '].intercalate (words.map EncodedWord.render) := by
  rw [joined, String.toList_intercalate, List.map_map]
  simp [Function.comp_def]

theorem closeGaps_word (held : Option (List Char)) (w : EncodedWord) (ps : List Part) :
    closeGaps held (.word w :: ps) = .word w :: closeGaps (some []) ps := by
  cases held <;> rfl

/-- **Words that were joined are the parts of the header**: the spaces between them go, and so does one in front of the
first where a word came before it. -/
theorem closeGaps_joined {w : EncodedWord} {words : List EncodedWord} (h : ∀ v ∈ w :: words, v.IsSound)
    (held : Option (List Char)) :
    closeGaps held (parts ([' '].intercalate ((w :: words).map EncodedWord.render))) = (w :: words).map .word := by
  induction words generalizing w held with
  | nil =>
    have hparts := parts_render (h w List.mem_cons_self) []
    rw [List.append_nil] at hparts
    rw [List.map_singleton, List.intercalate_singleton, hparts, closeGaps_word]
    rfl
  | cons v words ih =>
    -- the space is held back until the next word comes, and forgotten there
    have hspace : ∀ s, parts (' ' :: s) = .clear ' ' :: parts s := fun _ => rfl
    have hgap : ∀ ps, closeGaps (some []) (.clear ' ' :: ps) = closeGaps (some [' ']) ps := fun _ => rfl
    rw [List.map_cons, List.map_cons, List.intercalate_cons_cons, ← List.map_cons, List.append_assoc,
      parts_render (h w List.mem_cons_self), closeGaps_word, List.singleton_append, hspace, hgap,
      ih fun u hu => h u (List.mem_cons_of_mem _ hu)]
    rfl

theorem decodeParts?_words {words : List EncodedWord} {texts : List (List Char)}
    (h : List.Forall₂ (fun w t => EncodedWord.decode? w = some t) words texts) :
    decodeParts? (words.map .word) = some texts.flatten := by
  induction h with
  | nil => rfl
  | cons hword _ ih =>
    rw [List.map_cons, decodeParts?, Part.decode?, hword, ih]
    rfl

theorem decode_joined {words : List EncodedWord} {texts : List (List Char)} (hsound : ∀ w ∈ words, w.IsSound)
    (h : List.Forall₂ (fun w t => EncodedWord.decode? w = some t) words texts) :
    decode (joined words) = String.ofList texts.flatten := by
  have hparts : closeGaps none (parts (joined words).toList) = words.map .word := by
    rw [toList_joined]
    cases words with
    | nil => rfl
    | cons w words => exact closeGaps_joined hsound none
  rw [decode, decode?, hparts, decodeParts?_words h]

/-! ## A header without words -/

theorem ofStart?_eq_none {c : Char} {s : List Char} (h : ¬ ['=', '?'] <:+: c :: s) :
    EncodedWord.ofStart? (c :: s) = none := by
  unfold EncodedWord.ofStart?
  split
  · rename_i rest he
    exact absurd ⟨[], rest, by rw [he]; rfl⟩ h
  · rfl

theorem parts_of_clear {s : List Char} (h : ¬ ['=', '?'] <:+: s) : parts s = s.map .clear := by
  induction s with
  | nil => rfl
  | cons c s ih =>
    have hs : ¬ ['=', '?'] <:+: s := fun hi => h (hi.trans (List.suffix_cons c s).isInfix)
    rw [parts, partsFrom, ofStart?_eq_none h]
    exact congrArg (Part.clear c :: ·) (ih hs)

theorem closeGaps_clear : ∀ s : List Char, closeGaps none (s.map .clear) = s.map .clear
  | [] => rfl
  | c :: s => congrArg (Part.clear c :: ·) (closeGaps_clear s)

theorem decodeParts?_clear : ∀ s : List Char, decodeParts? (s.map .clear) = some s
  | [] => rfl
  | c :: s => by
    rw [List.map_cons, decodeParts?, decodeParts?_clear s]
    rfl

/-- **A header in which no word begins is read as it stands.** -/
theorem decode_of_clear {raw : String} (h : ¬ ['=', '?'] <:+: raw.toList) : decode raw = raw := by
  rw [decode, decode?, parts_of_clear h, closeGaps_clear, decodeParts?_clear]
  exact String.ofList_toList

end HeaderText

namespace EncodedWord

/-! ## The words that are written for a text -/

/-- **The words that may be written for a text**, in UTF-8. -/
inductive Writes (piece : List Char) : EncodedWord → Prop
  | base64 {charset encoding : List Char} :
      Charset.IsUtf8 charset → encoding = ['b'] ∨ encoding = ['B'] →
        Writes piece ⟨charset, encoding, Base64.encode (Utf8.encode piece)⟩
  | quoted {charset encoding text : List Char} :
      Charset.IsUtf8 charset → encoding = ['q'] ∨ encoding = ['Q'] →
        QuotedPrintable.Written (Utf8.encode piece) text → Writes piece ⟨charset, encoding, text⟩

variable {piece : List Char} {w : EncodedWord}

theorem Writes.isUtf8 (h : Writes piece w) : Charset.IsUtf8 w.charset := by
  cases h with
  | base64 hcharset => exact hcharset
  | quoted hcharset => exact hcharset

theorem Writes.encoding (h : Writes piece w) : w.encoding ∈ [['b'], ['B'], ['q'], ['Q']] := by
  cases h with
  | base64 _ hencoding => obtain rfl | rfl := hencoding <;> simp
  | quoted _ hencoding => obtain rfl | rfl := hencoding <;> simp

theorem char_of_utf8 {c : Char} (h : c.toLower ∈ "utf-8".toList) : isNameChar c = true ∧ c.toNat < 0x80 := by
  have hsmall : c.toNat < 0x80 := by
    have hval : c.val.toNat = c.toNat := rfl
    have hZ : 'Z'.val.toNat = 90 := rfl
    unfold Char.toLower at h
    split at h
    · rename_i hc
      simp only [ge_iff_le, UInt32.le_iff_toNat_le] at hc
      omega
    · have hall : "utf-8".toList.all (fun d => d.toNat < 0x80) = true := by decide
      exact of_decide_eq_true (List.all_eq_true.1 hall c h)
  have hname : ∀ n < 0x80, (Char.ofNat n).toLower ∈ "utf-8".toList → isNameChar (Char.ofNat n) = true := by decide
  refine ⟨?_, hsmall⟩
  have hchar := hname c.toNat hsmall
  rw [Char.ofNat_toNat] at hchar
  exact hchar h

theorem Writes.charset_char (h : Writes piece w) {c : Char} (hc : c ∈ w.charset) :
    isNameChar c = true ∧ c.toNat < 0x80 := by
  have hlower : c.toLower ∈ w.charset.map Char.toLower := List.mem_map_of_mem hc
  rw [h.isUtf8] at hlower
  exact char_of_utf8 hlower

theorem Writes.encoding_char (h : Writes piece w) {c : Char} (hc : c ∈ w.encoding) :
    isNameChar c = true ∧ c.toNat < 0x80 := by
  have hall : "bBqQ".toList.all (fun c => isNameChar c && c.toNat < 0x80) = true := by decide
  have hletter : c ∈ "bBqQ".toList := List.mem_flatten.2 ⟨w.encoding, h.encoding, hc⟩
  simpa using List.all_eq_true.1 hall c hletter

theorem char_of_base64 : ∀ n < 64, isTextChar (Base64.symbol n) = true ∧ (Base64.symbol n).toNat < 0x80 := by decide

theorem Writes.text_char (h : Writes piece w) {c : Char} (hc : c ∈ w.text) :
    isTextChar c = true ∧ c.toNat < 0x80 := by
  cases h with
  | base64 =>
    obtain rfl | ⟨n, hn, rfl⟩ := Base64.eq_symbol_of_mem_encode _ hc
    · decide
    · exact char_of_base64 n hn
  | quoted _ _ hwritten =>
    obtain hplain | rfl | rfl := hwritten.isPlain_or_sign hc
    · have hbounds := QuotedPrintable.isPlain_bounds hplain
      have hspace : c ≠ ' ' := fun he => by
        rw [he] at hbounds
        exact absurd hbounds.1 (by decide)
      exact ⟨by simp [isTextChar, hplain.2.2.2.1, hspace], by omega⟩
    · decide
    · decide

theorem Writes.isSound (h : Writes piece w) : w.IsSound where
  charset_ne he := by
    have hcharset := h.isUtf8
    rw [he, Charset.IsUtf8] at hcharset
    exact absurd hcharset (by decide)
  charset _ hc := (h.charset_char hc).1
  encoding_ne he := by
    have hencoding := h.encoding
    rw [he] at hencoding
    exact absurd hencoding (by decide)
  encoding _ hc := (h.encoding_char hc).1
  text _ hc := (h.text_char hc).1

theorem octets_of_ascii : ∀ {s : List Char}, (∀ c ∈ s, c.toNat < 0x80) →
    ∀ n, s.foldl (fun n c => n + c.utf8Size) n = n + s.length
  | [], _, _ => rfl
  | c :: s, h, n => by
    have hc : c.utf8Size = 1 := Char.utf8Size_eq_one_iff.2 (Nat.le_of_lt_succ (h c List.mem_cons_self))
    rw [List.foldl_cons, octets_of_ascii (fun d hd => h d (List.mem_cons_of_mem _ hd)), hc, List.length_cons]
    omega

theorem Writes.octets_eq (h : Writes piece w) : w.octets = w.render.length := by
  have hascii : ∀ c ∈ w.render, c.toNat < 0x80 := fun c hc => by
    have hsign : ∀ c ∈ ['=', '?'], c.toNat < 0x80 :=
      List.forall_mem_cons.2 ⟨by decide, List.forall_mem_singleton.2 (by decide)⟩
    simp only [render, List.mem_append, List.mem_singleton] at hc
    obtain (((((hc | hc) | rfl) | hc) | rfl) | hc) | hc := hc
    · exact hsign c hc
    · exact (h.charset_char hc).2
    · decide
    · exact (h.encoding_char hc).2
    · decide
    · exact (h.text_char hc).2
    · exact hsign c (List.mem_reverse.2 hc)
  rw [octets, octets_of_ascii hascii, Nat.zero_add]

theorem Writes.payload (h : Writes piece w) (hlast : w.text.getLast? ≠ some '_') :
    w.payload? = some (Utf8.encode piece) := by
  cases h with
  | base64 _ hencoding =>
    obtain rfl | rfl := hencoding
    all_goals exact Base64.decode_encode _
  | quoted _ hencoding hwritten =>
    have hdecode := QuotedPrintable.decode_written hwritten hlast
    obtain rfl | rfl := hencoding
    all_goals exact congrArg some hdecode

/-- **A word that was written gives the text back**, but for a mark of the byte order. -/
theorem Writes.decode (h : Writes piece w) (hlength : w.render.length ≤ maxOctets)
    (hlast : w.text.getLast? ≠ some '_') : w.decode? = some (unmarked piece) := by
  rw [decode?, h.octets_eq, if_pos hlength, h.payload hlast]
  exact congrArg some (Charset.decodeNamed_encode h.isUtf8 piece)

theorem decode_of_writes {pieces : List (List Char)} {words : List EncodedWord} (h : List.Forall₂ Writes pieces words)
    (hfits : ∀ w ∈ words, w.render.length ≤ maxOctets ∧ w.text.getLast? ≠ some '_') :
    (∀ w ∈ words, w.IsSound) ∧ List.Forall₂ (fun w t => decode? w = some t) words (pieces.map unmarked) := by
  induction h with
  | nil => exact ⟨fun _ hw => absurd hw List.not_mem_nil, .nil⟩
  | cons hword _ ih =>
    obtain ⟨⟨hlength, hlast⟩, hrest⟩ := List.forall_mem_cons.1 hfits
    obtain ⟨hsound, hdecode⟩ := ih hrest
    exact ⟨List.forall_mem_cons.2 ⟨hword.isSound, hsound⟩, .cons (hword.decode hlength hlast) hdecode⟩

end EncodedWord

namespace Headers

/-- **A subject that was written in words.**  A text is cut into pieces, each is written as a word of at most 75
characters, and the words are joined by spaces.  Where no word ends in the sign of a space, what is read are the pieces
without the marks that they begin with; so it is the text where there are none.  And what holds no word is read as it
stands. -/
theorem ofEnvelope_words (e : Envelope) :
    (∀ (s : String) (pieces : List (List Char)) (words : List EncodedWord), pieces.flatten = s.toList →
      List.Forall₂ EncodedWord.Writes pieces words →
      (∀ w ∈ words, w.render.length ≤ 75 ∧ w.text.getLast? ≠ some '_') →
        let read := (ofEnvelope { e with subject := some (HeaderText.joined words) }).subject
        read = String.ofList (pieces.flatMap unmarked) ∧
          ((∀ p ∈ pieces, p.head? ≠ some '\uFEFF') → read = s)) ∧
      ∀ raw : String, ¬ ['=', '?'] <:+: raw.toList → (ofEnvelope { e with subject := some raw }).subject = raw := by
  refine ⟨fun s pieces words hs hwords hfits => ?_, fun raw hraw => HeaderText.decode_of_clear hraw⟩
  intro read
  obtain ⟨hsound, hdecode⟩ := EncodedWord.decode_of_writes hwords hfits
  have hread : read = String.ofList (pieces.flatMap unmarked) := HeaderText.decode_joined hsound hdecode
  refine ⟨hread, fun hmarks => ?_⟩
  have hunmarked : pieces.map unmarked = pieces :=
    (List.map_congr_left fun p hp => unmarked_of_head (hmarks p hp)).trans (List.map_id _)
  rw [hread, List.flatMap_def, hunmarked, hs, String.ofList_toList]

/-- Neither a mark of the byte order in front of a piece comes through nor the sign of a space behind it. -/
theorem ofEnvelope_words_lossy :
    let e : Envelope := ⟨none, none, [], [], [], [], none⟩
    let read := fun w => (ofEnvelope { e with subject := some (HeaderText.joined [w]) }).subject
    let marked : EncodedWord := ⟨"utf-8".toList, ['b'], "77u/YQ==".toList⟩
    let ended : EncodedWord := ⟨"utf-8".toList, ['q'], "a_".toList⟩
    (EncodedWord.Writes "\uFEFFa".toList marked ∧ marked.render.length ≤ 75 ∧ read marked ≠ "\uFEFFa") ∧
      EncodedWord.Writes "a ".toList ended ∧ ended.render.length ≤ 75 ∧ read ended ≠ "a " := by
  intro e read marked ended
  have hmarked : EncodedWord.Writes "\uFEFFa".toList marked := .base64 rfl (.inl rfl)
  have hended : EncodedWord.Writes "a ".toList ended := .quoted rfl (.inl rfl) (.plain (by decide) (.space .nil))
  exact ⟨⟨hmarked, by decide, by decide +kernel⟩, hended, by decide, by decide +kernel⟩

theorem ofEnvelope_words_two :
    let e : Envelope := ⟨none, none, [], [], [], [], none⟩
    let pieces := ["Grü".toList, "ße".toList]
    let words : List EncodedWord := [⟨"UTF-8".toList, ['Q'], "Gr=c3=BC".toList⟩, ⟨"utf-8".toList, ['b'], "w59l".toList⟩]
    pieces.flatten = "Grüße".toList ∧ List.Forall₂ EncodedWord.Writes pieces words ∧
      (∀ w ∈ words, w.render.length ≤ 75 ∧ w.text.getLast? ≠ some '_') ∧
      (∀ p ∈ pieces, p.head? ≠ some '\uFEFF') ∧
      HeaderText.joined words = "=?UTF-8?Q?Gr=c3=BC?= =?utf-8?b?w59l?=" ∧
      (ofEnvelope { e with subject := some (HeaderText.joined words) }).subject = "Grüße" ∧
      ¬ ['=', '?'] <:+: "Re: a=b?".toList ∧ (ofEnvelope { e with subject := some "Re: a=b?" }).subject = "Re: a=b?" := by
  intro e pieces words
  have hcut : pieces.flatten = "Grüße".toList := by decide +kernel
  have hquoted : QuotedPrintable.Written (Utf8.encode "Grü".toList) "Gr=c3=BC".toList := by
    have hoctets : Utf8.encode "Grü".toList = [QuotedPrintable.octet 'G', QuotedPrintable.octet 'r', 0xC3, 0xBC] := by
      decide +kernel
    have htext : "Gr=c3=BC".toList = ['G', 'r', '=', 'c', '3', '=', 'B', 'C'] := rfl
    rw [hoctets, htext]
    refine .plain ?_ (.plain ?_ (.escaped ?_ ?_ (.escaped ?_ ?_ .nil)))
    all_goals decide
  have hwords : List.Forall₂ EncodedWord.Writes pieces words :=
    .cons (.quoted rfl (.inr rfl) hquoted) (.cons (.base64 rfl (.inl rfl)) .nil)
  have hfits : ∀ w ∈ words, w.render.length ≤ 75 ∧ w.text.getLast? ≠ some '_' := by decide +kernel
  have hmarks : ∀ p ∈ pieces, p.head? ≠ some '\uFEFF' := by decide +kernel
  have hclear : ¬ ['=', '?'] <:+: "Re: a=b?".toList := by decide +kernel
  exact ⟨hcut, hwords, hfits, hmarks, by decide +kernel,
    ((ofEnvelope_words e).1 _ pieces words hcut hwords hfits).2 hmarks, hclear, (ofEnvelope_words e).2 _ hclear⟩

end Headers
end Postbag
