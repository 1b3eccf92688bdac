import Postbag.Proofs.Cli.Table
import Postbag.Proofs.Date.Calendar
import Postbag.Proofs.Text.Numbers
/-!
# Columns — where the texts of a row stand

A row is a number, a date, the senders and the subject, each behind a space.  A date is never wider than its column, and
the senders and the subject are cut to theirs, so each of them begins where the heading says.  The number is not cut.
From nine digits on it is wider than its column, and all that stands behind it moves to the right.
-/
namespace Postbag

namespace Timestamp

/-- What the hands of a clock and the leaves of a calendar can show, in a year of at most six digits. -/
structure InRange (t : Timestamp) : Prop where
  year : t.year < 1000000
  month : t.month ≤ 12
  day : t.day ≤ 31
  hour : t.hour ≤ 23
  minute : t.minute ≤ 59

theorem length_yearText_le {year : Nat} (h : year < 1000000) : (yearText year).length ≤ 7 := by
  have hdigits := (Text.length_digits_le_iff (show 0 < 6 by decide)).2 h
  have hpadded : (Text.zeroPadded 4 year).length ≤ 6 := by
    rw [Text.zeroPadded, List.length_append, List.length_replicate]
    omega
  unfold yearText
  split
  · omega
  · rw [List.length_cons]
    omega

theorem length_short_le {t : Timestamp} (h : t.InRange) : t.short.toList.length ≤ 20 := by
  have hyear := length_yearText_le h.year
  have htwo : ∀ {n}, n < 100 → (Text.zeroPadded 2 n).length = 2 := fun hn => Text.length_zeroPadded (by decide) hn
  have hmonth := htwo (Nat.lt_of_le_of_lt h.month (by decide))
  have hday := htwo (Nat.lt_of_le_of_lt h.day (by decide))
  have hhour := htwo (Nat.lt_of_le_of_lt h.hour (by decide))
  have hminute := htwo (Nat.lt_of_le_of_lt h.minute (by decide))
  simp only [short, dateText, hourMinuteText, String.toList_ofList, List.length_append, List.length_cons, hmonth, hday,
    hhour, hminute]
  omega

end Timestamp

namespace HeaderDate

theorem inRange_of_read {raw : List Char} {t : Timestamp} (h : read raw = some t) : t.InRange := by
  simp only [read, Option.bind_eq_bind, Option.bind_eq_some_iff] at h
  obtain ⟨⟨⟨weekday, u⟩, rest⟩, -, h⟩ := h
  dsimp only at h
  obtain ⟨hmoment, hu⟩ := Option.ite_none_right_eq_some.1 h
  obtain rfl := Option.some.inj hu
  rw [Bool.and_eq_true] at hmoment
  have hfields := hmoment.1
  simp only [isMoment, Bool.and_eq_true, decide_eq_true_eq] at hfields
  obtain ⟨⟨⟨⟨⟨⟨hday, hhour⟩, hminute⟩, -⟩, -⟩, hyear⟩, -⟩ := hfields
  have hbound : u.year ≤ maxYear := by
    simp only [isRepresentable, Bool.or_eq_true, Bool.and_eq_true, decide_eq_true_eq, beq_iff_eq] at hyear
    omega
  have hmax : maxYear < 1000000 := by decide
  exact ⟨by omega, (Calendar.month_of_dayExists hday).2,
    Nat.le_trans (Calendar.dayExists_iff.1 hday).2 (Calendar.monthLength_le _ _), hhour, hminute⟩

end HeaderDate

namespace Headers

/-- **Every date that headers tell can be shown.** -/
theorem inRange_of_ofEnvelope {e : Envelope} {t : Timestamp} (h : (ofEnvelope e).date = some t) : t.InRange := by
  obtain ⟨raw, -, hread⟩ := Option.bind_eq_some_iff.1 h
  exact HeaderDate.inRange_of_read hread

end Headers

namespace Cli
namespace Summary

/-! ## Shortened texts -/

/-- A text in so many characters: itself where it fits, and otherwise the longest front of it behind which three dots
have room, with the dots. -/
structure IsShortened (max : Nat) (s shown : List Char) : Prop where
  length_le : shown.length ≤ max
  whole : s.length ≤ max → shown = s
  cut : max < s.length → ∃ front, front <+: s ∧ shown = front ++ "...".toList ∧
    ∀ other, other <+: s → other.length + 3 ≤ max → other <+: front

theorem isShortened_truncated {max : Nat} (h : 3 ≤ max) (s : List Char) : IsShortened max s (truncated max s) where
  length_le := by
    unfold truncated
    split
    · assumption
    · simp only [List.length_append, List.length_take, List.length_cons, List.length_nil]
      omega
  whole hfits := if_pos hfits
  cut hlong := by
    refine ⟨s.take (max - 3), List.take_prefix _ _, if_neg (Nat.not_le.2 hlong), fun other hother hroom => ?_⟩
    rw [List.prefix_take_iff]
    exact ⟨hother, by omega⟩

/-- **A text that was shortened stays as it is.** -/
theorem truncated_truncated {max : Nat} (h : 3 ≤ max) (s : List Char) :
    truncated max (truncated max s) = truncated max s :=
  (isShortened_truncated h _).whole (isShortened_truncated h s).length_le

/-! ## Columns -/

/-- A text stands in a line from a column on, behind a space. -/
def StandsAt (line : List Char) (column : Nat) (text : List Char) : Prop :=
  0 < column ∧ ' ' :: text <+: line.drop (column - 1)

instance (line : List Char) (column : Nat) (text : List Char) : Decidable (StandsAt line column text) := by
  unfold StandsAt
  infer_instance

theorem standsAt_behind (front text behind : List Char) :
    StandsAt (front ++ ' ' :: (text ++ behind)) (front.length + 1) text := by
  refine ⟨Nat.succ_pos _, behind, ?_⟩
  rw [Nat.add_sub_cancel, List.drop_left]
  rfl

theorem length_padded (width : Nat) (s : List Char) : (padded width s).length = max width s.length := by
  rw [padded, List.length_append, List.length_replicate]
  omega

section Columns

variable (number date sender subject : List Char)

theorem prefix_columns : number <+: columns number date sender subject := by
  simp only [columns, padded, List.append_assoc]
  exact List.prefix_append _ _

theorem standsAt_date : StandsAt (columns number date sender subject) (max 8 number.length + 1) date := by
  have hstands := standsAt_behind (padded 8 number) date
    (List.replicate (20 - date.length) ' ' ++ ' ' :: padded 30 sender ++ ' ' :: subject)
  rw [length_padded] at hstands
  simpa [columns, padded] using hstands

variable {date}

theorem standsAt_sender (hdate : date.length ≤ 20) :
    StandsAt (columns number date sender subject) (max 8 number.length + 22) sender := by
  have hstands := standsAt_behind (padded 8 number ++ ' ' :: padded 20 date) sender
    (List.replicate (30 - sender.length) ' ' ++ ' ' :: subject)
  have hcolumn : (padded 8 number ++ ' ' :: padded 20 date).length + 1 = max 8 number.length + 22 := by
    rw [List.length_append, List.length_cons, length_padded, length_padded]
    omega
  rw [hcolumn] at hstands
  simpa [columns, padded] using hstands

variable {sender}

theorem standsAt_subject (hdate : date.length ≤ 20) (hsender : sender.length ≤ 30) :
    StandsAt (columns number date sender subject) (max 8 number.length + 53) subject := by
  have hstands := standsAt_behind (padded 8 number ++ ' ' :: padded 20 date ++ ' ' :: padded 30 sender) subject []
  have hcolumn : (padded 8 number ++ ' ' :: padded 20 date ++ ' ' :: padded 30 sender).length + 1 =
      max 8 number.length + 53 := by
    simp only [List.length_append, List.length_cons, length_padded]
    omega
  rw [hcolumn] at hstands
  simpa [columns] using hstands

variable {number}

/-- A number that is wider than its column stands where the space behind the column would be. -/
theorem not_standsAt_nine (hnumber : ∀ c ∈ number, c.isDigit = true) (hwide : 8 < number.length) (text : List Char) :
    ¬ StandsAt (columns number date sender subject) 9 text := by
  rintro ⟨-, rest, hrest⟩
  obtain ⟨behind, hline⟩ := prefix_columns number date sender subject
  rw [← hline, List.drop_append_of_le_length (by omega)] at hrest
  cases hninth : number.drop (9 - 1) with
  | nil =>
    have hlength := congrArg List.length hninth
    rw [List.length_drop, List.length_nil] at hlength
    omega
  | cons c cs =>
    -- the ninth digit stands where a space should
    rw [hninth] at hrest
    have hc : ' ' = c := (List.cons.inj hrest).1
    have hdigit := hnumber c (List.mem_of_mem_drop (hninth ▸ List.mem_cons_self))
    rw [← hc] at hdigit
    exact absurd hdigit (by decide)

end Columns

/-- The heading is laid out like a row. -/
example : StandsAt heading 9 "Date".toList ∧ StandsAt heading 30 "From".toList ∧
    StandsAt heading 61 "Subject".toList := by
  decide

/-- The characters that the number of a message takes: eight, or as many as it has digits. -/
def numberWidth (s : Summary) : Nat := max 8 (Text.digits s.uid.toNat).length

theorem numberWidth_eq_iff (s : Summary) : s.numberWidth = 8 ↔ s.uid.toNat < 100000000 := by
  have hdigits : (Text.digits s.uid.toNat).length ≤ 8 ↔ s.uid.toNat < 100000000 :=
    Text.length_digits_le_iff (by decide)
  rw [← hdigits, numberWidth]
  omega

theorem numberWidth_le (s : Summary) : s.numberWidth ≤ 10 := by
  have huid : s.uid.toNat < 10000000000 := Nat.lt_trans s.uid.toNat_lt (by decide)
  have hdigits := (Text.length_digits_le_iff (show 0 < 10 by decide)).2 huid
  rw [numberWidth]
  omega

theorem length_dateColumn_le {s : Summary} (h : ∀ t ∈ s.headers.date, t.InRange) : s.dateColumn.length ≤ 20 := by
  unfold dateColumn
  cases hdate : s.headers.date with
  | none => decide
  | some t => exact Timestamp.length_short_le (h t hdate)

theorem getElem?_lines_tableText {before behind : List Summary} {s : Summary}
    (h : ∀ r ∈ before ++ s :: behind, (∀ a ∈ r.headers.sender, '\n' ∉ a.toList) ∧ '\n' ∉ r.headers.subject.toList) :
    (Text.lines (tableText (before ++ s :: behind)).toList)[before.length + 2]? = some s.row := by
  have hcut : tableLines (before ++ s :: behind) =
      ([heading, rule] ++ before.map row) ++ s.row :: (behind.map row ++ [[], total (before ++ s :: behind)]) := by
    rw [tableLines_of_ne_nil (by simp)]
    simp
  have hlength : ([heading, rule] ++ before.map row).length = before.length + 2 := by
    rw [List.length_append, List.length_map, List.length_cons, List.length_singleton]
    omega
  rw [lines_eq_tableLines h, hcut, ← hlength, List.getElem?_append_right (Nat.le_refl _), Nat.sub_self]
  rfl

/-- **Where the texts of a row stand.**  The line of a message begins with its number, and the date, the senders and the
subject follow from fixed columns on, counted from the end of the number.  That is where the heading has them, at 9, 30
and 61, just for the numbers of at most eight digits.  The senders and the subject are shown whole where they fit, and
as their longest front with three dots where they do not. -/
theorem columns_tableText (before behind : List Summary) (s : Summary)
    (htexts : ∀ r ∈ before ++ s :: behind,
      (∀ a ∈ r.headers.sender, '\n' ∉ a.toList) ∧ '\n' ∉ r.headers.subject.toList)
    (hdate : ∀ t ∈ s.headers.date, t.InRange) :
    (Text.lines (tableText (before ++ s :: behind)).toList)[before.length + 2]? = some s.row ∧
      Text.digits s.uid.toNat <+: s.row ∧
      StandsAt s.row (s.numberWidth + 1) s.dateColumn ∧
      StandsAt s.row (s.numberWidth + 22) s.senderColumn ∧
      StandsAt s.row (s.numberWidth + 53) s.subjectColumn ∧
      s.numberWidth ≤ 10 ∧ (s.numberWidth = 8 ↔ s.uid.toNat < 100000000) ∧
      (StandsAt s.row 9 s.dateColumn ↔ s.uid.toNat < 100000000) ∧
      IsShortened 28 (", ".intercalate s.headers.sender).toList s.senderColumn ∧
      IsShortened 40 s.headers.subject.toList s.subjectColumn ∧
      truncated 28 s.senderColumn = s.senderColumn ∧ truncated 40 s.subjectColumn = s.subjectColumn := by
  have hwidth := length_dateColumn_le hdate
  have hsender := isShortened_truncated (show 3 ≤ 28 by decide) (", ".intercalate s.headers.sender).toList
  have hsubject := isShortened_truncated (show 3 ≤ 40 by decide) s.headers.subject.toList
  have hnine : StandsAt s.row 9 s.dateColumn ↔ s.uid.toNat < 100000000 := by
    rw [← s.numberWidth_eq_iff]
    constructor
    · intro h
      by_contra hwide
      refine not_standsAt_nine _ (fun c => Text.isDigit_of_mem_digits) ?_ _ h
      rw [numberWidth] at hwide
      omega
    · intro h
      have hstands := standsAt_date (Text.digits s.uid.toNat) s.dateColumn s.senderColumn s.subjectColumn
      rwa [← numberWidth, h] at hstands
  exact ⟨getElem?_lines_tableText htexts, prefix_columns _ _ _ _, standsAt_date _ _ _ _, standsAt_sender _ _ _ hwidth,
    standsAt_subject _ _ hwidth (Nat.le_trans hsender.length_le (by decide)), s.numberWidth_le, s.numberWidth_eq_iff,
    hnine, hsender, hsubject, truncated_truncated (by decide) _, truncated_truncated (by decide) _⟩

/-- A number of nine digits, behind which the date stands one column further to the right. -/
theorem row_shifted :
    let s : Summary := ⟨100000000, 1, ⟨none, "", [], [], ""⟩⟩
    (Text.lines (tableText [s]).toList)[2]? = some s.row ∧ ¬ StandsAt s.row 9 s.dateColumn ∧
      StandsAt s.row 10 s.dateColumn := by
  intro s
  exact ⟨@getElem?_lines_tableText [] [] s (by decide +kernel), by decide +kernel, by decide +kernel⟩

theorem columns_tableText_one :
    let s : Summary := ⟨7, 1, ⟨some ⟨2024, 2, 29, 23, 59, 60, -480⟩, "Grüße", ["mailer-daemon@mail.example.org"], [], ""⟩⟩
    (∀ r ∈ [] ++ s :: [], (∀ a ∈ r.headers.sender, '\n' ∉ a.toList) ∧ '\n' ∉ r.headers.subject.toList) ∧
      (∀ t ∈ s.headers.date, t.InRange) ∧
      StandsAt s.row 9 "2024-02-29 23:59".toList ∧ StandsAt s.row 30 "mailer-daemon@mail.exampl...".toList ∧
      StandsAt s.row 61 "Grüße".toList := by
  intro s
  have htexts : ∀ r ∈ [] ++ s :: [], (∀ a ∈ r.headers.sender, '\n' ∉ a.toList) ∧ '\n' ∉ r.headers.subject.toList := by
    decide +kernel
  have hdate : ∀ t ∈ s.headers.date, t.InRange := by
    rintro t ht
    obtain rfl := Option.some.inj ht
    exact ⟨by decide, by decide, by decide, by decide, by decide⟩
  have hwidth : s.numberWidth = 8 := by decide +kernel
  have hdateColumn : s.dateColumn = "2024-02-29 23:59".toList := by decide +kernel
  have hsenderColumn : s.senderColumn = "mailer-daemon@mail.exampl...".toList := by decide +kernel
  have hsubjectColumn : s.subjectColumn = "Grüße".toList := by decide +kernel
  obtain ⟨-, -, hd, hf, hs, -⟩ := columns_tableText [] [] s htexts hdate
  rw [hwidth] at hd hf hs
  rw [hdateColumn] at hd
  rw [hsenderColumn] at hf
  rw [hsubjectColumn] at hs
  exact ⟨htexts, hdate, hd, hf, hs⟩

end Summary
end Cli
end Postbag
