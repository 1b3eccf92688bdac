import Mathlib.Data.List.Basic
import Postbag.Envelope
import Postbag.Proofs.Date.Calendar
import Postbag.Proofs.Text.Numbers
/-!
# Written — a date as a sender writes it, and what a reader makes of it

A sender writes the weekday or leaves it out, the day of the month in one digit or in two, the names of the weekday and
of the month in whatever case, and white space of any kind around the whole.  A reader takes the fields from the front,
one after the other, and each is found whatever stands behind it.  What was written is a moment where its day exists and
its weekday, if there is one, is that of the day.
-/
namespace Postbag

namespace Text

theorem toLower_of_isBlank {c : Char} (h : isBlank c = true) : c.toLower = c := by
  have hval : c.val.toNat = c.toNat := rfl
  unfold Char.toLower
  split
  · rename_i hc
    simp only [ge_iff_le, UInt32.le_iff_toNat_le] at hc
    have hA : 'A'.val.toNat = 65 := rfl
    have hZ : 'Z'.val.toNat = 90 := rfl
    simp only [isBlank, Bool.or_eq_true, Bool.and_eq_true, decide_eq_true_eq, beq_iff_eq] at h
    omega
  · rfl

theorem isBlank_of_isDigit {c : Char} (h : c.isDigit = true) : isBlank c = false := by
  obtain ⟨k, hk, rfl⟩ := eq_ofNat_of_isDigit h
  revert k
  decide

/-- White space in front of a text, and none where the text begins, is what is cut. -/
theorem trimStart_append {before s : List Char} (hbefore : ∀ c ∈ before, isBlank c = true)
    (hs : ∀ c ∈ s.head?, isBlank c = false) : trimStart (before ++ s) = s := by
  rw [trimStart, List.dropWhile_append_of_pos hbefore]
  cases s with
  | nil => rfl
  | cons c s => exact List.dropWhile_cons_of_neg (by simpa using hs c rfl)

theorem trimStart_eq_self {s : List Char} (hs : ∀ c ∈ s.head?, isBlank c = false) : trimStart s = s :=
  @trimStart_append [] s (fun _ h => absurd h List.not_mem_nil) hs

theorem trim_surrounded {before s behind : List Char} (hbefore : ∀ c ∈ before, isBlank c = true)
    (hbehind : ∀ c ∈ behind, isBlank c = true) (hne : s ≠ []) (hfirst : ∀ c ∈ s.head?, isBlank c = false)
    (hlast : ∀ c ∈ s.getLast?, isBlank c = false) : trim (before ++ s ++ behind) = s := by
  have hhead : ∀ c ∈ (s ++ behind).head?, isBlank c = false := by
    cases s with
    | nil => exact absurd rfl hne
    | cons c s => exact hfirst
  have hend : trimEnd (s ++ behind) = s := by
    have hreverse : trimStart (behind.reverse ++ s.reverse) = s.reverse :=
      trimStart_append (fun c hc => hbehind c (List.mem_reverse.1 hc)) (by rwa [List.head?_reverse])
    rw [trimEnd, List.reverse_append]
    exact (congrArg List.reverse hreverse).trans (List.reverse_reverse s)
  rw [trim, List.append_assoc, trimStart_append hbefore hhead, hend]

end Text

namespace HeaderDate

open Text (isBlank trimStart digit? digits zeroPadded)

/-! ## Numbers -/

/-- **Digits are taken up to the last one**, or to as many as there may be. -/
theorem digitRun_append {most : Nat} {ds rest : List Char} (hd : ∀ c ∈ ds, c.isDigit = true) (hm : ds.length ≤ most)
    (hstop : ds.length = most ∨ ∀ c ∈ rest.head?, c.isDigit = false) :
    digitRun most (ds ++ rest) = (ds.map fun c => c.toNat - 48, rest) := by
  induction ds generalizing most with
  | nil =>
    cases most with
    | zero => rfl
    | succ most =>
      cases rest with
      | nil => rfl
      | cons c rest =>
        have hc : c.isDigit = false := hstop.resolve_left (Nat.succ_ne_zero most).symm c rfl
        rw [List.nil_append, digitRun, digit?, hc]
        rfl
  | cons c ds ih =>
    obtain ⟨hc, hd⟩ := List.forall_mem_cons.1 hd
    cases most with
    | zero => exact absurd hm (Nat.not_succ_le_zero _)
    | succ most =>
      have hrest := ih hd (Nat.le_of_succ_le_succ hm) (hstop.imp_left Nat.succ.inj)
      rw [List.cons_append, digitRun, digit?, if_pos hc]
      dsimp only
      rw [hrest]
      rfl

theorem valueOf_map (ds : List Char) : valueOf (ds.map fun c => c.toNat - 48) = Text.valueOf ds := by
  rw [valueOf, List.foldl_map, Text.valueOf, Nat.ofDigitChars_eq_foldl]
  simp only [Nat.mul_comm 10]
  rfl

theorem number_append {least most : Nat} {ds rest : List Char} (hd : ∀ c ∈ ds, c.isDigit = true)
    (hl : least ≤ ds.length) (hm : ds.length ≤ most)
    (hstop : ds.length = most ∨ ∀ c ∈ rest.head?, c.isDigit = false) :
    number least most (ds ++ rest) = some (Text.valueOf ds, rest) := by
  unfold number
  rw [digitRun_append hd hm hstop]
  simp only [List.length_map, if_pos hl, valueOf_map]

theorem number_two {n : Nat} (h : n < 100) (rest : List Char) : number 2 2 (zeroPadded 2 n ++ rest) = some (n, rest) := by
  have hlength : (zeroPadded 2 n).length = 2 := Text.length_zeroPadded (by decide) h
  rw [number_append (fun c => Text.isDigit_of_mem_zeroPadded) (Nat.le_of_eq hlength.symm) (Nat.le_of_eq hlength)
    (.inl hlength), Text.valueOf_zeroPadded]

/-- A year of four digits is that year, also where it begins with zeros. -/
theorem year_four {n : Nat} (h : n < 10000) {rest : List Char} (hrest : ∀ c ∈ rest.head?, c.isDigit = false) :
    year (zeroPadded 4 n ++ rest) = some (n, rest) := by
  have hlength : (zeroPadded 4 n).length = 4 := Text.length_zeroPadded (by decide) h
  have hle : (zeroPadded 4 n).length ≤ (zeroPadded 4 n ++ rest).length := by
    rw [List.length_append]
    exact Nat.le_add_right _ _
  unfold year
  rw [digitRun_append (fun c => Text.isDigit_of_mem_zeroPadded) hle (.inr hrest)]
  simp only [List.length_map, hlength, valueOf_map, Text.valueOf_zeroPadded]
  rfl

/-! ## Names -/

/-- A name of a list as it is written, in whatever case. -/
structure Named (names : List (List Char)) where
  index : Nat
  text : List Char
  spelled : names[index]? = some (text.map Char.toLower)

/-- Different names of three small letters. -/
structure Distinct (names : List (List Char)) : Prop where
  nodup : names.Nodup
  length : ∀ name ∈ names, name.length = 3
  letters : ∀ name ∈ names, ∀ c ∈ name, isBlank c = false ∧ c.isDigit = false

theorem distinct_of_all {names : List (List Char)} (hnodup : names.Nodup) (hlength : ∀ name ∈ names, name.length = 3)
    (hletters : names.flatten.all (fun c => !isBlank c && !c.isDigit) = true) : Distinct names where
  nodup := hnodup
  length := hlength
  letters name hname c hc := by
    have hletter := List.all_eq_true.1 hletters c (List.mem_flatten.2 ⟨name, hname, hc⟩)
    simpa using hletter

theorem distinct_weekdays : Distinct weekdays := distinct_of_all (by decide) (by decide) (by decide)

theorem distinct_months : Distinct months := distinct_of_all (by decide) (by decide) (by decide)

namespace Named

variable {names : List (List Char)}

theorem mem (n : Named names) : n.text.map Char.toLower ∈ names := List.mem_of_getElem? n.spelled

theorem length_text (n : Named names) (h : Distinct names) : n.text.length = 3 := by
  rw [← h.length _ n.mem, List.length_map]

theorem isBlank_head (n : Named names) (h : Distinct names) (rest : List Char) :
    ∀ c ∈ (n.text ++ rest).head?, isBlank c = false := by
  intro c hc
  have hpos : 0 < n.text.length := by
    rw [n.length_text h]
    decide
  obtain ⟨a, s, htext⟩ := List.exists_cons_of_length_pos hpos
  rw [htext] at hc
  cases hc
  have hmem : c ∈ n.text := htext ▸ List.mem_cons_self
  have hletter := (h.letters _ n.mem c.toLower (List.mem_map_of_mem hmem)).1
  by_contra hblank
  rw [Bool.not_eq_false] at hblank
  rw [Text.toLower_of_isBlank hblank, hblank] at hletter
  cases hletter

/-- **A name is found in its list.** -/
theorem nameIn_append (n : Named names) (h : Distinct names) (rest : List Char) :
    nameIn names (n.text ++ rest) = some (n.index, rest) := by
  obtain ⟨a, b, c, habc⟩ := List.length_eq_three.1 (n.length_text h)
  obtain ⟨hindex, hspelled⟩ := List.getElem?_eq_some_iff.1 n.spelled
  have hfound : names.findIdx? (· == [a, b, c].map Char.toLower) = some n.index := by
    rw [List.findIdx?_eq_some_iff_getElem]
    refine ⟨hindex, by simp [hspelled, habc], fun j hj => ?_⟩
    rw [← habc, ← hspelled]
    simpa using List.pairwise_iff_getElem.1 h.nodup j n.index (Nat.lt_trans hj hindex) hindex hj
  rw [habc]
  show (names.findIdx? (· == [a, b, c].map Char.toLower)).map _ = _
  rw [hfound]
  rfl

end Named

theorem nameIn_of_isDigit {names : List (List Char)} (h : Distinct names) {c : Char} (hc : c.isDigit = true)
    (s : List Char) : nameIn names (c :: s) = none := by
  have hlower : c.toLower = c := by
    obtain ⟨k, hk, rfl⟩ := Text.eq_ofNat_of_isDigit hc
    revert k
    decide
  unfold nameIn
  split
  · rename_i a b d rest hs
    obtain ⟨rfl, -⟩ := List.cons_eq_cons.1 hs
    rw [Option.map_eq_none_iff, List.findIdx?_eq_none_iff]
    intro name hname
    rw [beq_eq_false_iff_ne]
    rintro rfl
    have hletter := (h.letters _ hname c.toLower List.mem_cons_self).2
    rw [hlower, hc] at hletter
    cases hletter
  · rfl

/-! ## A date in writing -/

/-- **A date as a sender writes it.**  The weekday need not be there, nor be the right one, and the day need not exist. -/
structure Written where
  leading : List Char
  trailing : List Char
  blank_leading : ∀ c ∈ leading, isBlank c = true
  blank_trailing : ∀ c ∈ trailing, isBlank c = true
  weekday : Option (Named weekdays)
  day : Nat
  dayText : List Char
  day_lt : day < 100
  /-- The day is written as it is, or in two digits. -/
  day_written : dayText = digits day ∨ dayText = zeroPadded 2 day
  month : Named months
  year : Nat
  year_lt : year < 10000
  hour : Nat
  minute : Nat
  second : Nat
  hour_lt : hour < 24
  minute_lt : minute < 60
  second_le : second ≤ 60
  /-- How far the clock is from universal time, in minutes, and to which side. -/
  offset : Nat
  isBehind : Bool
  offset_lt : offset < 24 * 60

namespace Written

variable (d : Written)

def weekdayText : List Char :=
  match d.weekday with
  | some w => w.text ++ [',', ' ']
  | none => []

def offsetText : List Char :=
  (if d.isBehind then '-' else '+') :: (zeroPadded 2 (d.offset / 60) ++ zeroPadded 2 (d.offset % 60))

def clockText : List Char :=
  zeroPadded 2 d.hour ++ ':' :: (zeroPadded 2 d.minute ++ ':' :: (zeroPadded 2 d.second ++ ' ' :: d.offsetText))

def dateText : List Char := d.dayText ++ ' ' :: (d.month.text ++ ' ' :: (zeroPadded 4 d.year ++ ' ' :: d.clockText))

/-- **`Www, d Mon yyyy hh:mm:ss +hhmm`** -/
def text : List Char := d.leading ++ (d.weekdayText ++ d.dateText) ++ d.trailing

def timestamp : Timestamp where
  year := d.year
  month := d.month.index + 1
  day := d.day
  hour := d.hour
  minute := d.minute
  second := d.second
  offset := if d.isBehind then -(d.offset : Int) else d.offset

/-- **Whether there is such a moment**: the day exists, and the weekday, if there is one, is the right one. -/
structure IsReal : Prop where
  day : Calendar.dayExists d.year (d.month.index + 1) d.day
  weekday : ∀ w ∈ d.weekday, Calendar.FallsOn d.year (d.month.index + 1) d.day w.index

/-! ## Its parts, one after the other -/

theorem isDigit_of_mem_dayText : ∀ c ∈ d.dayText, c.isDigit = true := by
  intro c hc
  rcases d.day_written with h | h
  · exact Text.isDigit_of_mem_digits (h ▸ hc)
  · exact Text.isDigit_of_mem_zeroPadded (h ▸ hc)

theorem number_dayText (rest : List Char) : number 1 2 (d.dayText ++ ' ' :: rest) = some (d.day, ' ' :: rest) := by
  have hshort : (digits d.day).length ≤ 2 := (Text.length_digits_le_iff (by decide)).2 d.day_lt
  have hone : 1 ≤ (digits d.day).length := Nat.length_toDigits_pos
  have htwo : (zeroPadded 2 d.day).length = 2 := Text.length_zeroPadded (by decide) d.day_lt
  have hlength : 1 ≤ d.dayText.length ∧ d.dayText.length ≤ 2 := by
    rcases d.day_written with h | h <;> rw [h] <;> omega
  have hvalue : Text.valueOf d.dayText = d.day := by
    rcases d.day_written with h | h <;> rw [h]
    · exact Nat.ofDigitChars_ten_toDigits
    · exact Text.valueOf_zeroPadded 2 d.day
  have hspace : ∀ c ∈ (' ' :: rest).head?, c.isDigit = false := by
    rintro c ⟨⟩
    rfl
  rw [number_append d.isDigit_of_mem_dayText hlength.1 hlength.2 (.inr hspace), hvalue]

theorem isDigit_head_dateText : ∃ c s, d.dateText = c :: s ∧ c.isDigit = true := by
  have hdigit := d.isDigit_of_mem_dayText
  have hne : d.dayText ≠ [] := by
    intro hnil
    have hread := d.number_dayText []
    rw [hnil] at hread
    cases hread
  obtain ⟨c, s, hs⟩ := List.exists_cons_of_ne_nil hne
  refine ⟨c, _, by rw [dateText, hs, List.cons_append], hdigit c (hs ▸ List.mem_cons_self)⟩

theorem weekday?_append : ∃ s, weekday? (d.weekdayText ++ d.dateText) = some (d.weekday.map Named.index, s) ∧
    trimStart s = d.dateText := by
  obtain ⟨c, s, hdate, hc⟩ := d.isDigit_head_dateText
  have hstart : trimStart d.dateText = d.dateText := Text.trimStart_eq_self fun c' hc' => by
    rw [hdate] at hc'
    cases hc'
    exact Text.isBlank_of_isDigit hc
  unfold weekdayText weekday?
  cases d.weekday with
  | none =>
    -- a date begins with a digit, and no name does
    refine ⟨d.dateText, ?_, hstart⟩
    rw [List.nil_append, hdate, nameIn_of_isDigit distinct_weekdays hc]
    rfl
  | some w =>
    refine ⟨' ' :: d.dateText, ?_, hstart⟩
    rw [List.append_assoc, w.nameIn_append distinct_weekdays]
    rfl

theorem zone_offsetText : zone d.offsetText = some (d.timestamp.offset, []) := by
  have hh : d.offset / 60 < 100 := by have := d.offset_lt; omega
  have hm : d.offset % 60 < 100 := by omega
  have hdigits : zoneDigits (zeroPadded 2 (d.offset / 60) ++ zeroPadded 2 (d.offset % 60)) = some (d.offset, []) := by
    have hvalue : (d.offset / 60 / 10 * 10 + d.offset / 60 % 10) * 60 + d.offset % 60 / 10 * 10 + d.offset % 60 % 10 =
        d.offset := by omega
    rw [Text.zeroPadded_two hh, Text.zeroPadded_two hm]
    simp only [List.cons_append, List.nil_append, zoneDigits]
    rw [Text.digit?_digitChar (by omega), Text.digit?_digitChar (by omega), Text.digit?_digitChar (by omega),
      Text.digit?_digitChar (by omega)]
    simp only [Option.bind_eq_bind, Option.bind_some]
    rw [if_pos (by omega), hvalue]
  unfold offsetText zone timestamp
  cases d.isBehind
  · show (zoneDigits _).map _ = _
    rw [hdigits]
    rfl
  · show (zoneDigits _).map _ = _
    rw [hdigits]
    rfl

/-! ## The whole of it -/

theorem isBlank_head : ∀ c ∈ (d.weekdayText ++ d.dateText).head?, isBlank c = false := by
  intro c hc
  unfold weekdayText at hc
  cases hw : d.weekday with
  | none =>
    obtain ⟨c', s, hdate, hc'⟩ := d.isDigit_head_dateText
    rw [hw, List.nil_append, hdate] at hc
    cases hc
    exact Text.isBlank_of_isDigit hc'
  | some w =>
    rw [hw, List.append_assoc] at hc
    exact w.isBlank_head distinct_weekdays _ c hc

theorem isBlank_getLast : ∀ c ∈ (d.weekdayText ++ d.dateText).getLast?, isBlank c = false := by
  intro c hc
  have hlast : (d.weekdayText ++ d.dateText).getLast? = some (Nat.digitChar (d.offset % 60 % 10)) := by
    simp [dateText, clockText, offsetText, Text.zeroPadded_two (n := d.offset % 60) (by omega),
      List.getLast?_append, List.getLast?_cons]
  rw [hlast] at hc
  cases hc
  refine Text.isBlank_of_isDigit ?_
  rw [Nat.isDigit_digitChar]
  exact decide_eq_true (Nat.mod_lt _ (by decide))

theorem blanks_space {s : List Char} (hs : ∀ c ∈ s.head?, isBlank c = false) : blanks (' ' :: s) = some ((), s) := by
  show some ((), trimStart s) = _
  rw [Text.trimStart_eq_self hs]

theorem isBlank_head_zeroPadded {width n : Nat} (rest : List Char) :
    ∀ c ∈ (zeroPadded width n ++ rest).head?, isBlank c = false := by
  intro c hc
  have hne : zeroPadded width n ≠ [] := fun hnil => Nat.toDigits_ne_nil (List.append_eq_nil_iff.1 hnil).2
  obtain ⟨c', s, hs⟩ := List.exists_cons_of_ne_nil hne
  rw [hs] at hc
  cases hc
  exact Text.isBlank_of_isDigit (Text.isDigit_of_mem_zeroPadded (hs ▸ List.mem_cons_self))

theorem isBlank_head_offsetText : ∀ c ∈ d.offsetText.head?, isBlank c = false := by
  unfold offsetText
  cases d.isBehind <;>
  · rintro c ⟨⟩
    rfl

theorem colon_append (s : List Char) : colon (trimStart (':' :: s)) = some ((), s) := rfl

theorem seconds_append {n : Nat} (h : n < 100) (rest : List Char) :
    seconds (':' :: (zeroPadded 2 n ++ rest)) = some (n, rest) := by
  unfold seconds
  rw [colon_append]
  exact number_two h rest

/-- **The fields are read one after the other**, up to the end. -/
theorem fields_text : fields (d.weekdayText ++ d.dateText) = some ((d.weekday.map Named.index, d.timestamp), []) := by
  obtain ⟨s, hweekday, hs⟩ := d.weekday?_append
  have hspace : ∀ rest, ∀ c ∈ (' ' :: rest : List Char).head?, c.isDigit = false := by
    rintro rest c ⟨⟩
    rfl
  have hsecond : d.second < 100 := Nat.lt_of_le_of_lt d.second_le (by decide)
  unfold fields
  rw [Text.trimStart_eq_self d.isBlank_head, hweekday]
  simp only [Option.bind_eq_bind, Option.bind_some]
  rw [hs, dateText, number_dayText]
  simp only [Option.bind_some]
  rw [blanks_space (d.month.isBlank_head distinct_months _)]
  simp only [Option.bind_some]
  rw [d.month.nameIn_append distinct_months]
  simp only [Option.bind_some]
  rw [blanks_space (isBlank_head_zeroPadded _)]
  simp only [Option.bind_some]
  rw [year_four d.year_lt (hspace _)]
  simp only [Option.bind_some]
  unfold clockText
  rw [blanks_space (isBlank_head_zeroPadded _)]
  simp only [Option.bind_some]
  rw [number_two (Nat.lt_trans d.hour_lt (by decide))]
  simp only [Option.bind_some]
  rw [colon_append]
  simp only [Option.bind_some]
  rw [Text.trimStart_eq_self (isBlank_head_zeroPadded _), number_two (Nat.lt_trans d.minute_lt (by decide))]
  simp only [Option.bind_some]
  rw [seconds_append hsecond]
  simp only [Option.bind_some]
  rw [blanks_space d.isBlank_head_offsetText]
  simp only [Option.bind_some]
  rw [zone_offsetText]
  rfl

theorem trim_text : Text.trim d.text = d.weekdayText ++ d.dateText := by
  obtain ⟨c, s, hdate, -⟩ := d.isDigit_head_dateText
  refine Text.trim_surrounded d.blank_leading d.blank_trailing ?_ d.isBlank_head d.isBlank_getLast
  rw [hdate]
  exact List.append_ne_nil_of_right_ne_nil _ (List.cons_ne_nil c s)

/-- The fields are those of a moment just where the date is real. -/
theorem isMoment_iff : isMoment (d.weekday.map Named.index) d.timestamp = true ↔ d.IsReal := by
  have hhour : d.hour ≤ 23 := Nat.le_of_lt_succ d.hour_lt
  have hminute : d.minute ≤ 59 := Nat.le_of_lt_succ d.minute_lt
  have hoffset : d.timestamp.offset.natAbs < 1440 := by
    have := d.offset_lt
    unfold timestamp
    dsimp only
    split <;> omega
  have hyear : isRepresentable d.timestamp = true := by
    have hlt : d.timestamp.year < maxYear := Nat.lt_trans d.year_lt (by decide)
    simp [isRepresentable, hlt]
  have hweekday : (d.weekday.map Named.index).all
        (· == Calendar.weekday d.year (d.month.index + 1) d.day) = true ↔
      ∀ w ∈ d.weekday, w.index = Calendar.weekday d.year (d.month.index + 1) d.day := by
    simp [Option.all_eq_true]
  unfold isMoment
  simp only [Bool.and_eq_true, decide_eq_true_eq, hoffset, hyear, and_true]
  constructor
  · rintro ⟨⟨⟨⟨hday, -⟩, -⟩, -⟩, hw⟩
    exact ⟨hday, fun w hmem => (Calendar.fallsOn_iff hday).2 (hweekday.1 hw w hmem)⟩
  · rintro ⟨hday, hw⟩
    exact ⟨⟨⟨⟨hday, hhour⟩, hminute⟩, d.second_le⟩,
      hweekday.2 fun w hmem => (Calendar.fallsOn_iff hday).1 (hw w hmem)⟩

theorem read_of_isReal (h : d.IsReal) : read d.text = some d.timestamp := by
  unfold read
  rw [trim_text, fields_text]
  exact if_pos (by rw [Bool.and_eq_true]; exact ⟨d.isMoment_iff.2 h, rfl⟩)

theorem read_of_not_isReal (h : ¬ d.IsReal) : read d.text = none := by
  unfold read
  rw [trim_text, fields_text]
  refine if_neg fun hmoment => h (d.isMoment_iff.1 ?_)
  rw [Bool.and_eq_true] at hmoment
  exact hmoment.1

end Written

end HeaderDate

namespace Headers

theorem ofEnvelope_dated (e : Envelope) (raw : String) :
    ofEnvelope { e with date := some raw } = { ofEnvelope { e with date := none } with date := readDate raw } := rfl

/-- **What a written date tells.**  Where the date is real, the headers tell the moment that it names, and where it is
not, they tell what they tell without a date.  All else that they tell is the same. -/
theorem ofEnvelope_written (d : HeaderDate.Written) (e : Envelope) :
    let undated := ofEnvelope { e with date := none }
    let dated := ofEnvelope { e with date := some (String.ofList d.text) }
    undated.date = none ∧ (d.IsReal → dated = { undated with date := some d.timestamp }) ∧
      (¬ d.IsReal → dated = undated) := by
  intro undated dated
  have hread : readDate (String.ofList d.text) = HeaderDate.read d.text := by rw [readDate, String.toList_ofList]
  have hdated : dated = { undated with date := HeaderDate.read d.text } := by
    rw [← hread]
    exact ofEnvelope_dated e _
  refine ⟨rfl, fun h => ?_, fun h => ?_⟩
  · rw [hdated, d.read_of_isReal h]
  · rw [hdated, d.read_of_not_isReal h]
    rfl

theorem ofEnvelope_written_february :
    let february : HeaderDate.Named HeaderDate.months := ⟨1, "FEB".toList, rfl⟩
    let leap : HeaderDate.Written := ⟨[], ['\u2003'], List.forall_mem_nil _, List.forall_mem_singleton.2 rfl,
      some ⟨3, "tHU".toList, rfl⟩, 29, _, by decide, .inl rfl, february, 2024, by decide, 23, 59, 60, by decide,
      by decide, by decide, 480, true, by decide⟩
    let common : HeaderDate.Written := ⟨[], [], List.forall_mem_nil _, List.forall_mem_nil _, none, 29, _, by decide, .inl rfl,
      february, 2023, by decide, 0, 0, 0, by decide, by decide, by decide, 0, false, by decide⟩
    let e : Envelope := ⟨none, some "s", [], [], [], [], none⟩
    String.ofList leap.text = "tHU, 29 FEB 2024 23:59:60 -0800\u2003" ∧ leap.IsReal ∧
      ofEnvelope { e with date := some (String.ofList leap.text) } =
        ⟨some ⟨2024, 2, 29, 23, 59, 60, -480⟩, "s", [], [], ""⟩ ∧
      String.ofList common.text = "29 FEB 2023 00:00:00 +0000" ∧ ¬ common.IsReal ∧
      ofEnvelope { e with date := some (String.ofList common.text) } = ⟨none, "s", [], [], ""⟩ := by
  intro february leap common e
  have hleap : leap.IsReal := leap.isMoment_iff.1 (by decide +kernel)
  have hcommon : ¬ common.IsReal := fun h => absurd (common.isMoment_iff.2 h) (by decide +kernel)
  refine ⟨by decide +kernel, hleap, ?_, by decide +kernel, hcommon, ?_⟩
  · exact ((ofEnvelope_written leap e).2.1 hleap).trans (by decide +kernel)
  · exact ((ofEnvelope_written common e).2.2 hcommon).trans (by decide +kernel)

end Headers
end Postbag
