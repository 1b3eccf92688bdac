import Postbag.Proofs.Cli.Printed
import Postbag.Proofs.Imap.Reduction
/-!
# Table — the lines of a table

A table is printed line by line, a row to a message.  What a row shows of the senders and of the subject is what the
server sent of them, cut to the width of the column and otherwise as it is, line feeds included.  So a row takes one line
and one more for each line feed that it shows, and nothing else in a table breaks a line.
-/
namespace Postbag

namespace Text

/-- The lines of a text that ends in a line feed. -/
def lines (s : List Char) : List (List Char) := (s.splitOn '\n').dropLast

theorem length_splitOn (c : Char) (s : List Char) : (s.splitOn c).length = s.count c + 1 := by
  induction s with
  | nil => rfl
  | cons x s ih =>
    rw [List.splitOn_cons_eq_if_modifyHead, List.count_cons]
    split <;> simp [ih]

theorem splitOn_flatMap (c : Char) (ls : List (List Char)) :
    (ls.flatMap (· ++ [c])).splitOn c = ls.flatMap (·.splitOn c) ++ [[]] := by
  induction ls with
  | nil => rfl
  | cons l ls ih =>
    have hcut : (l :: ls).flatMap (· ++ [c]) = l ++ c :: ls.flatMap (· ++ [c]) := by simp
    rw [hcut, List.splitOn_append_cons_self, ih, List.flatMap_cons, List.append_assoc]

/-- **Lines that are put together are cut again**, each into the lines that it is made of. -/
theorem lines_flatMap (ls : List (List Char)) : lines (ls.flatMap (· ++ ['\n'])) = ls.flatMap (·.splitOn '\n') := by
  rw [lines, splitOn_flatMap, List.dropLast_concat]

theorem lineFeed_not_mem_of_isDigit {s : List Char} (h : ∀ c ∈ s, c.isDigit = true) : '\n' ∉ s :=
  fun hmem => Bool.false_ne_true (h _ hmem)

end Text

namespace Timestamp

theorem lineFeed_not_mem_short (t : Timestamp) : '\n' ∉ t.short.toList := by
  have hpadded : ∀ width n, '\n' ∉ Text.zeroPadded width n := fun width n =>
    Text.lineFeed_not_mem_of_isDigit fun c => Text.isDigit_of_mem_zeroPadded
  have hyear : '\n' ∉ yearText t.year := by
    unfold yearText
    split <;> simp [hpadded]
  simp [short, dateText, hourMinuteText, hpadded, hyear]

end Timestamp

namespace Cli
namespace Summary

/-! ## One row -/

/-- What a row shows of the texts that the server sent. -/
def shown (s : Summary) : List Char := s.senderColumn ++ s.subjectColumn

theorem count_padded (width : Nat) (s : List Char) : (padded width s).count '\n' = s.count '\n' := by
  simp [padded, List.count_replicate]

theorem count_columns (number date sender subject : List Char) :
    (columns number date sender subject).count '\n' =
      number.count '\n' + date.count '\n' + sender.count '\n' + subject.count '\n' := by
  simp only [columns, List.count_append, List.count_cons, count_padded]
  simp

theorem count_row (s : Summary) : s.row.count '\n' = s.shown.count '\n' := by
  have hnumber : (Text.digits s.uid.toNat).count '\n' = 0 :=
    List.count_eq_zero.2 (Text.lineFeed_not_mem_of_isDigit fun c => Text.isDigit_of_mem_digits)
  have hdate : s.dateColumn.count '\n' = 0 := by
    refine List.count_eq_zero.2 ?_
    unfold dateColumn
    cases s.headers.date with
    | none => simp
    | some t => exact t.lineFeed_not_mem_short
  rw [row, count_columns, hnumber, hdate, shown, List.count_append, Nat.zero_add]

theorem splitOn_row {s : Summary} (h : '\n' ∉ s.shown) : s.row.splitOn '\n' = [s.row] :=
  List.splitOn_eq_singleton (List.count_eq_zero.1 (s.count_row.trans (List.count_eq_zero.2 h)))

theorem mem_of_mem_truncated {max : Nat} {s : List Char} (h : '\n' ∈ truncated max s) : '\n' ∈ s := by
  unfold truncated at h
  split at h
  · exact h
  · rcases List.mem_append.1 h with h | h
    · exact List.mem_of_mem_take h
    · simp at h

/-- A row shows no line feed where the message has none to show. -/
theorem not_mem_shown {s : Summary} (hsender : ∀ a ∈ s.headers.sender, '\n' ∉ a.toList)
    (hsubject : '\n' ∉ s.headers.subject.toList) : '\n' ∉ s.shown := by
  have hjoined : '\n' ∉ (", ".intercalate s.headers.sender).toList := Text.not_mem_intercalate (by decide) hsender
  intro hmem
  rcases List.mem_append.1 hmem with hmem | hmem
  · exact hjoined (mem_of_mem_truncated hmem)
  · exact hsubject (mem_of_mem_truncated hmem)

/-! ## The whole table -/

theorem toList_tableText (l : List Summary) : (tableText l).toList = (tableLines l).flatMap (· ++ ['\n']) :=
  String.toList_ofList

theorem tableLines_of_ne_nil {l : List Summary} (h : l ≠ []) :
    tableLines l = [heading, rule] ++ l.map row ++ [[], total l] := by
  rw [tableLines, if_neg (by simpa using h)]

theorem lines_tableText_of_ne_nil {l : List Summary} (h : l ≠ []) :
    Text.lines (tableText l).toList = [heading, rule] ++ l.flatMap (·.row.splitOn '\n') ++ [[], total l] := by
  have hheading : heading.splitOn '\n' = [heading] := rfl
  have hrule : rule.splitOn '\n' = [rule] :=
    List.splitOn_eq_singleton fun hmem => absurd (List.eq_of_mem_replicate hmem) (by decide)
  have htotal : (total l).splitOn '\n' = [total l] := by
    refine List.splitOn_eq_singleton fun hmem => ?_
    rcases List.mem_append.1 hmem with hmem | hmem
    · exact Text.lineFeed_not_mem_of_isDigit (fun c => Text.isDigit_of_mem_digits) hmem
    · exact absurd hmem (by decide)
  rw [toList_tableText, Text.lines_flatMap, tableLines_of_ne_nil h]
  simp [hheading, hrule, htotal, List.flatMap_map]

theorem length_lines_tableText {l : List Summary} (h : l ≠ []) :
    (Text.lines (tableText l).toList).length = l.length + 4 + (l.flatMap shown).count '\n' := by
  have hrows : (l.flatMap (·.row.splitOn '\n')).length = l.length + (l.flatMap shown).count '\n' := by
    clear h
    induction l with
    | nil => rfl
    | cons s l ih =>
      rw [List.flatMap_cons, List.length_append, ih, Text.length_splitOn, count_row, List.flatMap_cons,
        List.count_append, List.length_cons]
      omega
  rw [lines_tableText_of_ne_nil h, List.length_append, List.length_append, hrows]
  simp
  omega

theorem tableLines_nil : tableLines [] = ["No messages found.".toList] := rfl

theorem lines_tableText_nil : Text.lines (tableText []).toList = tableLines [] := by decide

theorem lines_eq_tableLines_iff (l : List Summary) :
    Text.lines (tableText l).toList = tableLines l ↔ ∀ s ∈ l, '\n' ∉ s.shown := by
  rcases eq_or_ne l [] with rfl | hne
  · exact ⟨fun _ s hs => (List.not_mem_nil hs).elim, fun _ => lines_tableText_nil⟩
  constructor
  · intro hlines s hs hmem
    have hlength := length_lines_tableText hne
    rw [hlines, tableLines_of_ne_nil hne, List.length_append, List.length_append, List.length_map] at hlength
    have hnone : (l.flatMap shown).count '\n' = 0 := by
      simp only [List.length_cons, List.length_nil] at hlength
      omega
    exact List.count_eq_zero.1 hnone (List.mem_flatMap.2 ⟨s, hs, hmem⟩)
  · intro hshown
    have hrows : l.flatMap (·.row.splitOn '\n') = l.map row := by
      rw [List.map_eq_flatMap]
      exact List.flatMap_congr fun s hs => splitOn_row (hshown s hs)
    rw [lines_tableText_of_ne_nil hne, hrows, tableLines_of_ne_nil hne]

/-- Where no sender and no subject holds a line feed, a table has the lines that it was made of. -/
theorem lines_eq_tableLines {l : List Summary}
    (h : ∀ s ∈ l, (∀ a ∈ s.headers.sender, '\n' ∉ a.toList) ∧ '\n' ∉ s.headers.subject.toList) :
    Text.lines (tableText l).toList = tableLines l :=
  (lines_eq_tableLines_iff l).2 fun s hs => not_mem_shown (h s hs).1 (h s hs).2

/-- **The lines of a table.**  Without messages there is one.  With messages there is a line for the heading, one for the
rule, then for each message one line and one more for each line feed that its row shows, an empty line and the total.
So a message has one line just where its row shows no line feed. -/
theorem lines_tableText (l : List Summary) :
    Text.lines (tableText l).toList =
        (if l = [] then ["No messages found.".toList]
          else [heading, rule] ++ l.flatMap (·.row.splitOn '\n') ++ [[], total l]) ∧
      (Text.lines (tableText l).toList).length = (if l = [] then 1 else l.length + 4 + (l.flatMap shown).count '\n') ∧
      (Text.lines (tableText l).toList = tableLines l ↔ ∀ s ∈ l, '\n' ∉ s.shown) := by
  refine ⟨?_, ?_, lines_eq_tableLines_iff l⟩
  · split
    · rename_i hnil
      rw [hnil, lines_tableText_nil, tableLines_nil]
    · exact lines_tableText_of_ne_nil ‹_›
  · split
    · rename_i hnil
      rw [hnil, lines_tableText_nil, tableLines_nil, List.length_singleton]
    · exact length_lines_tableText ‹_›

end Summary

/-- **A mailbox of one message that is printed in six lines**: its subject, sent with its length in front, holds a
line feed. -/
theorem row_broken_by_subject :
    let environment : Environment := [("IMAP_USERNAME", "user"), ("IMAP_PASSWORD", "pass")]
    let server : Server := ⟨[], .ofText "\x7btag\x7d OK\r\n", .succeeds, .ofText "\x7btag\x7d OK\r\n",
      [.ofText "* 1 EXISTS\r\n\x7btag\x7d OK\r\n",
        .ofText ("* 1 FETCH (UID 7 ENVELOPE (NIL \x7b3\x7d\r\na\nb NIL NIL NIL NIL NIL NIL NIL NIL) BODY[] \"x\")\r\n" ++
          "\x7btag\x7d OK\r\n")]⟩
    let o := run [] environment "" fun _ => .reached server
    (∃ c, (start environment "" fun _ => .reached server).outcome = .ok c ∧
      (messagesOf (c.stream "INBOX" .eager).1.elements).length = 1) ∧ (Text.lines o.stdout.toList).length = 6 := by
  intro environment server o
  let options : Options := ⟨"INBOX", none, false⟩
  let shown : Summary := ⟨7, 1, ⟨none, "a\nb", [], [], ""⟩⟩
  have harguments : Request.ofArguments [] = .list options := by decide +kernel
  have hlimit : options.limit = none := rfl
  have hone : ((start environment "" fun _ => .reached server).outcome.toOption.map fun c =>
      (messagesOf (c.stream "INBOX" .eager).1.elements).map Summary.ofMessage) = some [shown] := by decide +kernel
  cases hc : (start environment "" fun _ => .reached server).outcome with
  | error e =>
    rw [hc] at hone
    cases hone
  | ok c =>
    rw [hc] at hone
    have hmessages : (messagesOf (c.stream "INBOX" .eager).1.elements).map Summary.ofMessage = [shown] :=
      Option.some.inj hone
    have helements := Run.elements_of_unanswered (unanswered_streamOf hlimit c)
    have hstdout : o.stdout = Summary.tableText [shown] := by
      show (run [] environment "" fun _ => .reached server).stdout = _
      rw [run_of_start harguments, listFrom, hc]
      show (listMailbox options c).stdout = _
      rw [stdout_listMailbox, helements, hmessages]
      rfl
    have hlength := congrArg List.length hmessages
    rw [List.length_map] at hlength
    refine ⟨⟨c, rfl, hlength⟩, ?_⟩
    rw [hstdout, Summary.length_lines_tableText (List.cons_ne_nil _ _)]
    decide

end Cli
end Postbag
