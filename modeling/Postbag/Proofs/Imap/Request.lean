import Postbag.Imap.Command
/-!
# Request — what a server reads of a command

A command is written as one line, and a server reads it from the left: the word of the command, then its arguments
between quotes, in which a backslash stands before each quote and each backslash.  What is read of the text of a command
is that command, whatever stands in its arguments.  A line end can stand in none of them, so a text is one line.
-/
namespace Postbag
namespace Imap

/-! ## Arguments -/

/-- **A text that may be an argument** has no line end. -/
def Sendable (s : String) : Prop := '\n' ∉ s.toList ∧ '\r' ∉ s.toList

instance (s : String) : Decidable (Sendable s) := inferInstanceAs (Decidable (_ ∧ _))

theorem lineEnd?_eq_none_iff (s : String) : lineEnd? s = none ↔ Sendable s := by
  unfold lineEnd? Sendable
  by_cases hn : '\n' ∈ s.toList <;> by_cases hr : '\r' ∈ s.toList <;> simp [hn, hr]

theorem checkArgument_eq_ok_iff (s : String) : checkArgument s = .ok () ↔ Sendable s := by
  rw [← lineEnd?_eq_none_iff, checkArgument]
  cases lineEnd? s <;> simp

theorem checkArgument_of_not_sendable {s : String} (h : ¬ Sendable s) : ∃ f, checkArgument s = .error f := by
  cases hc : checkArgument s with
  | error f => exact ⟨f, rfl⟩
  | ok u => exact absurd ((checkArgument_eq_ok_iff s).1 hc) h

/-- What stands before the quote that ends an argument, without the backslashes, and what stands behind it; `behind` says
that a backslash was read, which makes the next character one of the argument. -/
def unescaped : (behind : Bool) → List Char → Option (List Char × List Char)
  | _, [] => none
  | true, c :: s => if c = '"' || c = '\\' then (unescaped false s).map fun p => (c :: p.1, p.2) else none
  | false, c :: s =>
    if c = '"' then some ([], s)
    else if c = '\\' then unescaped true s
    else (unescaped false s).map fun p => (c :: p.1, p.2)

/-- An argument at the front of a text, and what stands behind it. -/
def argument? : List Char → Option (String × List Char)
  | '"' :: s => (unescaped false s).map fun p => (String.ofList p.1, p.2)
  | _ => none

theorem escaped_cons_of_special {c : Char} (h : c = '"' ∨ c = '\\') (s : List Char) :
    escaped (c :: s) = '\\' :: c :: escaped s := by
  rw [escaped, if_pos (by simpa using h)]

theorem escaped_cons {c : Char} (h : ¬ (c = '"' ∨ c = '\\')) (s : List Char) : escaped (c :: s) = c :: escaped s := by
  rw [escaped, if_neg (by simpa using h)]

theorem unescaped_escaped (s rest : List Char) : unescaped false (escaped s ++ '"' :: rest) = some (s, rest) := by
  induction s with
  | nil => rfl
  | cons c s ih =>
    by_cases hc : c = '"' ∨ c = '\\'
    · have hspecial : (decide (c = '"') || decide (c = '\\')) = true := by simpa using hc
      rw [escaped_cons_of_special hc, List.cons_append, List.cons_append, unescaped, if_neg (by decide), if_pos rfl,
        unescaped, if_pos hspecial, ih]
      rfl
    · rw [escaped_cons hc, List.cons_append]
      rw [not_or] at hc
      rw [unescaped, if_neg hc.1, if_neg hc.2, ih]
      rfl

/-- **An argument is read as it was meant**, whatever stands in it and behind it. -/
theorem argument?_argument (s : String) (rest : List Char) :
    argument? ((argument s).toList ++ rest) = some (s, rest) := by
  have htext : (argument s).toList ++ rest = '"' :: (escaped s.toList ++ '"' :: rest) := by
    simp [argument, String.toList_ofList]
  rw [htext, argument?, unescaped_escaped]
  simp

theorem mem_escaped {s : List Char} {c : Char} (h : c ∈ escaped s) : c ∈ s ∨ c = '\\' := by
  induction s with
  | nil => exact .inl h
  | cons d s ih =>
    by_cases hd : d = '"' ∨ d = '\\'
    · rw [escaped_cons_of_special hd, List.mem_cons, List.mem_cons] at h
      rcases h with h | h | h
      · exact .inr h
      · exact .inl (h ▸ List.mem_cons_self)
      · exact (ih h).imp_left (List.mem_cons_of_mem d)
    · rw [escaped_cons hd] at h
      rcases List.mem_cons.1 h with h | h
      · exact .inl (h ▸ List.mem_cons_self)
      · exact (ih h).imp_left (List.mem_cons_of_mem d)

theorem mem_argument {s : String} {c : Char} (h : c ∈ (argument s).toList) : c ∈ s.toList ∨ c = '\\' ∨ c = '"' := by
  have htext : (argument s).toList = '"' :: (escaped s.toList ++ ['"']) := by simp [argument, String.toList_ofList]
  rw [htext, List.mem_cons, List.mem_append, List.mem_singleton] at h
  rcases h with h | h | h
  · exact .inr (.inr h)
  · exact (mem_escaped h).imp_right .inl
  · exact .inr (.inr h)

namespace Command

/-! ## Commands -/

def Sendable : Command → Prop
  | login username password => Imap.Sendable username ∧ Imap.Sendable password
  | select mailbox => Imap.Sendable mailbox
  | _ => True

theorem check_eq_ok_iff (c : Command) : c.check = .ok () ↔ c.Sendable := by
  cases c with
  | login username password =>
    rw [Sendable, ← checkArgument_eq_ok_iff, ← checkArgument_eq_ok_iff]
    show (checkArgument username >>= fun _ => checkArgument password) = .ok () ↔ _
    cases checkArgument username <;> simp [bind, Except.bind]
  | select mailbox => exact checkArgument_eq_ok_iff mailbox
  | _ => exact iff_of_true rfl trivial

/-- **The command that a server reads** of a line without its tag and its line end. -/
def read? (s : List Char) : Option Command :=
  match Text.after? "LOGIN ".toList s with
  | some s => do
    let (username, s) ← argument? s
    let (password, s) ← argument? (← Text.after? [' '] s)
    if s.isEmpty then some (login username password) else none
  | none =>
    match Text.after? "SELECT ".toList s with
    | some s => do
      let (mailbox, s) ← argument? s
      if s.isEmpty then some (select mailbox) else none
    | none =>
      if s = "STARTTLS".toList then some startTls
      else if s = "FETCH 1:* (UID ENVELOPE BODY.PEEK[])".toList then some (fetch .messages)
      else if s = "LOGOUT".toList then some logout
      else none

/-- A command that a session sends: of all that can be asked for in a FETCH, it asks for what makes messages. -/
def IsOwn (c : Command) : Prop := ∀ query, c = fetch query → query = .messages

/-- **A command is read as it was meant**, whatever stands in its arguments. -/
theorem read?_text {c : Command} (h : c.IsOwn) : read? c.text.toList = some c := by
  cases c with
  | startTls => rfl
  | login username password =>
    have htext : (login username password).text.toList =
        "LOGIN ".toList ++ ((argument username).toList ++ ([' '] ++ ((argument password).toList ++ []))) := by
      simp [text]
    have hword := Text.after?_eq_some_iff.2 htext
    have hspace := Text.after?_eq_some_iff.2 (rfl : [' '] ++ ((argument password).toList ++ []) = _)
    rw [read?, hword]
    simp only [argument?_argument, hspace, Option.bind_eq_bind, Option.bind_some]
    rfl
  | select mailbox =>
    have htext : (select mailbox).text.toList = "SELECT ".toList ++ ((argument mailbox).toList ++ []) := by
      simp [text]
    have hword := Text.after?_eq_some_iff.2 htext
    have hlogin : Text.after? "LOGIN ".toList (select mailbox).text.toList = none := by rw [htext]; rfl
    rw [read?, hlogin, hword]
    simp only [argument?_argument, Option.bind_eq_bind, Option.bind_some]
    rfl
  | fetch query =>
    obtain rfl := h query rfl
    rfl
  | logout => rfl

/-- **The text of a command is one line.** -/
theorem sendable_text {c : Command} (h : c.Sendable) : Imap.Sendable c.text := by
  have hargument : ∀ {s : String} {d : Char}, d ∉ s.toList → d ≠ '\\' → d ≠ '"' → d ∉ (argument s).toList := by
    intro s d hs hb hq hm
    rcases mem_argument hm with hm | hm | hm
    · exact hs hm
    · exact hb hm
    · exact hq hm
  cases c with
  | login username password =>
    obtain ⟨⟨hun, hur⟩, hpn, hpr⟩ := h
    constructor <;> simp only [text, String.toList_append, List.mem_append, not_or]
    · exact ⟨⟨⟨by decide, hargument hun (by decide) (by decide)⟩, by decide⟩, hargument hpn (by decide) (by decide)⟩
    · exact ⟨⟨⟨by decide, hargument hur (by decide) (by decide)⟩, by decide⟩, hargument hpr (by decide) (by decide)⟩
  | select mailbox =>
    obtain ⟨hn, hr⟩ := h
    constructor <;> simp only [text, String.toList_append, List.mem_append, not_or]
    · exact ⟨by decide, hargument hn (by decide) (by decide)⟩
    · exact ⟨by decide, hargument hr (by decide) (by decide)⟩
  | fetch query =>
    obtain ⟨uid, envelope, body⟩ := query
    cases uid <;> cases envelope <;> cases body <;> decide
  | _ => decide

end Command
end Imap
end Postbag
