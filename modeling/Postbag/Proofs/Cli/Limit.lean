import Postbag.Proofs.Cli.Printed
/-!
# Limit — a run with a limit, beside a run without one

A run with a limit prints the first messages of its mailbox, as many as the limit says, and fails only where the stream
fails before the limit is reached.  The server notices no difference.  The limit is looked at behind a message, so the
first message is printed whatever the limit is, and a limit of 0 is one of 1.
-/
namespace Postbag
namespace Cli

open Wire (Connection)

/-! ## Elements up to a limit -/

/-- **What a run with a limit takes**: as many elements as the limit says, and one at least. -/
theorem taken_limited (n : Nat) (handed : List Element) {es : List Element} (h : Stream.upToFailure es = es) :
    (limited (some n)).taken handed es = es.take (max n (handed.length + 1) - handed.length) := by
  induction es generalizing handed with
  | nil => rw [List.take_nil, Consumer.taken]
  | cons e es ih =>
    have hpos : max n (handed.length + 1) - handed.length = max n (handed.length + 1) - handed.length - 1 + 1 := by
      omega
    rw [hpos, List.take_succ_cons]
    cases e with
    | error f =>
      obtain rfl : [] = es := (List.cons.inj h).2
      rw [List.take_nil, Consumer.taken]
    | ok m =>
      rw [Consumer.taken]
      by_cases hn : n ≤ handed.length + 1
      · simp [limited, hn]
      · have hrest : max n (handed.length + 1) - handed.length - 1 =
            max n (handed.length + 2) - (handed.length + 1) := by omega
        have hih := ih (handed ++ [.ok m]) (List.cons.inj h).2
        rw [List.length_append, List.length_singleton] at hih
        rw [hrest, ← hih]
        simp [limited, hn]

/-! ## A run on a connection -/

/-- **A run that prints at most `n` messages**, beside a run that prints all of them.  `es` are the elements of the whole
stream of the mailbox. -/
structure Cuts (n : Nat) (json : Bool) (es : List Element) (whole cut : Outcome) : Prop where
  lists : Lists json (messagesOf es) whole.stdout
  prints : Lists json ((messagesOf es).take n) cut.stdout
  fails : cut.exitCode = 1 ↔ (∃ e, es.getLast? = some (.error e)) ∧ (messagesOf es).length < n
  succeeds : cut.exitCode ≠ 1 → cut.exitCode = 0
  /-- A limit that is not reached makes no difference. -/
  shown : (messagesOf es).length < n → cut.shown = whole.shown
  sent : cut.sent = whole.sent

section

variable {options : Options} {n : Nat}

theorem elements_streamOf_limit (hlimit : options.limit = some n) (c : Connection) :
    (streamOf options c).elements = (c.stream options.mailbox .eager).1.elements.take (max n 1) := by
  have hlast := upToFailure_stream c options.mailbox
  unfold streamOf
  rw [hlimit, Connection.stream_eq, Stream.elements_run, ← Connection.stream_eq]
  exact taken_limited n [] hlast

theorem sent_listMailbox (options : Options) (limit : Option Nat) (c : Connection) :
    (listMailbox { options with limit := limit } c).sent = (listMailbox options c).sent :=
  congrArg (fun c : Connection => c.logout.2.sent) (c.stream_snd options.mailbox (limited limit) (limited options.limit))

/-- **A run prints the messages up to its limit**, of which the first one is always printed. -/
theorem cuts_listMailbox (hlimit : options.limit = none) (n : Nat) (c : Connection) :
    Cuts (max n 1) options.json (c.stream options.mailbox .eager).1.elements (listMailbox options c)
      (listMailbox { options with limit := some n } c) := by
  have hwhole := Run.elements_of_unanswered (unanswered_streamOf hlimit c)
  have hcut : (streamOf { options with limit := some n } c).elements = _ := elements_streamOf_limit rfl c
  obtain ⟨ms, last, hes⟩ := Stream.eq_delivered_of_upToFailure (upToFailure_stream c options.mailbox)
  rw [hes] at hwhole hcut ⊢
  rw [Stream.take_delivered] at hcut
  refine ⟨?_, ?_, ?_, ?_, fun h => ?_, sent_listMailbox options (some n) c⟩
  · rw [stdout_listMailbox, hwhole, messagesOf_delivered]
    exact lists_output options ms
  · rw [stdout_listMailbox, hcut, messagesOf_delivered, messagesOf_delivered]
    exact lists_output options (ms.take (max n 1))
  · rw [exitCode_listMailbox, hcut, failureOf_delivered, messagesOf_delivered]
    simp only [Stream.getLast?_delivered]
    by_cases h : ms.length < max n 1
    · cases last <;> simp [h]
    · simp [h]
  · rw [exitCode_listMailbox]
    split <;> simp
  · rw [messagesOf_delivered] at h
    rw [if_pos h, List.take_of_length_le (Nat.le_of_lt h)] at hcut
    unfold Outcome.shown
    rw [stdout_listMailbox, stdout_listMailbox, stderr_listMailbox, stderr_listMailbox, exitCode_listMailbox,
      exitCode_listMailbox, hcut, hwhole]
    rfl

end

/-! ## The whole of it -/

/-- Every limit of 64 bits can be asked for. -/
theorem ofArguments_limit (mailbox : String) {n : Nat} (h : n < UInt64.size) :
    Request.ofArguments ["--limit", String.ofList (Text.digits n), "--mailbox=" ++ mailbox] =
        .list ⟨mailbox, some n, false⟩ ∧
      Request.ofArguments ["--json", "--limit", String.ofList (Text.digits n), "--mailbox=" ++ mailbox] =
        .list ⟨mailbox, some n, true⟩ := by
  have hlimit : Argument.ofString "--limit" = .limit none := rfl
  have hjson : Argument.ofString "--json" = .json := rfl
  have hdash : Text.startsWith ['-'] (Text.digits n) = false := by
    refine Bool.eq_false_iff.2 fun hstarts => ?_
    obtain ⟨rest, hrest⟩ := Text.startsWith_iff.1 hstarts
    have hmem : '-' ∈ Text.digits n := hrest ▸ List.mem_cons_self
    cases Text.isDigit_of_mem_digits hmem
  have hvalue : isValue (String.ofList (Text.digits n)) = true := by simp [isValue, hdash]
  have hset : ∀ json,
      (Given.mk none none json).setLimit (String.ofList (Text.digits n)) = some ⟨none, some n, json⟩ := by
    intro json
    rw [Given.setLimit, String.toList_ofList, Text.readNumber_digits (Nat.le_sub_one_of_lt h)]
    rfl
  simp [Request.ofArguments, readFrom, ofString_mailbox, hlimit, hjson, hvalue, hset, Given.setMailbox, Given.setJson,
    Given.none, Given.options]

/-- **A limit cuts what a run prints, and nothing else.**  Beside a run without a limit, a run with the limit `n` prints
the first `n` messages of the stream, or the first one where `n` is 0.  It fails where the stream ends with a failure
before the limit is reached, and is the same run in all that it shows where the stream ends before that.  The same lines
are sent to the server. -/
theorem run_limited {arguments arguments' : List String} {options : Options} {n : Nat}
    (h : Request.ofArguments arguments = .list options) (hlimit : options.limit = none)
    (h' : Request.ofArguments arguments' = .list { options with limit := some n }) (environment : Environment)
    (file : String) (dial : Settings → Dial) {c : Connection} (hc : (start environment file dial).outcome = .ok c) :
    Cuts (max n 1) options.json (c.stream options.mailbox .eager).1.elements (run arguments environment file dial)
      (run arguments' environment file dial) := by
  rw [run_of_start h, run_of_start h', listFrom, listFrom, hc]
  exact cuts_listMailbox hlimit n c

/-- A mailbox whose listing breaks off behind its first message.  A limit of 1 stops in front of that. -/
theorem run_limited_of_drafts :
    let environment : Environment := [("IMAP_USERNAME", "user"), ("IMAP_PASSWORD", "pass")]
    let server : Server := ⟨[], .ofText "\x7btag\x7d OK\r\n", .succeeds, .ofText "\x7btag\x7d OK\r\n",
      [.ofText "* 2 EXISTS\r\n\x7btag\x7d OK\r\n",
        .ofText ("* 1 FETCH (UID 7 ENVELOPE (NIL NIL NIL NIL NIL NIL NIL NIL NIL NIL) BODY[] \"x\")\r\n" ++
          "* 2 NO\r\n")]⟩
    let whole := run ["--mailbox=Drafts"] environment "" fun _ => .reached server
    let cut := run ["--limit=1", "--mailbox=Drafts"] environment "" fun _ => .reached server
    whole.exitCode = 1 ∧ cut.exitCode = 0 ∧
      ∃ c, (start environment "" fun _ => .reached server).outcome = .ok c ∧
        Cuts 1 false (c.stream "Drafts" .eager).1.elements whole cut := by
  intro environment server whole cut
  have hall : Request.ofArguments ["--mailbox=Drafts"] = .list ⟨"Drafts", none, false⟩ := by decide +kernel
  have hone : Request.ofArguments ["--limit=1", "--mailbox=Drafts"] = .list ⟨"Drafts", some 1, false⟩ := by
    decide +kernel
  have hwhole : whole.exitCode = 1 := by decide +kernel
  have hcut : cut.exitCode = 0 := by decide +kernel
  have hstart : (start environment "" fun _ => .reached server).outcome.isOk = true := by decide +kernel
  cases hc : (start environment "" fun _ => .reached server).outcome with
  | error e =>
    rw [hc] at hstart
    cases hstart
  | ok c =>
    exact ⟨hwhole, hcut, c, rfl, run_limited hall rfl hone environment "" (fun _ => .reached server) hc⟩

/-- **A limit of 0 prints a message**, where a run that prints none says so. -/
theorem limit_of_zero_prints :
    let environment : Environment := [("IMAP_USERNAME", "user"), ("IMAP_PASSWORD", "pass")]
    let server : Server := ⟨[], .ofText "\x7btag\x7d OK\r\n", .succeeds, .ofText "\x7btag\x7d OK\r\n",
      [.ofText "* 1 EXISTS\r\n\x7btag\x7d OK\r\n",
        .ofText ("* 1 FETCH (UID 7 ENVELOPE (NIL NIL NIL NIL NIL NIL NIL NIL NIL NIL) BODY[] \"x\")\r\n" ++
          "\x7btag\x7d OK\r\n")]⟩
    Request.ofArguments ["--limit", "0"] = .list ⟨"INBOX", some 0, false⟩ ∧
      ∃ c, (start environment "" fun _ => .reached server).outcome = .ok c ∧
        ¬ Lists false ((messagesOf (c.stream "INBOX" .eager).1.elements).take 0)
          (run ["--limit", "0"] environment "" fun _ => .reached server).stdout := by
  intro environment server
  have hstart : (start environment "" fun _ => .reached server).outcome.isOk = true := by decide +kernel
  have hprinted : (run ["--limit", "0"] environment "" fun _ => .reached server).stdout ≠ "No messages found.\n" := by
    decide +kernel
  refine ⟨by decide +kernel, ?_⟩
  cases hc : (start environment "" fun _ => .reached server).outcome with
  | error e =>
    rw [hc] at hstart
    cases hstart
  | ok c => exact ⟨c, rfl, fun hlists : Tabulates [] _ => hprinted (hlists.empty rfl)⟩

end Cli
end Postbag
