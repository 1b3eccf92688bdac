import Postbag.Config.Settings
import Postbag.Proofs.Text.Numbers
/-!
# Lookup — which lookups give settings, and what is wrong with the others

A lookup gives settings where the port, if it is there, is a number of 16 bits, and the name and the password are there.
Any other lookup is refused for one reason, the first that there is: the port, then the name, then the password.  The
reason is told by its words.
-/
namespace Postbag
namespace Settings

open Text (Denotes Unreadable)

/-- **The port that a variable gives**: the default, or the number that is in it, which is one of 16 bits. -/
inductive PortOf : Option String → UInt16 → Prop
  | absent : PortOf none 1143
  | given {raw : String} {port : UInt16} : Denotes raw.toList port.toNat → PortOf (some raw) port

/-- **The settings that a lookup gives.** -/
structure GivenBy (lookup : String → Option String) (s : Settings) : Prop where
  host : s.host = (lookup "IMAP_HOST").getD "127.0.0.1"
  port : PortOf (lookup "IMAP_PORT") s.port
  username : lookup "IMAP_USERNAME" = some s.username
  password : lookup "IMAP_PASSWORD" = some s.password

/-- **Why a lookup gives no settings**: the first reason that there is. -/
inductive Refused (lookup : String → Option String) : Fault → Prop
  | port {raw : String} {cause : Text.NumberFault} :
      lookup "IMAP_PORT" = some raw → Unreadable 65535 raw.toList cause → Refused lookup (.invalidPort cause)
  | username {port : UInt16} : PortOf (lookup "IMAP_PORT") port → lookup "IMAP_USERNAME" = none →
      Refused lookup (.missing "IMAP_USERNAME")
  | password {port : UInt16} {username : String} : PortOf (lookup "IMAP_PORT") port →
      lookup "IMAP_USERNAME" = some username → lookup "IMAP_PASSWORD" = none →
      Refused lookup (.missing "IMAP_PASSWORD")

/-! ## The port -/

theorem readPort_of_portOf {raw : Option String} {port : UInt16} (h : PortOf raw port) : readPort raw = .ok port := by
  cases h with
  | absent => rfl
  | given hd =>
    have hbound : port.toNat ≤ 65535 := Nat.le_of_lt_succ port.toNat_lt
    rw [readPort, Text.readNumber_of_denotes hd hbound]
    exact congrArg Except.ok port.ofNat_toNat

theorem readPort_of_unreadable {raw : String} {cause : Text.NumberFault} (h : Unreadable 65535 raw.toList cause) :
    readPort (some raw) = .error (.invalidPort cause) := by
  rw [readPort, Text.readNumber_of_unreadable h]

/-- A variable gives a port, or there is a reason why it does not. -/
theorem port_cases (raw : Option String) :
    (∃ port, PortOf raw port) ∨ ∃ text cause, raw = some text ∧ Unreadable 65535 text.toList cause := by
  cases raw with
  | none => exact .inl ⟨_, .absent⟩
  | some text =>
    rcases Text.denotes_or_unreadable 65535 text.toList with ⟨n, hn, hd⟩ | ⟨cause, hcause⟩
    · have hport : (UInt16.ofNat n).toNat = n := UInt16.toNat_ofNat_of_lt' (Nat.lt_succ_of_le hn)
      exact .inl ⟨UInt16.ofNat n, .given (hport.symm ▸ hd)⟩
    · exact .inr ⟨text, cause, rfl, hcause⟩

theorem portOf_toString (port : UInt16) : PortOf (some (toString port.toNat)) port := by
  refine .given ?_
  rw [Nat.toString_eq_ofList_toDigits, String.toList_ofList]
  exact Text.denotes_digits port.toNat

/-! ## The whole of it -/

variable {lookup : String → Option String}

theorem ofLookup_of_givenBy {s : Settings} (h : GivenBy lookup s) : ofLookup lookup = .ok s := by
  obtain ⟨hhost, hport, husername, hpassword⟩ := h
  unfold ofLookup required
  rw [readPort_of_portOf hport, husername, hpassword, show (lookup "IMAP_HOST").getD defaultHost = s.host from hhost.symm]
  rfl

theorem ofLookup_of_refused {f : Fault} (h : Refused lookup f) : ofLookup lookup = .error f := by
  unfold ofLookup required
  cases h with
  | port hraw hcause =>
    rw [hraw, readPort_of_unreadable hcause]
    rfl
  | username hport hnone =>
    rw [readPort_of_portOf hport, hnone]
    rfl
  | password hport husername hnone =>
    rw [readPort_of_portOf hport, husername, hnone]
    rfl

/-- **A lookup gives settings, or is refused.** -/
theorem givenBy_or_refused (lookup : String → Option String) :
    (∃ s, GivenBy lookup s) ∨ ∃ f, Refused lookup f := by
  rcases port_cases (lookup "IMAP_PORT") with ⟨port, hport⟩ | ⟨raw, cause, hraw, hcause⟩
  · cases husername : lookup "IMAP_USERNAME" with
    | none => exact .inr ⟨_, .username hport husername⟩
    | some username =>
      cases hpassword : lookup "IMAP_PASSWORD" with
      | none => exact .inr ⟨_, .password hport husername hpassword⟩
      | some password => exact .inl ⟨⟨_, port, username, password⟩, rfl, hport, husername, hpassword⟩
  · exact .inr ⟨_, .port hraw hcause⟩

theorem ofLookup_eq_ok_iff {s : Settings} : ofLookup lookup = .ok s ↔ GivenBy lookup s := by
  refine ⟨fun h => ?_, ofLookup_of_givenBy⟩
  rcases givenBy_or_refused lookup with ⟨s', hs⟩ | ⟨f, hf⟩
  · rw [ofLookup_of_givenBy hs] at h
    cases h
    exact hs
  · rw [ofLookup_of_refused hf] at h
    cases h

theorem ofLookup_eq_error_iff {f : Fault} : ofLookup lookup = .error f ↔ Refused lookup f := by
  refine ⟨fun h => ?_, ofLookup_of_refused⟩
  rcases givenBy_or_refused lookup with ⟨s, hs⟩ | ⟨f', hf⟩
  · rw [ofLookup_of_givenBy hs] at h
    cases h
  · rw [ofLookup_of_refused hf] at h
    cases h
    exact hf

theorem exists_givenBy_iff : (∃ s, GivenBy lookup s) ↔
    (∃ port, PortOf (lookup "IMAP_PORT") port) ∧ (lookup "IMAP_USERNAME").isSome ∧ (lookup "IMAP_PASSWORD").isSome := by
  constructor
  · rintro ⟨s, -, hport, husername, hpassword⟩
    exact ⟨⟨_, hport⟩, by rw [husername]; rfl, by rw [hpassword]; rfl⟩
  · rintro ⟨⟨port, hport⟩, husername, hpassword⟩
    obtain ⟨username, husername⟩ := Option.isSome_iff_exists.1 husername
    obtain ⟨password, hpassword⟩ := Option.isSome_iff_exists.1 hpassword
    exact ⟨⟨_, port, username, password⟩, rfl, hport, husername, hpassword⟩

/-- **The words of a reason tell which it is.** -/
theorem eq_of_message {lookup' : String → Option String} {f g : Fault} (hf : Refused lookup f)
    (hg : Refused lookup' g) (h : f.message = g.message) : f = g := by
  have hcauses : ∀ cause cause' : Text.NumberFault,
      (Fault.invalidPort cause).message = (Fault.invalidPort cause').message → cause = cause' := by
    intro cause cause'
    cases cause <;> cases cause' <;> decide +kernel
  have hport : ∀ cause : Text.NumberFault, (Fault.invalidPort cause).message ≠ (Fault.missing "IMAP_USERNAME").message ∧
      (Fault.invalidPort cause).message ≠ (Fault.missing "IMAP_PASSWORD").message := by
    intro cause
    cases cause <;> decide +kernel
  cases hf with
  | port _ _ =>
    cases hg with
    | port _ _ => exact congrArg Fault.invalidPort (hcauses _ _ h)
    | username _ _ => exact absurd h (hport _).1
    | password _ _ _ => exact absurd h (hport _).2
  | username _ _ =>
    cases hg with
    | port _ _ => exact absurd h.symm (hport _).1
    | username _ _ => rfl
    | password _ _ _ => exact absurd h (by decide +kernel)
  | password _ _ _ =>
    cases hg with
    | port _ _ => exact absurd h.symm (hport _).2
    | username _ _ => exact absurd h (by decide +kernel)
    | password _ _ _ => rfl

/-- **What a lookup of variables comes to.**  It gives the settings that are in it where its port, if there is one, is a
number of 16 bits and the name and the password are there.  Otherwise it is refused for the first reason that there is,
in words that no other reason has.  And a port that was written in decimal is read back. -/
theorem ofLookup_accurate (lookup : String → Option String) :
    (∀ s, ofLookup lookup = .ok s ↔ GivenBy lookup s) ∧
    (∀ f, ofLookup lookup = .error f ↔ Refused lookup f) ∧
    ((∃ s, ofLookup lookup = .ok s) ↔ (∃ port, PortOf (lookup "IMAP_PORT") port) ∧
      (lookup "IMAP_USERNAME").isSome ∧ (lookup "IMAP_PASSWORD").isSome) ∧
    (∀ lookup' f g, ofLookup lookup = .error f → ofLookup lookup' = .error g → f.message = g.message → f = g) ∧
    ∀ port : UInt16, readPort (some (toString port.toNat)) = .ok port := by
  refine ⟨fun _ => ofLookup_eq_ok_iff, fun _ => ofLookup_eq_error_iff, ?_, ?_, fun port => ?_⟩
  · simp only [ofLookup_eq_ok_iff]
    exact exists_givenBy_iff
  · exact fun lookup' f g hf hg => eq_of_message (ofLookup_eq_error_iff.1 hf) (ofLookup_eq_error_iff.1 hg)
  · exact readPort_of_portOf (portOf_toString port)

end Settings
end Postbag
