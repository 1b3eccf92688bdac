import Postbag.Failure.Class
import Postbag.Proofs.Text.Numbers
/-!
# Classification — the class of the failures of a record

Each known pattern holds a `v` or a `w`.  A text without either matches none of them, whatever number stands in it, so
the failures that this library words for a record are of the class that their names tell: a missing ENVELOPE can be
passed over, and nothing else can.
-/
namespace Postbag
namespace Failure

theorem isDigit_of_mem_number {n : UInt32} {c : Char} (h : c ∈ (number n).toList) : c.isDigit := by
  rw [number, Nat.toString_eq_ofList_toDigits, String.toList_ofList] at h
  exact Text.isDigit_of_mem_digits h

/-- **A text without `v` and `w` matches no known pattern.** -/
theorem matchesKnownPattern_eq_false {t : String} (hv : 'v' ∉ t.toList) (hw : 'w' ∉ t.toList) :
    matchesKnownPattern t = false := by
  rw [matchesKnownPattern, List.any_eq_false]
  intro k hk hm
  have hsub := (Text.occursIn_iff.1 hm).subset
  simp only [knownPatterns, List.mem_cons, List.not_mem_nil, or_false] at hk
  rcases hk with rfl | rfl
  · exact hv (hsub (by decide))
  · exact hw (hsub (by decide))

theorem not_mem_numbered {a b : String} {c : Char} (n : UInt32) (hc : c.isDigit = false) (ha : c ∉ a.toList)
    (hb : c ∉ b.toList) : c ∉ (a ++ number n ++ b).toList := by
  rw [String.toList_append, String.toList_append, List.mem_append, List.mem_append]
  rintro ((h | h) | h)
  · exact ha h
  · rw [isDigit_of_mem_number h] at hc
    cases hc
  · exact hb h

/-- A failure that wraps nothing and is no word of the library's own is of the class that its text tells. -/
theorem isMalformed_of_chain {e : Failure} (hc : e.chain = [e]) (hu : e.isUnparsable = false)
    (hs : e.isSentinel = false) : e.isMalformed = matchesKnownPattern e.text := by
  simp [isMalformed, hc, hu, hs]

@[simp] theorem isMalformed_malformedEnvelope (uid : UInt32) : (malformedEnvelope uid).isMalformed = true := rfl

@[simp] theorem isMalformed_invalidUid : invalidUid.isMalformed = false := by
  rw [isMalformed_of_chain rfl rfl rfl]
  exact matchesKnownPattern_eq_false (by decide) (by decide)

@[simp] theorem isMalformed_missingBody (uid : UInt32) : (missingBody uid).isMalformed = false := by
  rw [isMalformed_of_chain rfl rfl rfl]
  exact matchesKnownPattern_eq_false (not_mem_numbered uid (by decide) (by decide) (by decide))
    (not_mem_numbered uid (by decide) (by decide) (by decide))

@[simp] theorem isMalformed_emptyBody (uid : UInt32) : (emptyBody uid).isMalformed = false := by
  rw [isMalformed_of_chain rfl rfl rfl]
  exact matchesKnownPattern_eq_false (not_mem_numbered uid (by decide) (by decide) (by decide))
    (not_mem_numbered uid (by decide) (by decide) (by decide))

end Failure
end Postbag
