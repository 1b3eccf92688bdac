import Postbag.Proofs.Failure.Unparsable
/-!
# Shows — what a tree of failures shows of a malformed ENVELOPE

The class of a failure is found along its chain, in two passes.  Here the same is told along the tree, with nothing but
the shape of each node (`Shows`): a box is what is inside; a failure over another one shows its own text and whatever
the other shows; and a device that carries a failure shows the text of it and what is behind it, but hides what it is.
The two agree on every tree, so a box makes no difference wherever it is put, and neither does what somebody else says
above a failure, if no known pattern stands in it.
-/
namespace Postbag
namespace Failure

/-- How a node is seen: whole, or by its text alone. -/
inductive Sight
  | whole | text
  deriving Repr, DecidableEq

/-- **Some link of a tree is of a kind, or has words in its text.**  Only a failure without a source is of a kind that
is asked for. -/
def Shows (kind : Failure → Prop) (words : String → Prop) : Sight → Failure → Prop
  | sight, boxed e => Shows kind words sight e
  | _, deviceCarrying e => Shows kind words .text e
  | _, e@(io s) | _, e@(select _ s) | _, e@(fetch s) | _, e@(collect s) | _, e@(release _ s) | _, e@(foreignOver _ s) =>
    words e.text ∨ Shows kind words .whole s
  | sight, e => sight = .whole ∧ kind e ∨ words e.text

/-- A response that could not be read. -/
def Unread (e : Failure) : Prop := ∃ seq code, e = unparsable seq code

/-- The library's own word for a malformed ENVELOPE. -/
def Sentinel (e : Failure) : Prop := ∃ uid, e = malformedEnvelope uid

/-- A known pattern stands in a text. -/
def Telling (t : String) : Prop := ∃ k ∈ knownPatterns, k.pattern.toList <:+: t.toList

/-- What a failure is taken for: its links hold no response that could not be read, and one of them tells of a malformed
ENVELOPE. -/
def ShowsMalformed (e : Failure) : Prop :=
  ¬ Shows Unread (fun _ => False) .whole e ∧ Shows Sentinel Telling .whole e

theorem matchesKnownPattern_iff {t : String} : matchesKnownPattern t = true ↔ Telling t := by
  simp only [matchesKnownPattern, Telling, List.any_eq_true, Text.occursIn_iff]

instance : DecidablePred Telling := fun _ => decidable_of_iff _ matchesKnownPattern_iff

/-! ## A node around a failure -/

/-- A node that a failure may stand in: a layer, or one of the two of a device. -/
inductive Frame
  | layer (l : Layer)
  | io
  | deviceCarrying
  deriving Repr, DecidableEq

def Frame.around : Frame → Failure → Failure
  | layer l, e => l.around e
  | io, e => .io e
  | deviceCarrying, e => .deviceCarrying e

/-- What is inside the boxes. -/
def unboxed : Failure → Failure
  | boxed e => e.unboxed
  | e => e

theorem isUnparsable_iff (e : Failure) : e.isUnparsable = true ↔ Unread e.unboxed := by
  induction e with
  | boxed e ih => exact ih
  | unparsable seq code => exact iff_of_true rfl ⟨seq, code, rfl⟩
  | _ => exact iff_of_false Bool.false_ne_true fun ⟨_, _, h⟩ => by cases h

theorem isSentinel_iff (e : Failure) : e.isSentinel = true ↔ Sentinel e.unboxed := by
  induction e with
  | boxed e ih => exact ih
  | malformedEnvelope uid => exact iff_of_true rfl ⟨uid, rfl⟩
  | _ => exact iff_of_false Bool.false_ne_true fun ⟨_, h⟩ => by cases h

theorem not_unread_around (f : Frame) (e : Failure) : ¬ Unread (f.around e) := by
  rintro ⟨seq, code, h⟩
  cases f with
  | layer l => cases l <;> cases h
  | _ => cases h

theorem not_sentinel_around (f : Frame) (e : Failure) : ¬ Sentinel (f.around e) := by
  rintro ⟨uid, h⟩
  cases f with
  | layer l => cases l <;> cases h
  | _ => cases h

/-! ## The chain of a tree -/

section Chain

variable {kind : Failure → Prop} {words : String → Prop}

/-- What a link shows by itself. -/
def LinkShows (kind : Failure → Prop) (words : String → Prop) (sight : Sight) (e : Failure) : Prop :=
  sight = .whole ∧ kind e.unboxed ∨ words e.text

/-- A node of which the chain goes on with the whole chain of its source. -/
theorem over_shows_iff (hk : ∀ f e, ¬ kind (Frame.around f e)) (f : Frame) {s : Failure} (sight : Sight)
    (hb : (f.around s).unboxed = f.around s) (ht : (f.around s).chain.tail = s.chain)
    (ih : Shows kind words .whole s ↔
      LinkShows kind words .whole s ∨ ∃ l ∈ s.chain.tail, LinkShows kind words .whole l) :
    words (f.around s).text ∨ Shows kind words .whole s ↔
      LinkShows kind words sight (f.around s) ∨ ∃ l ∈ (f.around s).chain.tail, LinkShows kind words .whole l := by
  have hlink : LinkShows kind words sight (f.around s) ↔ words (f.around s).text := by
    rw [LinkShows, hb]
    exact or_iff_right fun h => hk f s h.2
  rw [hlink, ht, ih, chain_eq s, List.tail_cons]
  simp only [List.mem_cons, exists_eq_or_imp]

/-- **A tree shows what its links show**: the first as it is seen, the others whole. -/
theorem shows_iff (hk : ∀ f e, ¬ kind (Frame.around f e)) (sight : Sight) (e : Failure) :
    Shows kind words sight e ↔
      LinkShows kind words sight e ∨ ∃ l ∈ e.chain.tail, LinkShows kind words .whole l := by
  induction e generalizing sight with
  | io s ih => exact over_shows_iff hk .io sight rfl rfl (ih .whole)
  | select mailbox s ih => exact over_shows_iff hk (.layer (.select mailbox)) sight rfl rfl (ih .whole)
  | fetch s ih => exact over_shows_iff hk (.layer .fetch) sight rfl rfl (ih .whole)
  | collect s ih => exact over_shows_iff hk (.layer .collect) sight rfl rfl (ih .whole)
  | release malformed s ih => exact over_shows_iff hk (.layer (.release malformed)) sight rfl rfl (ih .whole)
  | foreignOver text s ih => exact over_shows_iff hk (.layer (.foreign text)) sight rfl rfl (ih .whole)
  | boxed s ih => exact ih sight
  | deviceCarrying s ih =>
    -- the chain behind a device is that behind what it carries, of which the text is left
    have hlink : LinkShows kind words sight (deviceCarrying s) ↔ LinkShows kind words .text s := by
      rw [LinkShows, LinkShows]
      exact or_congr_left (iff_of_false (fun h => hk .deviceCarrying s h.2) fun h => by cases h.1)
    rw [hlink]
    exact ih .text
  | _ => simp [Shows, LinkShows, unboxed, chain]

theorem shows_whole_iff (hk : ∀ f e, ¬ kind (Frame.around f e)) (e : Failure) :
    Shows kind words .whole e ↔ ∃ l ∈ e.chain, LinkShows kind words .whole l := by
  rw [shows_iff hk, chain_eq e, List.tail_cons]
  simp only [List.mem_cons, exists_eq_or_imp]

end Chain

theorem any_isUnparsable_iff (e : Failure) :
    e.chain.any isUnparsable = true ↔ Shows Unread (fun _ => False) .whole e := by
  rw [List.any_eq_true, shows_whole_iff not_unread_around]
  simp [LinkShows, isUnparsable_iff]

theorem any_tells_iff (e : Failure) :
    (e.chain.any fun l => l.isSentinel || matchesKnownPattern l.text) = true ↔ Shows Sentinel Telling .whole e := by
  rw [List.any_eq_true, shows_whole_iff not_sentinel_around]
  simp [LinkShows, isSentinel_iff, matchesKnownPattern_iff]

/-- **What is found along the chain is what the tree shows.** -/
theorem isMalformed_iff (e : Failure) : e.isMalformed = true ↔ ShowsMalformed e := by
  rw [isMalformed, Bool.and_eq_true, Bool.not_eq_true', ← Bool.not_eq_true, any_isUnparsable_iff, any_tells_iff]
  rfl

/-! ## What makes no difference -/

/-- **Two failures of which every view is the same.** -/
structure LooksLike (e e' : Failure) : Prop where
  text : e.text = e'.text
  shows : ∀ kind words sight, Shows kind words sight e ↔ Shows kind words sight e'

theorem text_around {e e' : Failure} (h : e.text = e'.text) (f : Frame) : (f.around e).text = (f.around e').text := by
  cases f with
  | layer l =>
    cases l with
    | select mailbox => exact congrArg ("selecting mailbox " ++ mailbox ++ " failed: " ++ ·) h
    | fetch => exact congrArg ("issuing fetch command failed: " ++ ·) h
    | collect => exact congrArg ("collecting message failed: " ++ ·) h
    | release malformed =>
      exact congrArg ("releasing fetch command failed" ++ malformedNote malformed ++ ": " ++ ·) h
    | boxed => exact h
    | foreign text => rfl
  | io => exact congrArg ("IO error: " ++ ·) h
  | deviceCarrying => exact h

/-- **What looks like a failure looks like it inside any node.** -/
theorem LooksLike.around {e e' : Failure} (h : LooksLike e e') (f : Frame) : LooksLike (f.around e) (f.around e') where
  text := text_around h.text f
  shows := fun kind words sight => by
    have hover : words (f.around e).text ∨ Shows kind words .whole e ↔
        words (f.around e').text ∨ Shows kind words .whole e' := by
      rw [text_around h.text f, h.shows kind words .whole]
    cases f with
    | layer l =>
      cases l with
      | boxed => exact h.shows kind words sight
      | _ => exact hover
    | io => exact hover
    | deviceCarrying => exact h.shows kind words .text

end Failure
end Postbag
