import Postbag.Proofs.Failure.Shows
/-!
# Rendering — what the text of a failure keeps of the links behind it

A failure of the library's over another one says some words of its own and then what the other says, and a box says
what is inside.  So the text of each link that is reached through such nodes only ends the text of the failure itself,
behind the words of the nodes on the way to it.  Somebody else's failure says what it likes, and need not mention what
it goes back to.  Where none stands in the chain, the text of the failure holds whatever words any of its links holds.
-/
namespace Postbag
namespace Failure

/-- Whether a failure tells its source: one of the library's does, in a box or carried by a device as well as in the
open; somebody else's need not. -/
def tellsSource : Failure → Bool
  | io _ | select _ _ | fetch _ | collect _ | release _ _ => true
  | deviceCarrying e | boxed e => e.tellsSource
  | _ => false

/-- What a failure says before it comes to its source. -/
def ownWords : Failure → String
  | io _ => "IO error: "
  | select mailbox _ => "selecting mailbox " ++ mailbox ++ " failed: "
  | fetch _ => "issuing fetch command failed: "
  | collect _ => "collecting message failed: "
  | release malformed _ => "releasing fetch command failed" ++ malformedNote malformed ++ ": "
  | deviceCarrying e | boxed e => e.ownWords
  | e => e.text

/-- **One step along the chain**: own words, then the text of the source. -/
theorem text_of_source {e s : Failure} (he : e.tellsSource = true) (hs : e.source? = some s) :
    e.text = e.ownWords ++ s.text := by
  induction e with
  | boxed e ih => exact ih he hs
  | deviceCarrying e ih => exact ih he hs
  | io | select | fetch | collect | release =>
    cases hs
    rfl
  | _ => cases he

/-- The links before a cut of the chain say their own words one after another, and then the link at the cut speaks. -/
theorem text_of_cut {before behind : List Failure} {e link : Failure} (hcut : e.chain = before ++ link :: behind)
    (hbefore : ∀ l ∈ before, l.tellsSource = true) : e.text = String.join (before.map ownWords) ++ link.text := by
  induction before generalizing e with
  | nil =>
    rw [chain_eq] at hcut
    obtain ⟨rfl, -⟩ := List.cons.inj hcut
    exact String.empty_append.symm
  | cons l before ih =>
    rw [chain_eq] at hcut
    obtain ⟨rfl, hrest⟩ := List.cons.inj hcut
    cases hs : e.source? with
    | none =>
      -- the chain would end here, but the cut is still behind
      rw [hs] at hrest
      exact absurd hrest (List.ne_nil_of_mem (List.mem_append_right before List.mem_cons_self)).symm
    | some s =>
      rw [hs] at hrest
      obtain ⟨he, hbefore⟩ := List.forall_mem_cons.1 hbefore
      rw [text_of_source he hs, ih hrest hbefore, List.map_cons, String.join_cons, String.append_assoc]

theorem suffix_text_of_cut {before behind : List Failure} {e link : Failure} (hcut : e.chain = before ++ link :: behind)
    (hbefore : ∀ l ∈ before, l.tellsSource = true) : link.text.toList <:+ e.text.toList := by
  rw [text_of_cut hcut hbefore, String.toList_append]
  exact List.suffix_append _ _

theorem suffix_text_of_mem {e link : Failure} (hall : ∀ l ∈ e.chain.dropLast, l.tellsSource = true)
    (hlink : link ∈ e.chain) : link.text.toList <:+ e.text.toList := by
  obtain ⟨before, behind, hcut⟩ := List.append_of_mem hlink
  refine suffix_text_of_cut hcut fun l hl => hall l ?_
  rw [hcut, List.dropLast_append_cons]
  exact List.mem_append_left _ hl

/-- **No context is lost in the text of a failure.**  A link that is reached through nodes which tell their source ends
the text, and nothing but the own words of these nodes stands before it.  So where every link is reached like this, a
known pattern stands in the text of some link just where it stands in the text of the failure. -/
theorem text_keeps_links (e : Failure) :
    (∀ before link behind, e.chain = before ++ link :: behind → (∀ l ∈ before, l.tellsSource = true) →
      link.text.toList <:+ e.text.toList ∧ e.text = String.join (before.map ownWords) ++ link.text) ∧
    ((∀ l ∈ e.chain.dropLast, l.tellsSource = true) →
      ((∃ link ∈ e.chain, Telling link.text) ↔ Telling e.text)) := by
  refine ⟨fun before link behind hcut hbefore => ?_, fun hall => ⟨?_, fun h => ?_⟩⟩
  · exact ⟨suffix_text_of_cut hcut hbefore, text_of_cut hcut hbefore⟩
  · rintro ⟨link, hlink, k, hk, hinfix⟩
    exact ⟨k, hk, hinfix.trans (suffix_text_of_mem hall hlink).isInfix⟩
  · rw [chain_eq]
    exact ⟨e, List.mem_cons_self, h⟩

/-- A release that failed for what a device said, with the device's failure in a box, told by a failed selection: the
pattern in the device's words stands in the text of the selection. -/
theorem text_keeps_links_of_boxed_device :
    let link := device "in envelope: unexpected atom"
    let before := [select "INBOX" (release true (boxed (io link))), release true (boxed (io link)), boxed (io link)]
    let e := select "INBOX" (release true (boxed (io link)))
    e.chain = before ++ link :: [] ∧ (∀ l ∈ before, l.tellsSource = true) ∧
      (link.text.toList <:+ e.text.toList ∧ e.text = String.join (before.map ownWords) ++ link.text) ∧
      (∀ l ∈ e.chain.dropLast, l.tellsSource = true) ∧
      ((∃ link ∈ e.chain, Telling link.text) ↔ Telling e.text) ∧ Telling e.text := by
  intro link before e
  have hcut : e.chain = before ++ link :: [] := rfl
  have hbefore : ∀ l ∈ before, l.tellsSource = true := by decide
  have hall : ∀ l ∈ e.chain.dropLast, l.tellsSource = true := by decide
  have hiff : (∃ link ∈ e.chain, Telling link.text) ↔ Telling e.text := (text_keeps_links e).2 hall
  have hmem : link ∈ e.chain := hcut ▸ List.mem_append_right before List.mem_cons_self
  have htelling : Telling link.text := by decide
  exact ⟨hcut, hbefore, (text_keeps_links e).1 before link [] hcut hbefore, hall, hiff, hiff.1 ⟨link, hmem, htelling⟩⟩

/-- Somebody else's failure, carried by a device, leaves out what it goes back to. -/
example : let e := io (deviceCarrying (foreignOver "request failed" (imap "in envelope: unexpected atom")))
    (∃ link ∈ e.chain, Telling link.text) ∧ ¬ Telling e.text := by
  decide

end Failure
end Postbag
