/-!
# Search — where one text stands in another

Every question here is about the *first* occurrence: what stands before it, what stands after it, and whether there is
one at all.  The elements may be characters or octets; only their equality is used.
-/
namespace Postbag
namespace Text

variable {α : Type} [DecidableEq α]

/-- What follows `pat` in a text that starts with it. -/
def after? : (pat s : List α) → Option (List α)
  | [], s => some s
  | _ :: _, [] => none
  | p :: pat, c :: s => if p = c then after? pat s else none

def startsWith (pat s : List α) : Bool := (after? pat s).isSome

def occursIn (pat : List α) : List α → Bool
  | [] => pat.isEmpty
  | c :: s => startsWith pat (c :: s) || occursIn pat s

/-- **The first cut**: what stands before and after the first occurrence of `pat`. -/
def cut? (pat : List α) : List α → Option (List α × List α)
  | [] => if pat.isEmpty then some ([], []) else none
  | c :: s =>
    match after? pat (c :: s) with
    | some rest => some ([], rest)
    | none => (cut? pat s).map fun p => (c :: p.1, p.2)

theorem after?_eq_some_iff {pat s rest : List α} : after? pat s = some rest ↔ s = pat ++ rest := by
  induction pat generalizing s with
  | nil => simp [after?, eq_comm]
  | cons p pat ih =>
    cases s with
    | nil => simp [after?]
    | cons c s =>
      by_cases h : p = c
      · subst h; simp [after?, ih]
      · simp [after?, h, Ne.symm h]

theorem startsWith_iff {pat s : List α} : startsWith pat s = true ↔ ∃ rest, s = pat ++ rest := by
  simp [startsWith, Option.isSome_iff_exists, after?_eq_some_iff]

theorem occursIn_iff {pat s : List α} : occursIn pat s = true ↔ pat <:+: s := by
  induction s with
  | nil => cases pat <;> simp [occursIn]
  | cons c s ih =>
    rw [occursIn, Bool.or_eq_true, startsWith_iff, ih, List.infix_cons_iff]
    exact or_congr_left ⟨fun ⟨rest, h⟩ => ⟨rest, h.symm⟩, fun ⟨rest, h⟩ => ⟨rest, h.symm⟩⟩

theorem cut?_eq_some {pat s a b : List α} (h : cut? pat s = some (a, b)) : s = a ++ pat ++ b := by
  induction s generalizing a b with
  | nil =>
    cases pat with
    | nil => simp [cut?] at h; simp [h]
    | cons p pat => simp [cut?] at h
  | cons c s ih =>
    simp only [cut?] at h
    split at h
    · rename_i rest hr
      simp only [Option.some.injEq, Prod.mk.injEq] at h
      obtain ⟨rfl, rfl⟩ := h
      simpa using after?_eq_some_iff.1 hr
    · obtain ⟨⟨a', b'⟩, hc, hp⟩ := Option.map_eq_some_iff.1 h
      simp only [Prod.mk.injEq] at hp
      obtain ⟨rfl, rfl⟩ := hp
      simp [ih hc]

theorem isSome_cut? (pat s : List α) : (cut? pat s).isSome = occursIn pat s := by
  induction s with
  | nil => cases pat <;> rfl
  | cons c s ih =>
    rw [cut?, occursIn, startsWith, ← ih]
    cases after? pat (c :: s) <;> simp

/-- **Where the first cut is**: behind `p`, if an element of the pattern that stands nowhere before it in the pattern
stands nowhere in `p` either. -/
theorem cut?_append {u v p : List α} {c : α} (hu : c ∉ u) (hp : c ∉ p) (q : List α) :
    cut? (u ++ c :: v) (p ++ (u ++ c :: v ++ q)) = some (p, q) := by
  induction p with
  | nil =>
    have hfound : after? (u ++ c :: v) (u ++ c :: v ++ q) = some q := after?_eq_some_iff.2 rfl
    cases hs : u ++ c :: v ++ q with
    | nil => simp at hs
    | cons x s =>
      rw [hs] at hfound
      rw [List.nil_append, cut?, hfound]
  | cons x p ih =>
    have hnone : after? (u ++ c :: v) (x :: (p ++ (u ++ c :: v ++ q))) = none := by
      rw [Option.eq_none_iff_forall_ne_some]
      intro rest h
      -- The first `c` would stand at two places.
      have hfirst := congrArg (List.takeWhile fun y => !decide (y = c)) (after?_eq_some_iff.1 h)
      have hback : ∀ y ∈ u, (!decide (y = c)) = true := by
        intro y hy
        have hne : y ≠ c := fun h => hu (h ▸ hy)
        simpa using hne
      have hfront : ∀ y ∈ x :: p ++ u, (!decide (y = c)) = true := by
        intro y hy
        rcases List.mem_append.1 hy with hy | hy
        · have hne : y ≠ c := fun h => hp (h ▸ hy)
          simpa using hne
        · exact hback y hy
      have hleft : x :: (p ++ (u ++ c :: v ++ q)) = (x :: p ++ u) ++ c :: (v ++ q) := by simp
      have hright : u ++ c :: v ++ rest = u ++ c :: (v ++ rest) := by simp
      rw [hleft, hright, List.takeWhile_append_of_pos hfront, List.takeWhile_append_of_pos hback,
        List.takeWhile_cons_of_neg (by simp), List.takeWhile_cons_of_neg (by simp)] at hfirst
      have hlen := congrArg List.length hfirst
      simp at hlen
      omega
    rw [List.cons_append, cut?, hnone, ih fun h => hp (List.mem_cons_of_mem _ h)]
    rfl

end Text
end Postbag
