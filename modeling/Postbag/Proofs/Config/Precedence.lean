import Postbag.Config.Dotenv
/-!
# Precedence — variables of the environment go before those of the file

A variable that the environment sets keeps its value, whatever the file holds.  Any other variable has the value of the
first assignment to it, among those before the first malformed line.  Whether a line is malformed, and which variable it
assigns, can be told from the line alone; only the value takes other variables into account.  So a file is cut at its
first malformed line once and for all, and it counts as much as the part before the cut.
-/
namespace Postbag

namespace Environment

/-- A name of a variable, as files and programs write it. -/
def IsPlain (name : String) : Prop := '=' ∉ name.toList

instance (name : String) : Decidable (IsPlain name) := inferInstanceAs (Decidable ('=' ∉ name.toList))

theorem value?_append (e vs : Environment) (name : String) :
    value? (e ++ vs) name = (e.value? name).or (value? vs name) := List.findSome?_append

theorem after?_entry {v : String × String} {name : String} (hv : IsPlain v.1) (hname : IsPlain name) :
    Text.after? (name.toList ++ ['=']) (entry v) = if name = v.1 then some v.2.toList else none := by
  split
  · rename_i h
    rw [Text.after?_eq_some_iff, h, entry, List.append_assoc, List.singleton_append]
  · rename_i h
    rw [Option.eq_none_iff_forall_ne_some]
    intro rest hrest
    have hsame : v.1.toList ++ '=' :: v.2.toList = name.toList ++ '=' :: rest := by
      simpa [entry] using Text.after?_eq_some_iff.1 hrest
    -- both texts are cut at their first equals sign
    have hfront := congrArg (List.takeWhile (· != '=')) hsame
    have hplain : ∀ {text : String}, IsPlain text → ∀ c ∈ text.toList, (c != '=') = true := fun ht c hc => by
      have hne : c ≠ '=' := fun he => ht (he ▸ hc)
      simpa using hne
    rw [List.takeWhile_append_of_pos (hplain hv), List.takeWhile_append_of_pos (hplain hname),
      List.takeWhile_cons_of_neg (by simp), List.takeWhile_cons_of_neg (by simp), List.append_nil,
      List.append_nil] at hfront
    exact h (String.toList_inj.1 hfront.symm)

/-- Among variables with plain names, the first of a name gives its value. -/
theorem value?_eq_lookup {vs : Environment} {name : String} (hvs : ∀ v ∈ vs, IsPlain v.1) (hname : IsPlain name) :
    value? vs name = vs.lookup name := by
  induction vs with
  | nil => rfl
  | cons v vs ih =>
    obtain ⟨hv, hvs⟩ := List.forall_mem_cons.1 hvs
    have hrest : vs.findSome? (fun v => (Text.after? (name.toList ++ ['=']) (entry v)).map String.ofList) =
        vs.lookup name := ih hvs
    rw [value?, List.findSome?_cons, after?_entry hv hname, List.lookup_cons]
    by_cases h : name = v.1
    · simp [h]
    · simp [beq_eq_false_iff_ne.2 h, if_neg h, hrest]

theorem value?_setNew {v : String × String} {name : String} (hv : IsPlain v.1) (hname : IsPlain name)
    (e : Environment) : (e.setNew v).value? name = (e.value? name).or (List.lookup name [v]) := by
  have hone : value? [v] name = List.lookup name [v] := value?_eq_lookup (by simpa using hv) hname
  unfold setNew
  split
  · rename_i hset
    by_cases h : name = v.1
    · obtain ⟨value, hvalue⟩ := Option.isSome_iff_exists.1 hset
      rw [h, hvalue, Option.some_or]
    · rw [← hone, value?, value?, List.findSome?_singleton, after?_entry hv hname, if_neg h, Option.map_none,
        Option.or_none]
  · rw [value?_append, hone]

/-- **Variables that are set where nothing is set yet** are found behind those that were there. -/
theorem value?_setAllNew {vs : List (String × String)} {name : String} (hvs : ∀ v ∈ vs, IsPlain v.1)
    (hname : IsPlain name) (e : Environment) :
    (e.setAllNew vs).value? name = (e.value? name).or (vs.lookup name) := by
  induction vs generalizing e with
  | nil => exact (Option.or_none).symm
  | cons v vs ih =>
    obtain ⟨hv, hvs⟩ := List.forall_mem_cons.1 hvs
    have hsplit : (v :: vs).lookup name = (List.lookup name [v]).or (vs.lookup name) :=
      @List.lookup_append _ _ _ [v] vs name
    show ((e.setNew v).setAllNew vs).value? name = _
    rw [ih hvs, value?_setNew hv hname, hsplit, Option.or_assoc]

end Environment

namespace Dotenv

/-! ## What a line says by itself -/

/-- What a line says, as far as other variables do not matter. -/
inductive Form
  | nothing
  | assigns (key : String)
  | malformed
  deriving Repr, DecidableEq

def Statement.form : Statement → Form
  | .nothing => .nothing
  | .assignment key _ => .assigns key
  | .malformed => .malformed

def formOf (line : List Char) : Form := (statement (fun _ => []) line).form

theorem isSome_readValue (lookup lookup' : List Char → List Char) (mode : Mode) (weak : Bool) (s : List Char) :
    (readValue lookup mode weak s).isSome = (readValue lookup' mode weak s).isSome := by
  fun_induction readValue lookup mode weak s
  -- a variable in a value is the one place where they are looked at, and any text will do there
  case case16 n weak c s hname hbrace hdollar ih =>
    rw [readValue, if_neg hname, if_neg hbrace, if_neg hdollar, Option.isSome_map, Option.isSome_map, ih]
  all_goals simp_all [readValue]

theorem form_statement (lookup : List Char → List Char) (line : List Char) :
    (statement lookup line).form = formOf line := by
  unfold formOf statement
  dsimp only
  split
  · rfl
  · split
    · rfl
    · rename_i key s _
      split
      · rfl
      · have hvalue := isSome_readValue lookup (fun _ => []) .plain false (Text.trimStart s)
        cases hread : readValue lookup .plain false (Text.trimStart s) with
        | none =>
          rw [hread, Option.isSome_none, eq_comm, Option.isSome_eq_false_iff, Option.isNone_iff_eq_none] at hvalue
          rw [hvalue]
        | some value =>
          rw [hread, Option.isSome_some, eq_comm, Option.isSome_iff_exists] at hvalue
          obtain ⟨value', hvalue⟩ := hvalue
          rw [hvalue]
          rfl

theorem equals_not_mem_key {s key rest : List Char} (h : key? s = some (key, rest)) : '=' ∉ key := by
  intro hmem
  unfold key? at h
  split at h
  · split at h
    · cases h
      exact absurd (List.all_eq_true.1 List.all_takeWhile _ hmem) (by decide)
    · cases h
  · cases h

theorem equals_not_mem_assigned {s key rest : List Char} (h : assigned? s = some (key, rest)) : '=' ∉ key := by
  unfold assigned? at h
  obtain ⟨⟨first, s'⟩, hfirst, h⟩ := Option.bind_eq_some_iff.1 h
  dsimp only at h
  split at h
  · cases h
    exact equals_not_mem_key hfirst
  · -- behind the word `export`
    split at h
    · obtain ⟨⟨second, s''⟩, hsecond, h⟩ := Option.bind_eq_some_iff.1 h
      obtain ⟨_, _, h⟩ := Option.bind_eq_some_iff.1 h
      cases h
      exact equals_not_mem_key hsecond
    · cases h

theorem isPlain_of_assignment {lookup : List Char → List Char} {line : List Char} {key value : String}
    (h : statement lookup line = .assignment key value) : Environment.IsPlain key := by
  unfold statement at h
  dsimp only at h
  split at h
  · cases h
  · split at h
    · cases h
    · rename_i name s hassigned
      have hplain : Environment.IsPlain (String.ofList name) := by
        rw [Environment.IsPlain, String.toList_ofList]
        exact equals_not_mem_assigned hassigned
      split at h
      · cases h
        exact hplain
      · split at h
        · cases h
          exact hplain
        · cases h

/-! ## The lines before the first malformed one -/

/-- A line that ends the reading. -/
def LogicalLine.IsBad : LogicalLine → Prop
  | .text s => formOf s = .malformed
  | .unfinished => True

/-- The values of variables, for the values of further ones. -/
def known (environment : Environment) (made : List (String × String)) (name : List Char) : List Char :=
  ((current environment made (String.ofList name)).getD "").toList

/-- **The assignments of lines that are in order**, one after the other, behind those made.  A value is read with the
variables as they are by then. -/
inductive Assigns (environment : Environment) :
    (made : List (String × String)) → List (List Char) → (all : List (String × String)) → Prop
  | done {made} : Assigns environment made [] made
  | nothing {made s ls all} : formOf s = .nothing → Assigns environment made ls all →
      Assigns environment made (s :: ls) all
  | assignment {made s ls all key value} : statement (known environment made) s = .assignment key value →
      Assigns environment (made ++ [(key, value)]) ls all → Assigns environment made (s :: ls) all

variable {environment : Environment} {made all : List (String × String)}

theorem Assigns.isPlain {lines : List (List Char)} (h : Assigns environment made lines all)
    (hmade : ∀ v ∈ made, Environment.IsPlain v.1) : ∀ v ∈ all, Environment.IsPlain v.1 := by
  induction h with
  | done => exact hmade
  | nothing _ _ ih => exact ih hmade
  | assignment hs _ ih =>
    refine ih fun v hv => ?_
    rcases List.mem_append.1 hv with hv | hv
    · exact hmade v hv
    · rw [List.mem_singleton.1 hv]
      exact isPlain_of_assignment hs

theorem form_of_assignment {s : List Char} {key value : String}
    (h : statement (known environment made) s = .assignment key value) : formOf s = .assigns key := by
  rw [← form_statement (known environment made) s, h]
  rfl

theorem Assigns.unique {lines : List (List Char)} {all' : List (String × String)}
    (h : Assigns environment made lines all) (h' : Assigns environment made lines all') : all = all' := by
  induction h with
  | done =>
    cases h'
    rfl
  | nothing hs _ ih =>
    cases h' with
    | nothing _ h' => exact ih h'
    | assignment hs' _ => cases hs.symm.trans (form_of_assignment hs')
  | assignment hs _ ih =>
    cases h' with
    | nothing hs' _ => cases hs'.symm.trans (form_of_assignment hs)
    | assignment hs' h' =>
      cases hs.symm.trans hs'
      exact ih h'

theorem assign_cons (environment : Environment) (made : List (String × String)) (s : List Char)
    (ls : List LogicalLine) :
    assign environment made (.text s :: ls) =
      match statement (known environment made) s with
      | .nothing => assign environment made ls
      | .assignment key value => assign environment (made ++ [(key, value)]) ls
      | .malformed => made := rfl

theorem assign_of_isBad {line : LogicalLine} (h : line.IsBad) (ls : List LogicalLine) :
    assign environment made (line :: ls) = made := by
  cases line with
  | unfinished => rfl
  | text s =>
    have hform := (form_statement (known environment made) s).trans h
    rw [assign_cons]
    cases hs : statement (known environment made) s with
    | malformed => rfl
    | nothing =>
      rw [hs] at hform
      cases hform
    | assignment key value =>
      rw [hs] at hform
      cases hform

/-- **What lines in order assign**, up to a bad line or to the end. -/
theorem assigns_assign {lines : List (List Char)} {rest : List LogicalLine} (environment : Environment)
    (made : List (String × String)) (hlines : ∀ s ∈ lines, formOf s ≠ .malformed)
    (hrest : ∀ line ls, rest = line :: ls → line.IsBad) :
    Assigns environment made lines (assign environment made (lines.map .text ++ rest)) := by
  induction lines generalizing made with
  | nil =>
    cases rest with
    | nil => exact .done
    | cons line ls =>
      show Assigns environment made [] (assign environment made (line :: ls))
      rw [assign_of_isBad (hrest line ls rfl)]
      exact .done
  | cons s lines ih =>
    obtain ⟨hs, hlines⟩ := List.forall_mem_cons.1 hlines
    have hform := form_statement (known environment made) s
    rw [List.map_cons, List.cons_append, assign_cons]
    cases hstatement : statement (known environment made) s with
    | nothing =>
      rw [hstatement] at hform
      exact .nothing hform.symm (ih made hlines)
    | assignment key value => exact .assignment hstatement (ih _ hlines)
    | malformed =>
      rw [hstatement] at hform
      exact absurd hform.symm hs

/-! ## Where a file is cut -/

/-- A physical line ends a line, or the line goes on behind it. -/
theorem logicalLines_cons (held : List Char) (p : Position) (l : List Char) :
    (∃ s, ∀ ls, logicalLines held p (l :: ls) = .text s :: logicalLines [] .plain ls) ∨
      ∃ q, q ≠ .plain ∧ ∀ ls, logicalLines held p (l :: ls) = logicalLines (held ++ l) q ls := by
  by_cases hcomment : (Text.trimStart (held ++ l)).head? = some '#'
  · exact .inl ⟨[], fun ls => by rw [logicalLines, if_pos hcomment]⟩
  · cases hscan : scan p l with
    | mk s q =>
      cases q with
      | none => exact .inl ⟨held ++ s, fun ls => by rw [logicalLines, if_neg hcomment, hscan]⟩
      | some q =>
        by_cases hq : q = .plain
        · exact .inl ⟨chomp (held ++ l), fun ls => by rw [logicalLines, if_neg hcomment, hscan, hq]⟩
        · refine .inr ⟨q, hq, fun ls => ?_⟩
          rw [logicalLines, if_neg hcomment, hscan]
          cases q with
          | plain => exact absurd rfl hq
          | _ => rfl

/-- **The first line** is made of the physical lines at the front, whatever follows them, unless the file ends inside
it. -/
theorem logicalLines_cases (held : List Char) (p : Position) (ls : List (List Char)) (h : ls = [] → p ≠ .plain) :
    logicalLines held p ls = [.unfinished] ∨ ∃ s front rest, ls = front ++ rest ∧ front ≠ [] ∧
      ∀ rest', logicalLines held p (front ++ rest') = .text s :: logicalLines [] .plain rest' := by
  induction ls generalizing held p with
  | nil => exact .inl (if_neg (h rfl))
  | cons l ls ih =>
    rcases logicalLines_cons held p l with ⟨s, hs⟩ | ⟨q, hq, hgoes⟩
    · exact .inr ⟨s, [l], ls, rfl, List.cons_ne_nil _ _, hs⟩
    · rw [hgoes]
      rcases ih (held ++ l) q (fun _ => hq) with hend | ⟨s, front, rest, hls, -, hs⟩
      · exact .inl hend
      · refine .inr ⟨s, l :: front, rest, by rw [hls, List.cons_append], List.cons_ne_nil _ _, fun rest' => ?_⟩
        rw [List.cons_append, hgoes, hs]

/-- Physical lines that make lines in order, whatever follows them, and others that begin with a bad line. -/
structure CutLines (front rest lines : List (List Char)) : Prop where
  inOrder : ∀ s ∈ lines, formOf s ≠ .malformed
  front : ∀ rest', logicalLines [] .plain (front ++ rest') = lines.map .text ++ logicalLines [] .plain rest'
  behind : rest = [] ∨ ∃ line more, logicalLines [] .plain rest = line :: more ∧ line.IsBad

theorem CutLines.at_once {rest : List (List Char)}
    (h : rest = [] ∨ ∃ line more, logicalLines [] .plain rest = line :: more ∧ line.IsBad) : CutLines [] rest [] :=
  ⟨fun _ hs => absurd hs List.not_mem_nil, fun _ => rfl, h⟩

theorem cutLines (ls : List (List Char)) : ∃ front rest lines, ls = front ++ rest ∧ CutLines front rest lines := by
  -- a line takes one physical line at least, so each cut leaves fewer of them
  induction hn : ls.length using Nat.strongRecOn generalizing ls with
  | ind n ih =>
    by_cases hne : ls = []
    · exact ⟨[], ls, [], rfl, .at_once (.inl hne)⟩
    rcases logicalLines_cases [] .plain ls (fun h => absurd h hne) with hend | ⟨s, first, others, rfl, hfirst, hs⟩
    · exact ⟨[], ls, [], rfl, .at_once (.inr ⟨_, _, hend, trivial⟩)⟩
    by_cases hbad : formOf s = .malformed
    · exact ⟨[], first ++ others, [], rfl, .at_once (.inr ⟨_, _, hs others, hbad⟩)⟩
    · have hshorter : others.length < n := by
        have hpos := List.length_pos_iff.2 hfirst
        rw [← hn, List.length_append]
        omega
      obtain ⟨front, rest, lines, rfl, hcut⟩ := ih _ hshorter others rfl
      -- the first line is in order, and behind it the others are cut
      refine ⟨first ++ front, rest, s :: lines, (List.append_assoc ..).symm, ?_, fun rest' => ?_, hcut.behind⟩
      · exact List.forall_mem_cons.2 ⟨hbad, hcut.inOrder⟩
      · rw [List.append_assoc, hs, hcut.front, List.map_cons, List.cons_append]

theorem physicalLines_eq_append {s : List Char} {front rest : List (List Char)}
    (h : physicalLines s = front ++ rest) :
    ∃ a b, s = a ++ b ∧ physicalLines a = front ∧ physicalLines b = rest := by
  induction s generalizing front with
  | nil =>
    obtain ⟨rfl, rfl⟩ := List.append_eq_nil_iff.1 h.symm
    exact ⟨[], [], rfl, rfl, rfl⟩
  | cons c s ih =>
    cases front with
    | nil => exact ⟨[], c :: s, rfl, rfl, h⟩
    | cons l front =>
      unfold physicalLines at h
      split at h
      · rename_i hc
        obtain ⟨rfl, hrest⟩ := List.cons_eq_cons.1 h
        obtain ⟨a, b, rfl, rfl, rfl⟩ := ih hrest
        exact ⟨c :: a, b, rfl, if_pos hc, rfl⟩
      · rename_i hc
        split at h
        · rename_i hnone
          obtain ⟨rfl, hrest⟩ := List.cons_eq_cons.1 h
          obtain ⟨rfl, rfl⟩ := List.append_eq_nil_iff.1 hrest.symm
          exact ⟨c :: s, [], (List.append_nil _).symm, by rw [physicalLines, if_neg hc, hnone], rfl⟩
        · rename_i l' ls hls
          obtain ⟨rfl, hrest⟩ := List.cons_eq_cons.1 h
          have hcut : physicalLines s = l' :: front ++ rest := hls.trans (congrArg _ hrest)
          obtain ⟨a, b, rfl, ha, rfl⟩ := ih hcut
          refine ⟨c :: a, b, rfl, ?_, rfl⟩
          rw [physicalLines, if_neg hc, ha]

theorem eq_nil_of_physicalLines {s : List Char} (h : physicalLines s = []) : s = [] := by
  cases s with
  | nil => rfl
  | cons c s =>
    unfold physicalLines at h
    split at h
    · cases h
    · split at h <;> cases h

theorem withoutMark_eq_append {s a b : List Char} (h : withoutMark s = a ++ b) :
    ∃ a', s = a' ++ b ∧ withoutMark a' = a := by
  unfold withoutMark at h
  split at h
  · exact ⟨'\uFEFF' :: a, by rw [h, List.cons_append], rfl⟩
  · rename_i hmark
    refine ⟨a, h, ?_⟩
    unfold withoutMark
    split
    · exact absurd (h.trans (List.cons_append ..)) (hmark _)
    · rfl

def linesOf (s : List Char) : List LogicalLine := logicalLines [] .plain (physicalLines s)

/-- **A file that is cut at its first malformed line.**  `lines` are the lines of its front, each of them in order; the
rest begins with a malformed line, unless there is no rest. -/
structure Cut (file front rest : String) (lines : List (List Char)) : Prop where
  whole : file = front ++ rest
  inOrder : ∀ s ∈ lines, formOf s ≠ .malformed
  front : linesOf (withoutMark front.toList) = lines.map .text
  all : linesOf (withoutMark file.toList) = lines.map .text ++ linesOf rest.toList
  behind : rest = "" ∨ ∃ line more, linesOf rest.toList = line :: more ∧ line.IsBad

/-- **Every file is cut somewhere.** -/
theorem exists_cut (file : String) : ∃ front rest lines, Cut file front rest lines := by
  obtain ⟨front, rest, lines, hls, hcut⟩ := cutLines (physicalLines (withoutMark file.toList))
  obtain ⟨a, b, hab, rfl, rfl⟩ := physicalLines_eq_append hls
  obtain ⟨a', hfile, rfl⟩ := withoutMark_eq_append hab
  refine ⟨String.ofList a', String.ofList b, lines, ?_, hcut.inOrder, ?_, ?_, ?_⟩
  · rw [← String.ofList_append, ← hfile, String.ofList_toList]
  · have hfront := hcut.front []
    rw [List.append_nil] at hfront
    rw [String.toList_ofList, linesOf, hfront]
    exact List.append_nil _
  · rw [linesOf, hls, hcut.front, String.toList_ofList, linesOf]
  · rw [String.toList_ofList]
    exact hcut.behind.imp (fun h => by rw [eq_nil_of_physicalLines h]) id

variable {file front rest : String} {lines : List (List Char)}

theorem Cut.assigns (h : Cut file front rest lines) (environment : Environment) :
    Assigns environment [] lines (assignments environment file) := by
  have hbehind : ∀ line ls, linesOf rest.toList = line :: ls → line.IsBad := fun line ls hline => by
    rcases h.behind with rfl | ⟨line', more, hline', hbad⟩
    · cases hline
    · rw [hline'] at hline
      cases hline
      exact hbad
  show Assigns environment [] lines (assign environment [] (linesOf (withoutMark file.toList)))
  rw [h.all]
  exact assigns_assign environment [] h.inOrder hbehind

/-- The front of a file counts as much as the file. -/
theorem Cut.assignments_front (h : Cut file front rest lines) (environment : Environment) :
    assignments environment front = assignments environment file := by
  have hfront : Assigns environment [] lines (assignments environment front) := by
    show Assigns environment [] lines (assign environment [] (linesOf (withoutMark front.toList)))
    rw [h.front, ← List.append_nil (lines.map _)]
    exact assigns_assign environment [] h.inOrder fun _ _ hnil => by cases hnil
  exact hfront.unique (h.assigns environment)

/-- **The value of a variable**: that of the environment, or else that of the first assignment. -/
theorem lookup_eq (environment : Environment) (file : String) {name : String} (hname : Environment.IsPlain name) :
    lookup environment file name = (environment.value? name).or ((assignments environment file).lookup name) := by
  obtain ⟨front, rest, lines, hcut⟩ := exists_cut file
  have hplain := (hcut.assigns environment).isPlain fun v hv => absurd hv List.not_mem_nil
  exact Environment.value?_setAllNew hplain hname environment

end Dotenv

namespace Settings

def names : List String := ["IMAP_HOST", "IMAP_PORT", "IMAP_USERNAME", "IMAP_PASSWORD"]

theorem isPlain_of_mem_names : ∀ name ∈ names, Environment.IsPlain name := by decide

theorem ofLookup_congr {lookup lookup' : String → Option String} (h : ∀ name ∈ names, lookup name = lookup' name) :
    ofLookup lookup = ofLookup lookup' := by
  have hhost := h "IMAP_HOST" (by decide)
  have hport := h "IMAP_PORT" (by decide)
  have husername := h "IMAP_USERNAME" (by decide)
  have hpassword := h "IMAP_PASSWORD" (by decide)
  unfold ofLookup required
  rw [hhost, hport, husername, hpassword]

/-- **The environment goes before the file.**  Every file is cut at its first malformed line, the same for every
environment.  The settings are those of a lookup that takes a variable from the environment, or else from the first
assignment to it in front of the cut; and the part in front of the cut gives them by itself.  So a variable that the
environment sets has its value whatever the file holds, and an environment that sets all of them leaves nothing to
the file. -/
theorem ofEnvironment_precedence (file : String) :
    (∃ front rest lines, Dotenv.Cut file front rest lines ∧
      ∀ environment, ∃ made, Dotenv.Assigns environment [] lines made ∧
        ofEnvironment environment file = ofLookup (fun name => (environment.value? name).or (made.lookup name)) ∧
        ofEnvironment environment front = ofEnvironment environment file) ∧
    (∀ environment name value, Environment.IsPlain name → environment.value? name = some value →
      Dotenv.lookup environment file name = some value) ∧
    ∀ environment file', (∀ name ∈ names, (environment.value? name).isSome) →
      ofEnvironment environment file = ofEnvironment environment file' := by
  have hset : ∀ environment file name value, Environment.IsPlain name → environment.value? name = some value →
      Dotenv.lookup environment file name = some value := fun environment file name value hplain hvalue => by
    rw [Dotenv.lookup_eq environment file hplain, hvalue, Option.some_or]
  refine ⟨?_, fun environment => hset environment file, fun environment file' hall => ?_⟩
  · obtain ⟨front, rest, lines, hcut⟩ := Dotenv.exists_cut file
    refine ⟨front, rest, lines, hcut, fun environment => ⟨_, hcut.assigns environment, ?_, ?_⟩⟩
    · exact ofLookup_congr fun name hname => Dotenv.lookup_eq environment file (isPlain_of_mem_names name hname)
    · have hsame := hcut.assignments_front environment
      show ofLookup (Dotenv.current environment _) = ofLookup (Dotenv.current environment _)
      rw [hsame]
  · refine ofLookup_congr fun name hname => ?_
    obtain ⟨value, hvalue⟩ := Option.isSome_iff_exists.1 (hall name hname)
    have hplain := isPlain_of_mem_names name hname
    rw [hset environment file name value hplain hvalue, hset environment file' name value hplain hvalue]

theorem ofEnvironment_precedence_two_hosts :
    let environment : Environment := [("IMAP_HOST", "imap.example.org")]
    let whole : Environment := environment ++ [("IMAP_PORT", "143"), ("IMAP_USERNAME", "u"), ("IMAP_PASSWORD", "p")]
    let file := "IMAP_HOST=localhost\nIMAP_PORT=x\nIMAP PORT=y\n"
    Environment.IsPlain "IMAP_HOST" ∧ environment.value? "IMAP_HOST" = some "imap.example.org" ∧
      Dotenv.lookup environment file "IMAP_HOST" = some "imap.example.org" ∧
      (∀ name ∈ names, (whole.value? name).isSome) ∧ ofEnvironment whole file = ofEnvironment whole "" := by
  intro environment whole file
  have hplain : Environment.IsPlain "IMAP_HOST" := by decide
  have hvalue : environment.value? "IMAP_HOST" = some "imap.example.org" := by decide +kernel
  have hall : ∀ name ∈ names, (whole.value? name).isSome := by decide +kernel
  exact ⟨hplain, hvalue, (ofEnvironment_precedence file).2.1 _ _ _ hplain hvalue, hall,
    (ofEnvironment_precedence file).2.2 _ _ hall⟩

end Settings
end Postbag
