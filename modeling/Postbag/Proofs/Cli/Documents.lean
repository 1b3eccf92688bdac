import Postbag.Cli.Document
import Postbag.Proofs.Text.Numbers
/-!
# Documents — what a reader makes of a document

A reader of JSON passes over white space, knows a value by its first character, and undoes the escapes of a text.  What
it reads of a document that was written is that document.
-/
namespace Postbag
namespace Cli
namespace Document

/-! ## The reader -/

def isSpace (c : Char) : Bool := c = ' ' || c = '\n' || c = '\r' || c = '\t'

def skip (s : List Char) : List Char := s.dropWhile isSpace

def hexValue? (c : Char) : Option Nat :=
  if c.isDigit then some (c.toNat - 48)
  else if 'a' ≤ c && c ≤ 'f' then some (c.toNat - 87)
  else if 'A' ≤ c && c ≤ 'F' then some (c.toNat - 55)
  else none

/-- The character that a backslash and another character stand for. -/
def unescape? (c : Char) : Option Char :=
  if c = '"' || c = '\\' || c = '/' then some c
  else if c = 'n' then some '\n'
  else if c = 'r' then some '\r'
  else if c = 't' then some '\t'
  else if c = 'b' then some (Char.ofNat 8)
  else if c = 'f' then some (Char.ofNat 12)
  else none

/-- The character of a number in four digits, unless it is half of one. -/
def unit? (a b c d : Char) : Option Char := do
  let n := (((← hexValue? a) * 16 + (← hexValue? b)) * 16 + (← hexValue? c)) * 16 + (← hexValue? d)
  if n.isValidChar then some (Char.ofNat n) else none

/-- What stands before the quote that ends a text, and what stands behind it. -/
def unquoted? : List Char → Option (List Char × List Char)
  | [] => none
  | '"' :: s => some ([], s)
  | '\\' :: 'u' :: a :: b :: c :: d :: s => (unit? a b c d).bind fun c => (unquoted? s).map fun p => (c :: p.1, p.2)
  | '\\' :: c :: s => (unescape? c).bind fun c => (unquoted? s).map fun p => (c :: p.1, p.2)
  | c :: s => if c.toNat < 32 || c = '\\' then none else (unquoted? s).map fun p => (c :: p.1, p.2)

/-- Parts with commas between them, up to the bracket that ends them; `limit` bounds their number. -/
def parts? {α : Type} (part? : List Char → Option (α × List Char)) (last : Char) :
    (limit : Nat) → List Char → Option (List α × List Char)
  | 0, _ => none
  | limit + 1, s =>
    match part? s with
    | none => none
    | some (a, s) =>
      match skip s with
      | [] => none
      | c :: s =>
        if c = last then some ([a], s)
        else if c = ',' then (parts? part? last limit s).map fun p => (a :: p.1, p.2)
        else none

/-- What stands between two brackets, the first of which was read. -/
def enclosed? {α : Type} (part? : List Char → Option (α × List Char)) (last : Char) (limit : Nat) (s : List Char) :
    Option (List α × List Char) :=
  match skip s with
  | [] => none
  | c :: behind => if c = last then some ([], behind) else parts? part? last limit s

def field? (value? : List Char → Option (Document × List Char)) (s : List Char) :
    Option ((String × Document) × List Char) :=
  match skip s with
  | '"' :: s => do
    let (name, s) ← unquoted? s
    match skip s with
    | ':' :: s => (value? s).map fun p => ((String.ofList name, p.1), p.2)
    | _ => none
  | _ => none

/-- **The value at the front of a text**, and what stands behind it; `limit` bounds the depth and the lengths. -/
def value? : (limit : Nat) → List Char → Option (Document × List Char)
  | 0, _ => none
  | limit + 1, s =>
    match skip s with
    | [] => none
    | c :: s =>
      if c = '"' then (unquoted? s).map fun p => (text (String.ofList p.1), p.2)
      else if c = '[' then (enclosed? (value? limit) ']' limit s).map fun p => (list p.1, p.2)
      else if c = '\x7b' then (enclosed? (field? (value? limit)) '\x7d' limit s).map fun p => (object p.1, p.2)
      else if c.isDigit then
        some (number (Nat.ofDigitChars 10 ((c :: s).takeWhile Char.isDigit) 0), s.dropWhile Char.isDigit)
      else
        match c :: s with
        | 'n' :: 'u' :: 'l' :: 'l' :: s => some (null, s)
        | _ => none

/-- **What a reader makes of a text** that holds one value. -/
def read? (t : String) : Option Document :=
  match value? t.length t.toList with
  | some (d, s) => if (skip s).isEmpty then some d else none
  | none => none

/-! ## Texts -/

theorem unit?_of_control : ∀ n < 32, unit? '0' '0' (hexDigit (n / 16)) (hexDigit (n % 16)) = some (Char.ofNat n) := by
  decide

theorem unquoted?_escapeChar (c : Char) (s : List Char) :
    unquoted? (escapeChar c ++ s) = (unquoted? s).map fun p => (c :: p.1, p.2) := by
  have hc : Char.ofNat c.toNat = c := Char.ofNat_toNat c
  unfold escapeChar
  by_cases hquote : c = '"'
  · subst hquote; rfl
  by_cases hback : c = '\\'
  · subst hback; rfl
  by_cases hn : c = '\n'
  · subst hn; rfl
  by_cases hr : c = '\r'
  · subst hr; rfl
  by_cases ht : c = '\t'
  · subst ht; rfl
  by_cases hb : c.toNat = 8
  · rw [hb] at hc
    subst hc; rfl
  by_cases hf : c.toNat = 12
  · rw [hf] at hc
    subst hc; rfl
  by_cases hcontrol : c.toNat < 32
  · have hunit := unit?_of_control c.toNat hcontrol
    rw [hc] at hunit
    simp [hquote, hback, hn, hr, ht, hb, hf, hcontrol, unquoted?, hunit]
  · simp [unquoted?, hquote, hback, hn, hr, ht, hb, hf, hcontrol]

theorem unquoted?_quoted (t rest : List Char) :
    unquoted? (t.flatMap escapeChar ++ '"' :: rest) = some (t, rest) := by
  induction t with
  | nil => rfl
  | cons c t ih =>
    rw [List.flatMap_cons, List.append_assoc, unquoted?_escapeChar, ih]
    rfl

/-! ## Parts -/

theorem skip_space {space : List Char} {c : Char} (hs : ∀ d ∈ space, isSpace d = true) (hc : isSpace c = false)
    (s : List Char) : skip (space ++ c :: s) = c :: s := by
  unfold skip
  rw [List.dropWhile_append_of_pos hs, List.dropWhile_cons_of_neg (by simp [hc])]

theorem skip_cons {c : Char} (hc : isSpace c = false) (s : List Char) : skip (c :: s) = c :: s :=
  List.dropWhile_cons_of_neg (by simp [hc])

theorem isSpace_of_mem_newLine {depth : Nat} {c : Char} (h : c ∈ newLine depth) : isSpace c = true := by
  unfold newLine at h
  rcases List.mem_cons.1 h with rfl | h
  · rfl
  · rw [List.eq_of_mem_replicate h]
    rfl

/-- What stands behind a value that was written: nothing that could belong to a number. -/
def Stops (rest : List Char) : Prop := ∀ c ∈ rest.head?, c.isDigit = false

/-- The first character of a part that was written: none that is passed over, and none that ends the parts. -/
def Opens (last : Char) (written : List Char) : Prop :=
  ∃ c s, written = c :: s ∧ isSpace c = false ∧ c ≠ last

/-- **A part is read as it was written**, whatever white space stands before it and whatever stands behind it. -/
structure Reads {α : Type} (part? : List Char → Option (α × List Char)) (last : Char) (written : List Char) (a : α) :
    Prop where
  opens : Opens last written
  read : ∀ space rest, (∀ c ∈ space, isSpace c = true) → Stops rest → part? (space ++ (written ++ rest)) = some (a, rest)

section Parts

variable {α : Type} {part? : List Char → Option (α × List Char)} {last : Char} {write : α → List Char}

theorem parts?_written (hspace : isSpace last = false) (hcomma : ',' ≠ last)
    (depth : Nat) (rest : List Char) {a : α} {as : List α} (h : ∀ x ∈ a :: as, Reads part? last (write x) x)
    {limit : Nat} (hl : as.length < limit) :
    parts? part? last limit (newLine (depth + 1) ++ (write a ++
      (as.flatMap (fun x => ',' :: (newLine (depth + 1) ++ write x)) ++ (newLine depth ++ last :: rest)))) =
      some (a :: as, rest) := by
  induction as generalizing a limit with
  | nil =>
    obtain ⟨limit, rfl⟩ := Nat.exists_eq_succ_of_ne_zero (Nat.ne_of_gt hl)
    have ha := (h a List.mem_cons_self).read (newLine (depth + 1)) (newLine depth ++ last :: rest)
      (fun c => isSpace_of_mem_newLine) (fun c hc => by cases hc; rfl)
    have hskip : skip (newLine depth ++ last :: rest) = last :: rest :=
      skip_space (fun c => isSpace_of_mem_newLine) hspace rest
    simp [parts?, ha, hskip]
  | cons b as ih =>
    obtain ⟨limit, rfl⟩ := Nat.exists_eq_succ_of_ne_zero (Nat.ne_of_gt (Nat.lt_of_le_of_lt (Nat.zero_le _) hl))
    have hbehind := ih (a := b) (fun x hx => h x (List.mem_cons_of_mem a hx)) (Nat.lt_of_succ_lt_succ hl)
    have ha := (h a List.mem_cons_self).read (newLine (depth + 1))
      (',' :: (newLine (depth + 1) ++ (write b ++ (as.flatMap (fun x => ',' :: (newLine (depth + 1) ++ write x)) ++
        (newLine depth ++ last :: rest))))) (fun c => isSpace_of_mem_newLine) (fun c hc => by cases hc; rfl)
    simp only [List.flatMap_cons, List.cons_append, List.append_assoc]
    unfold parts?
    rw [ha]
    have hskip := skip_cons (show isSpace ',' = false from rfl)
    simp only [hskip]
    rw [if_neg hcomma]
    simp [hbehind]

/-- **Parts between brackets are read as they were written.** -/
theorem enclosed?_block {first : Char} (hlast : last = ']' ∨ last = '\x7d') (depth : Nat) (rest : List Char)
    {as : List α} (h : ∀ x ∈ as, Reads part? last (write x) x) {limit : Nat} (hl : as.length ≤ limit) :
    ∃ behind, block first last depth (as.map write) = first :: behind ∧
      enclosed? part? last limit (behind ++ rest) = some (as, rest) := by
  have hspace : isSpace last = false := by rcases hlast with rfl | rfl <;> rfl
  have hcomma : ',' ≠ last := by rcases hlast with rfl | rfl <;> decide
  cases as with
  | nil =>
    refine ⟨[last], rfl, ?_⟩
    have hskip := skip_cons hspace rest
    simp [enclosed?, hskip]
  | cons a as =>
    have hblock : block first last depth ((a :: as).map write) = first :: (newLine (depth + 1) ++ (write a ++
        (as.flatMap (fun x => ',' :: (newLine (depth + 1) ++ write x)) ++ (newLine depth ++ [last])))) := by
      simp [block, List.flatMap_map]
    refine ⟨_, hblock, ?_⟩
    have hparts := parts?_written hspace hcomma depth rest h hl
    obtain ⟨c, s, hw, hc, hne⟩ := (h a List.mem_cons_self).opens
    have hskip : ∀ t, skip (newLine (depth + 1) ++ c :: t) = c :: t := skip_space (fun _ => isSpace_of_mem_newLine) hc
    unfold enclosed?
    simp only [hw, List.append_assoc, List.cons_append, List.nil_append] at hparts ⊢
    simp only [hskip, if_neg hne]
    exact hparts

end Parts

/-! ## Values -/

theorem writeValues_eq_map (depth : Nat) (values : List Document) :
    writeValues depth values = values.map (write depth) := by
  induction values with
  | nil => rfl
  | cons v values ih => rw [writeValues, ih, List.map_cons]

def writeField (depth : Nat) (f : String × Document) : List Char := quoted f.1 ++ ':' :: ' ' :: write depth f.2

theorem writeFields_eq_map (depth : Nat) (fields : List (String × Document)) :
    writeFields depth fields = fields.map (writeField depth) := by
  induction fields with
  | nil => rfl
  | cons f fields ih => rw [writeFields, ih, List.map_cons, writeField]

theorem length_le_flatMap {f : List Char → List Char} (hf : ∀ p, p.length < (f p).length) (parts : List (List Char)) :
    parts.length ≤ (parts.flatMap f).length ∧ ∀ p ∈ parts, p.length < (parts.flatMap f).length := by
  induction parts with
  | nil => exact ⟨Nat.le_refl _, fun p hp => by cases hp⟩
  | cons q parts ih =>
    have hq := hf q
    simp only [List.flatMap_cons, List.length_append, List.length_cons]
    refine ⟨by omega, fun p hp => ?_⟩
    rcases List.mem_cons.1 hp with rfl | hp
    · omega
    · have := ih.2 p hp
      omega

/-- A block is longer than its parts are many, and longer than each of them. -/
theorem length_lt_block (first last : Char) (depth : Nat) (parts : List (List Char)) :
    parts.length < (block first last depth parts).length ∧
      ∀ p ∈ parts, p.length < (block first last depth parts).length := by
  cases parts with
  | nil => exact ⟨by simp [block], fun p hp => by cases hp⟩
  | cons q parts =>
    obtain ⟨hmany, hlong⟩ := length_le_flatMap (f := fun q => ',' :: newLine (depth + 1) ++ q)
      (fun p => by simp [newLine]; omega) parts
    have hlength : (block first last depth (q :: parts)).length = (newLine (depth + 1)).length + q.length +
        (parts.flatMap fun q => ',' :: newLine (depth + 1) ++ q).length + (newLine depth).length + 2 := by
      simp only [block, List.length_append, List.length_cons, List.length_nil]
      omega
    rw [hlength, List.length_cons]
    refine ⟨by omega, fun p hp => ?_⟩
    rcases List.mem_cons.1 hp with rfl | hp
    · omega
    · have := hlong p hp
      omega

theorem field?_written {limit depth : Nat} {f : String × Document}
    (h : Reads (value? limit) ']' (write depth f.2) f.2) :
    Reads (field? (value? limit)) '\x7d' (writeField depth f) f where
  opens := ⟨'"', _, rfl, rfl, by decide⟩
  read := by
    intro space rest hs hstops
    have hname := unquoted?_quoted f.1.toList (':' :: ' ' :: (write depth f.2 ++ rest))
    have hskip := skip_space (c := '"') hs rfl
    have hcolon := skip_cons (show isSpace ':' = false from rfl)
    have hvalue := h.read [' '] rest (fun c hc => by rw [List.mem_singleton.1 hc]; rfl) hstops
    unfold field? writeField quoted
    simp only [List.cons_append, List.append_assoc, List.nil_append] at hvalue ⊢
    simp [hskip, hname, hcolon, hvalue]

theorem value?_number (n limit : Nat) : Reads (value? (limit + 1)) ']' (Text.digits n) (number n) := by
  obtain ⟨c, s, hdigits⟩ := List.exists_cons_of_ne_nil (Nat.toDigits_ne_nil (b := 10) (n := n))
  have hall : ∀ d ∈ c :: s, d.isDigit = true := fun d hd => Text.isDigit_of_mem_digits (hdigits ▸ hd)
  have hc := hall c List.mem_cons_self
  have hne : ∀ d : Char, d.isDigit = false → c ≠ d := fun d hd h => by rw [← h, hc] at hd; cases hd
  have hspace : isSpace c = false := by
    simp [isSpace, hne ' ' rfl, hne '\n' rfl, hne '\r' rfl, hne '\t' rfl]
  have hvalue : Nat.ofDigitChars 10 (c :: s) 0 = n := by
    rw [← hdigits]
    exact Nat.ofDigitChars_ten_toDigits
  rw [Text.digits, hdigits]
  refine ⟨⟨c, s, rfl, hspace, hne ']' rfl⟩, fun space rest hs hstops => ?_⟩
  have hskip := skip_space hs hspace (s ++ rest)
  have htake : (c :: (s ++ rest)).takeWhile Char.isDigit = c :: s := by
    rw [← List.cons_append, List.takeWhile_append_of_pos hall]
    cases rest with
    | nil => simp
    | cons d rest => simp [hstops d rfl]
  have hdrop : (s ++ rest).dropWhile Char.isDigit = rest := by
    rw [List.dropWhile_append_of_pos fun d hd => hall d (List.mem_cons_of_mem c hd)]
    cases rest with
    | nil => rfl
    | cons d rest => simp [hstops d rfl]
  unfold value?
  rw [List.cons_append, hskip]
  simp only [hne '"' rfl, hne '[' rfl, hne '\x7b' rfl, hc, htake, hdrop, hvalue, if_true, if_false]

theorem length_write_pos (depth : Nat) (d : Document) : 0 < (write depth d).length := by
  cases d with
  | null => exact Nat.succ_pos _
  | number n => exact List.length_pos_iff.2 Nat.toDigits_ne_nil
  | text t => exact Nat.succ_pos _
  | list values => exact Nat.lt_of_le_of_lt (Nat.zero_le _) (length_lt_block '[' ']' depth _).1
  | object fields => exact Nat.lt_of_le_of_lt (Nat.zero_le _) (length_lt_block '\x7b' '\x7d' depth _).1

/-- A value that is a block is read where its parts are. -/
theorem value?_block {α : Type} (part? : List Char → Option (α × List Char)) {write' : α → List Char}
    {build : List α → Document} {first last : Char} (hlast : last = ']' ∨ last = '\x7d') {depth limit : Nat}
    {as : List α} (hl : (block first last depth (as.map write')).length ≤ limit + 1)
    (hfirst : isSpace first = false ∧ first ≠ ']')
    (hvalue : ∀ space s, (∀ c ∈ space, isSpace c = true) →
      value? (limit + 1) (space ++ first :: s) = (enclosed? part? last limit s).map fun p => (build p.1, p.2))
    (h : ∀ x ∈ as, Reads part? last (write' x) x) :
    Reads (value? (limit + 1)) ']' (block first last depth (as.map write')) (build as) := by
  have hmany := (length_lt_block first last depth (as.map write')).1
  rw [List.length_map] at hmany
  have hblock : ∀ rest, ∃ behind, block first last depth (as.map write') = first :: behind ∧
      enclosed? part? last limit (behind ++ rest) = some (as, rest) := fun rest =>
    enclosed?_block hlast depth rest h (by omega)
  refine ⟨?_, fun space rest hs _ => ?_⟩
  · obtain ⟨behind, hwritten, -⟩ := hblock []
    exact ⟨first, behind, hwritten, hfirst⟩
  · obtain ⟨behind, hwritten, hread⟩ := hblock rest
    rw [hwritten, List.cons_append, hvalue space _ hs, hread]
    rfl

/-- **A value is read as it was written.** -/
theorem value?_written (d : Document) (depth limit : Nat) (hl : (write depth d).length ≤ limit) :
    Reads (value? limit) ']' (write depth d) d := by
  -- on the limit, which goes down with the depth: the parts of a value are shorter than the value
  induction limit generalizing d depth with
  | zero => exact absurd hl (Nat.not_le_of_lt (length_write_pos depth d))
  | succ limit ih =>
    cases d with
    | null =>
      refine ⟨⟨'n', _, rfl, rfl, by decide⟩, fun space rest hs hstops => ?_⟩
      have hskip := skip_space (c := 'n') hs rfl ("ull".toList ++ rest)
      have htext : write depth null ++ rest = 'n' :: ("ull".toList ++ rest) := rfl
      unfold value?
      rw [htext, hskip]
      rfl
    | number n =>
      rw [write]
      exact value?_number n limit
    | text t =>
      refine ⟨⟨'"', _, by rw [write, quoted]; rfl, rfl, by decide⟩, fun space rest hs hstops => ?_⟩
      have htext : write depth (text t) ++ rest = '"' :: (t.toList.flatMap escapeChar ++ '"' :: rest) := by
        simp [write, quoted]
      have hskip := skip_space (c := '"') hs rfl (t.toList.flatMap escapeChar ++ '"' :: rest)
      unfold value?
      rw [htext, hskip]
      simp [unquoted?_quoted]
    | list values =>
      rw [write, writeValues_eq_map] at hl ⊢
      have hlong := (length_lt_block '[' ']' depth (values.map (write (depth + 1)))).2
      refine value?_block (value? limit) (.inl rfl) hl ⟨rfl, by decide⟩ (fun space s hs => ?_) fun v hv => ?_
      · have hskip := skip_space (c := '[') hs rfl s
        unfold value?
        rw [hskip]
        rfl
      · have hlength := hlong _ (List.mem_map_of_mem hv)
        exact ih v (depth + 1) (by omega)
    | object fields =>
      rw [write, writeFields_eq_map] at hl ⊢
      have hlong := (length_lt_block '\x7b' '\x7d' depth (fields.map (writeField (depth + 1)))).2
      refine value?_block (field? (value? limit)) (.inr rfl) hl ⟨rfl, by decide⟩ (fun space s hs => ?_) fun f hf => ?_
      · have hskip := skip_space (c := '\x7b') hs rfl s
        unfold value?
        rw [hskip]
        rfl
      · have hlength := hlong _ (List.mem_map_of_mem hf)
        simp only [writeField, List.length_append, List.length_cons] at hlength
        exact field?_written (ih f.2 (depth + 1) (by omega))

/-- **A document is read as it was written**, with white space before and behind it. -/
theorem read?_render (d : Document) {space : List Char} (hs : ∀ c ∈ space, isSpace c = true) :
    read? (d.render ++ String.ofList space) = some d := by
  have htext : (d.render ++ String.ofList space).toList = [] ++ (write 0 d ++ space) := by simp [render]
  have hstops : Stops space := by
    intro c hc
    have hspace := hs c (List.mem_of_mem_head? hc)
    simp only [isSpace, Bool.or_eq_true, decide_eq_true_eq] at hspace
    rcases hspace with ((rfl | rfl) | rfl) | rfl <;> rfl
  have hlength : (write 0 d).length ≤ (d.render ++ String.ofList space).length := by simp [render]
  have hread := (value?_written d 0 _ hlength).read [] space (fun _ hm => by cases hm) hstops
  have hskip : skip (space ++ []) = [] := List.dropWhile_append_of_pos hs
  rw [List.append_nil] at hskip
  unfold read?
  rw [htext, hread]
  simp only [hskip]
  rfl

end Document
end Cli
end Postbag
