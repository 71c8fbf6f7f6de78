import HidAccess.Toml.Document
import HidAccess.Proofs.Toml.Strings
import Mathlib.Data.List.DropRight
import Mathlib.Data.List.TakeDrop

/-! What stands around the keys and values of a document: blanks, comments, the ends of lines, and the dots of
a path. However it is chosen, the readers go over it. -/

namespace HidAccess.Toml
variable {c : Char} {cs rest : List Char}

section Blanks

abbrev Gap := { cs : List Char // cs.all isBlank = true }

def noGap : Gap := ⟨[], rfl⟩

def oneBlank : Gap := ⟨[' '], rfl⟩

structure LineEnd where
  gap : Gap := noGap
  comment : Option { cs : List Char // cs.all isPlainChar = true } := none
  hasReturn : Bool := false

def LineEnd.chars (e : LineEnd) : List Char :=
  e.gap.val ++ (e.comment.elim [] (fun text => '#' :: text.val) ++
    if e.hasReturn then ['\r', '\n'] else ['\n'])

/-- Any lines without a key or header, and blanks. -/
structure Space where
  lines : List LineEnd := []
  gap : Gap := noGap

def Space.chars (s : Space) : List Char := s.lines.flatMap LineEnd.chars ++ s.gap.val

def layoutChars : List Char := [' ', '\t', '#', '\n', '\r']
def enders : List Char := ['#', '\n', '\r', ',', ']', '}']
def closers : List Char := [' ', '\t', '#', '\n', '\r', ',', ']', '}']

/-- Behind a value: blanks, and what shows that it is over. -/
def Closed (rest : List Char) : Prop := ∃ (g : Gap) (c : Char) (more : List Char),
  rest = g.val ++ c :: more ∧ c ∈ enders

theorem isBlank_eq_false (hc : c ∉ layoutChars) : isBlank c = false := by
  simp only [layoutChars, List.mem_cons, not_or] at hc
  simp [isBlank, hc.1, hc.2.1]

theorem skipBlanks_cons (hc : isBlank c = false) : skipBlanks (c :: cs) = c :: cs := by
  rw [skipBlanks, List.dropWhile_cons, hc]
  rfl

theorem skipBlanks_gap (g : Gap) (rest : List Char) : skipBlanks (g.val ++ rest) = skipBlanks rest :=
  List.dropWhile_append_of_pos (List.all_eq_true.mp g.property)

theorem skipBlanks_skipBlanks (cs : List Char) : skipBlanks (skipBlanks cs) = skipBlanks cs :=
  List.dropWhile_idempotent isBlank cs

theorem enders_subset_closers : enders ⊆ closers := by simp [enders, closers]

theorem layoutChars_subset_closers : layoutChars ⊆ closers := by simp [layoutChars, closers]

theorem eq_of_isBlank (hc : isBlank c = true) : c = ' ' ∨ c = '\t' := by simpa [isBlank] using hc

theorem skipComment_cons (hc : c ≠ '#') : skipComment (c :: cs) = c :: cs := by
  rw [skipComment.eq_def]
  split
  · next heq => exact absurd (List.cons.inj heq).1 hc
  · rfl

theorem lineBreak?_cons (hfeed : c ≠ '\n') (hreturn : c ≠ '\r') : lineBreak? (c :: cs) = none := by
  rw [lineBreak?.eq_def]
  split
  · next heq => exact absurd (List.cons.inj heq).1 hfeed
  · next heq => exact absurd (List.cons.inj heq).1 hreturn
  · rfl

theorem isBlank_of_mem_enders (hc : c ∈ enders) : isBlank c = false := by
  have hall : enders.all (fun c => !isBlank c) = true := by decide
  simpa using List.all_eq_true.mp hall c hc

theorem skipComment_lineEnd (e : LineEnd) (rest : List Char) :
    ∃ c more, e.chars ++ rest = e.gap.val ++ c :: more ∧ c ∈ enders ∧
      ∃ d after, skipComment (c :: more) = d :: after ∧ lineBreak? (d :: after) = some rest := by
  obtain ⟨gap, comment, hasReturn⟩ := e
  have hbreak : ∃ d after, (if hasReturn then ['\r', '\n'] else ['\n']) ++ rest = d :: after ∧
      d ∈ enders ∧ d ≠ '#' ∧ isPlainChar d = false ∧ lineBreak? (d :: after) = some rest := by
    cases hasReturn
    · exact ⟨'\n', rest, rfl, by decide, by decide, by decide, rfl⟩
    · exact ⟨'\r', '\n' :: rest, rfl, by decide, by decide, by decide, rfl⟩
  obtain ⟨d, after, hchars, hmem, hd, hplain, hread⟩ := hbreak
  cases comment with
  | none =>
    exact ⟨d, after, by simp [LineEnd.chars, hchars], hmem, d, after, skipComment_cons hd, hread⟩
  | some text =>
    refine ⟨'#', text.val ++ d :: after, by simp [LineEnd.chars, hchars], by decide, d, after, ?_, hread⟩
    rw [skipComment, List.dropWhile_append_of_pos (List.all_eq_true.mp text.property), List.dropWhile_cons,
      hplain]
    rfl

theorem lineEnd?_lineEnd (e : LineEnd) (rest : List Char) : lineEnd? (e.chars ++ rest) = some rest := by
  obtain ⟨c, more, hchars, hc, d, after, hcomment, hread⟩ := skipComment_lineEnd e rest
  rw [lineEnd?, hchars, skipBlanks_gap, skipBlanks_cons (isBlank_of_mem_enders hc), hcomment]
  exact hread

theorem skipSpace_lineEnd (fuel : Nat) (e : LineEnd) (rest : List Char) :
    skipSpace (fuel + 1) (e.chars ++ rest) = skipSpace fuel rest := by
  obtain ⟨c, more, hchars, hc, d, after, hcomment, hread⟩ := skipComment_lineEnd e rest
  rw [skipSpace, hchars, skipBlanks_gap, skipBlanks_cons (isBlank_of_mem_enders hc)]
  split
  · next heq =>
    obtain ⟨rfl, rfl⟩ := List.cons.inj heq
    rw [hcomment]
    simp only [hread, Option.bind_some]
  · next hne =>
    rw [skipComment_cons fun h => hne more (by rw [h])] at hcomment
    obtain ⟨rfl, rfl⟩ := List.cons.inj hcomment
    simp only [hread]

theorem skipSpace_space (s : Space) {fuel : Nat} (hfuel : s.lines.length < fuel) (hc : c ∉ layoutChars) :
    skipSpace fuel (s.chars ++ c :: rest) = some (c :: rest) := by
  obtain ⟨lines, gap⟩ := s
  induction lines generalizing fuel with
  | nil =>
    obtain ⟨fuel, rfl⟩ := Nat.exists_eq_succ_of_ne_zero (Nat.ne_of_gt hfuel)
    have hne (d : Char) (hd : d ∈ layoutChars) : c ≠ d := (ne_of_mem_of_not_mem hd hc).symm
    rw [skipSpace, Space.chars, List.flatMap_nil, List.nil_append, skipBlanks_gap,
      skipBlanks_cons (isBlank_eq_false hc)]
    split
    · next heq => exact absurd (List.cons.inj heq).1 (hne '#' (by decide))
    · rw [lineBreak?_cons (hne '\n' (by decide)) (hne '\r' (by decide))]
  | cons e lines ih =>
    obtain ⟨fuel, rfl⟩ := Nat.exists_eq_succ_of_ne_zero (Nat.ne_of_gt (Nat.zero_lt_of_lt hfuel))
    have hchars : Space.chars ⟨e :: lines, gap⟩ ++ c :: rest =
        e.chars ++ (Space.chars ⟨lines, gap⟩ ++ c :: rest) := by
      simp [Space.chars]
    rw [hchars, skipSpace_lineEnd]
    exact ih (Nat.lt_of_succ_lt_succ hfuel)

theorem LineEnd.chars_ne_nil (e : LineEnd) : e.chars ≠ [] := by
  obtain ⟨gap, comment, hasReturn⟩ := e
  cases hasReturn <;> simp [LineEnd.chars]

theorem Space.length_lines_le (s : Space) : s.lines.length ≤ s.chars.length := by
  obtain ⟨lines, gap⟩ := s
  induction lines with
  | nil => exact Nat.zero_le _
  | cons e lines ih =>
    have hpos := List.length_pos_iff.mpr e.chars_ne_nil
    simp only [Space.chars, List.flatMap_cons, List.length_append, List.length_cons] at ih ⊢
    omega

theorem closed_gap (g : Gap) (hc : c ∈ enders) : Closed (g.val ++ c :: rest) := ⟨g, c, rest, rfl, hc⟩

theorem closed_lineEnd (e : LineEnd) (rest : List Char) : Closed (e.chars ++ rest) := by
  obtain ⟨c, more, hchars, hc, -⟩ := skipComment_lineEnd e rest
  rw [hchars]
  exact closed_gap e.gap hc

theorem closed_space (s : Space) (hc : c ∈ enders) : Closed (s.chars ++ c :: rest) := by
  obtain ⟨_ | ⟨e, lines⟩, gap⟩ := s
  · exact closed_gap gap hc
  · rw [Space.chars, List.flatMap_cons, List.append_assoc, List.append_assoc]
    exact closed_lineEnd e _

theorem Closed.head (h : Closed rest) : ∃ c more, rest = c :: more ∧ c ∈ closers := by
  obtain ⟨⟨g, hg⟩, c, more, rfl, hc⟩ := h
  cases g with
  | nil => exact ⟨c, more, rfl, enders_subset_closers hc⟩
  | cons b g =>
    refine ⟨b, g ++ c :: more, rfl, ?_⟩
    obtain rfl | rfl := eq_of_isBlank (List.all_eq_true.mp hg b List.mem_cons_self) <;> decide

end Blanks

section Keys

def Bare (key : String) : Prop := key.toList ≠ [] ∧ ∀ c ∈ key.toList, isKeyChar c = true

instance {key : String} : Decidable (Bare key) :=
  decidable_of_iff (key.toList ≠ [] ∧ key.toList.all isKeyChar = true) (by rw [Bare, List.all_eq_true])

structure IsKey (text : List Char) (name : String) : Prop where
  head : ∃ c cs, text = c :: cs ∧ (isKeyChar c = true ∨ c = '"' ∨ c = '\'')
  read : ∀ rest, (∀ c ∈ rest.head?, isKeyChar c = false) → key? (text ++ rest) = some (name, rest)

structure Key where
  text : List Char
  name : String
  isKey : IsKey text name

variable {name : String}

theorem isKey_bare (hname : Bare name) : IsKey name.toList name := by
  obtain ⟨d, ds, hds⟩ := List.exists_cons_of_ne_nil hname.1
  have hd : isKeyChar d = true := hname.2 d (by rw [hds]; exact List.mem_cons_self)
  refine ⟨⟨d, ds, hds, .inl hd⟩, fun rest hrest => ?_⟩
  have hspan : (name.toList ++ rest).span isKeyChar = (name.toList, rest) := by
    have htake : rest.takeWhile isKeyChar = [] := by
      cases rest with
      | nil => rfl
      | cons c rest => simp [hrest c rfl]
    have hdrop : rest.dropWhile isKeyChar = rest := by
      cases rest with
      | nil => rfl
      | cons c rest => simp [hrest c rfl]
    simp [List.span_eq_takeWhile_dropWhile, List.takeWhile_append_of_pos hname.2,
      List.dropWhile_append_of_pos hname.2, htake, hdrop]
  rw [hds, List.cons_append] at hspan ⊢
  have hquote : d ≠ '"' := ne_of_apply_ne isKeyChar (by rw [hd]; decide)
  have happostrophe : d ≠ '\'' := ne_of_apply_ne isKeyChar (by rw [hd]; decide)
  rw [key?.eq_def]
  split
  · next heq => exact absurd (List.cons.inj heq).1 hquote
  · next heq => exact absurd (List.cons.inj heq).1 happostrophe
  · rw [hspan]
    dsimp only
    rw [← hds, String.ofList_toList]

theorem isKey_basic (name : String) :
    IsKey ('"' :: (escapedText false 0 0 name.toList ++ ['"'])) name where
  head := ⟨'"', _, rfl, .inr (.inl rfl)⟩
  read rest _ := by
    have hread : basic? (escapedText false 0 0 name.toList ++ '"' :: rest) = _ :=
      basic?_escapedText name.toList rest
    simp [key?, hread]

theorem isKey_literal (hname : name.toList.all (fun c => c != '\'' && isPlainChar c) = true) :
    IsKey ('\'' :: (name.toList ++ ['\''])) name where
  head := ⟨'\'', _, rfl, .inr (.inr rfl)⟩
  read rest _ := by
    have hread : literal? (name.toList ++ '\'' :: rest) = _ :=
      literal?_text fun c hc => by simpa using List.all_eq_true.mp hname c hc
    simp [key?, hread]

def Key.bare (name : String) (hname : Bare name) : Key := ⟨name.toList, name, isKey_bare hname⟩

def Key.quoted (name : String) : Key := ⟨_, name, isKey_basic name⟩

def Key.literal (name : String) (hname : name.toList.all (fun c => c != '\'' && isPlainChar c) = true) :
    Key :=
  ⟨_, name, isKey_literal hname⟩

def nonKeyStarts : List Char := ['[', '}', '#', '\n', '\r', '\uFEFF']

theorem Key.head (k : Key) : ∃ c cs, k.text = c :: cs ∧ isBlank c = false ∧ c ∉ nonKeyStarts := by
  obtain ⟨c, cs, htext, hc⟩ := k.isKey.head
  have hne (d : Char) (hd : isKeyChar d = false) (hquotes : d ≠ '"' ∧ d ≠ '\'') : c ≠ d := by
    rintro rfl
    obtain h | h | h := hc
    · rw [h] at hd
      cases hd
    · exact hquotes.1 h
    · exact hquotes.2 h
  refine ⟨c, cs, htext, ?_, ?_⟩
  · simp [isBlank, hne ' ' (by decide) (by decide), hne '\t' (by decide) (by decide)]
  · simp [nonKeyStarts, hne '[' (by decide) (by decide), hne '}' (by decide) (by decide), hne '#' (by decide) (by decide),
      hne '\n' (by decide) (by decide), hne '\r' (by decide) (by decide),
      hne '\uFEFF' (by decide) (by decide)]

end Keys

section Paths

structure Step where
  key : Key
  before : Gap := noGap
  after : Gap := noGap

def Step.chars (s : Step) : List Char := s.before.val ++ (s.key.text ++ s.after.val)

def stepsChars (first : Step) (more : List Step) : List Char :=
  first.chars ++ more.flatMap fun s => '.' :: s.chars

structure KeyPath where
  first : Step
  more : List Step := []
  short : more.length + 1 < depthLimit := by decide

def KeyPath.chars (p : KeyPath) : List Char := stepsChars p.first p.more

def KeyPath.names (p : KeyPath) : List String := p.first.key.name :: p.more.map (·.key.name)

def KeyPath.single (k : Key) (after : Gap := noGap) : KeyPath where
  first := { key := k, after }

theorem head_gap_notKeyChar (g : Gap) (hc : isKeyChar c = false) :
    ∀ d ∈ (g.val ++ c :: rest).head?, isKeyChar d = false := by
  obtain ⟨g, hg⟩ := g
  cases g with
  | nil => simpa using hc
  | cons b g =>
    obtain rfl | rfl := eq_of_isBlank (List.all_eq_true.mp hg b List.mem_cons_self) <;> simp <;> decide

theorem key?_step (s : Step) (hc : isKeyChar c = false) :
    key? (skipBlanks (s.chars ++ c :: rest)) = some (s.key.name, s.after.val ++ c :: rest) := by
  obtain ⟨d, ds, hds, hblank, -⟩ := s.key.head
  have hskip : skipBlanks (s.chars ++ c :: rest) = s.key.text ++ (s.after.val ++ c :: rest) := by
    rw [Step.chars, List.append_assoc, skipBlanks_gap, hds, List.append_assoc, List.cons_append,
      skipBlanks_cons hblank]
  rw [hskip, s.key.isKey.read _ (head_gap_notKeyChar s.after hc)]

theorem keyPathWithin_steps (first : Step) (more : List Step) {fuel : Nat} (hfuel : more.length < fuel)
    (hblank : isBlank c = false) (hdot : c ≠ '.') (hc : isKeyChar c = false) :
    keyPathWithin fuel (stepsChars first more ++ c :: rest) =
      some (first.key.name :: more.map (·.key.name), c :: rest) := by
  induction more generalizing first fuel with
  | nil =>
    obtain ⟨fuel, rfl⟩ := Nat.exists_eq_succ_of_ne_zero (Nat.ne_of_gt hfuel)
    rw [stepsChars, List.flatMap_nil, List.append_nil, keyPathWithin, key?_step first hc]
    simp only [Option.bind_eq_bind, Option.bind_some, skipBlanks_gap, skipBlanks_cons hblank]
    split
    · next heq => exact absurd (List.cons.inj heq).1 hdot
    · rfl
  | cons s more ih =>
    obtain ⟨fuel, rfl⟩ := Nat.exists_eq_succ_of_ne_zero (Nat.ne_of_gt (Nat.zero_lt_of_lt hfuel))
    have hchars : stepsChars first (s :: more) ++ c :: rest =
        first.chars ++ '.' :: (stepsChars s more ++ c :: rest) := by
      simp [stepsChars]
    have hdotBlank : isBlank '.' = false := rfl
    rw [hchars, keyPathWithin, key?_step first (by decide)]
    simp only [Option.bind_eq_bind, Option.bind_some, skipBlanks_gap, skipBlanks_cons hdotBlank,
      ih s (Nat.lt_of_succ_lt_succ hfuel)]
    rfl

theorem keyPath?_path (p : KeyPath) (hblank : isBlank c = false) (hdot : c ≠ '.')
    (hc : isKeyChar c = false) : keyPath? (p.chars ++ c :: rest) = some (p.names, c :: rest) :=
  keyPathWithin_steps p.first p.more (Nat.lt_sub_of_add_lt p.short) hblank hdot hc

theorem keyPath?_skipBlanks (cs : List Char) : keyPath? (skipBlanks cs) = keyPath? cs := by
  rw [keyPath?, keyPath?, show depthLimit - 1 = 78 + 1 from rfl, keyPathWithin, keyPathWithin,
    skipBlanks_skipBlanks]

theorem KeyPath.head (p : KeyPath) :
    ∃ c cs, c ∉ nonKeyStarts ∧ ∀ rest, skipBlanks (p.chars ++ rest) = c :: (cs ++ rest) := by
  obtain ⟨c, cs, htext, hblank, hc⟩ := p.first.key.head
  refine ⟨c, cs ++ (p.first.after.val ++ p.more.flatMap fun s => '.' :: s.chars), hc, fun rest => ?_⟩
  simp [KeyPath.chars, stepsChars, Step.chars, skipBlanks_gap, htext, skipBlanks_cons hblank]

/-- A path with its value, whatever reads the value. -/
theorem binding?_of_value {value : ValueReader} {v : Value} {text : List Char} (p : KeyPath) (g : Gap)
    (hhead : ∃ c cs, text = c :: cs ∧ isBlank c = false) (hvalue : value (text ++ rest) = some (v, rest)) :
    binding? value (p.chars ++ '=' :: (g.val ++ (text ++ rest))) = some ((p.names, v), rest) := by
  obtain ⟨c, cs, htext, hblank⟩ := hhead
  have hskip : skipBlanks (g.val ++ (text ++ rest)) = text ++ rest := by
    rw [skipBlanks_gap, htext, List.cons_append, skipBlanks_cons hblank]
  rw [binding?, keyPath?_path p (by decide) (by decide) (by decide)]
  simp only [Option.bind_eq_bind, Option.bind_some, hskip, hvalue]
  rfl

theorem binding?_skipBlanks (value : ValueReader) (cs : List Char) :
    binding? value (skipBlanks cs) = binding? value cs := by
  rw [binding?, binding?, keyPath?_skipBlanks]

end Paths

end HidAccess.Toml
