import HidAccess.Proofs.Toml.Values

/-! A document is read as the tables that its headers and settings spell, however they are laid out: with
comments and blanks, with keys in quotes or joined by dots, with tables within tables. A header stands in front
of the headers of the tables within its own. -/

namespace HidAccess.Toml
open OpenTable (IsFree AllDotted adjust)

section Lines

structure Setting where
  path : KeyPath
  gap : Gap := oneBlank
  text : List Char
  value : Value
  ending : LineEnd := {}
  head : ∃ c cs, text = c :: cs ∧ isBlank c = false
  reads : ∀ rest, value? (text ++ (ending.chars ++ rest)) = some (value, ending.chars ++ rest)

structure Header where
  indent : Gap := noGap
  path : KeyPath
  ending : LineEnd := {}

/-- A header or a setting, behind any lines without one. -/
inductive Line where
  | header (before : List LineEnd) (h : Header)
  | setting (before : List LineEnd) (s : Setting)

def Setting.chars (s : Setting) : List Char :=
  s.path.chars ++ '=' :: (s.gap.val ++ (s.text ++ s.ending.chars))

def Header.chars (h : Header) : List Char :=
  h.indent.val ++ '[' :: (h.path.chars ++ ']' :: h.ending.chars)

def Line.chars : Line → List Char
  | header before h => before.flatMap LineEnd.chars ++ h.chars
  | setting before s => before.flatMap LineEnd.chars ++ s.chars

/-- What a line puts at which path of the document: a table, or a value of the table of the last header. -/
def Line.entry (path : List String) : Line → List String × Option Value
  | header _ h => (h.path.names, none)
  | setting _ s => (path ++ s.path.names, some s.value)

def Line.pathBehind (path : List String) : Line → List String
  | header _ h => h.path.names
  | setting _ _ => path

def entriesFrom (path : List String) : List Line → List (List String × Option Value)
  | [] => []
  | line :: lines => line.entry path :: entriesFrom (line.pathBehind path) lines

/-- The second path is new behind the first, and leads through no value. -/
def IsNewBehind (e e' : List String × Option Value) : Prop :=
  ¬ e'.1 <+: e.1 ∧ (e.2.isSome = true → ¬ e.1 <+: e'.1)

instance (e e' : List String × Option Value) : Decidable (IsNewBehind e e') :=
  inferInstanceAs (Decidable (_ ∧ _))

structure Document where
  lines : List Line
  after : List LineEnd := []
  hasMark : Bool := false
  distinct : (entriesFrom [] lines).Pairwise IsNewBehind

def Document.text (d : Document) : String :=
  String.ofList ((if d.hasMark then ['\uFEFF'] else []) ++
    (d.lines.flatMap Line.chars ++ d.after.flatMap LineEnd.chars))

def insertEntry (t : Table) (e : List String × Option Value) : Table := insertAt e.1 (e.2.getD (.table [])) t

def Document.table (d : Document) : Table := (entriesFrom [] d.lines).foldl insertEntry []

variable {text : List Char} {v : Value}

def Setting.ofValue (path : KeyPath) (h : IsValue (depthLimit - 1) text v) (ending : LineEnd := {}) :
    Setting where
  path
  text
  value := v
  ending
  head := by
    obtain ⟨c, cs, htext, hc⟩ := h.head
    exact ⟨c, cs, htext, isBlank_eq_false (not_mem_layoutChars hc)⟩
  reads rest := h.value _ (closed_lineEnd ending rest)

def Setting.plain (key : String) (hkey : Bare key) (h : IsValue (depthLimit - 1) text v) : Setting :=
  .ofValue (.single (.bare key hkey) oneBlank) h

def Header.plain (name : String) (hname : Bare name) : Header where
  path := .single (.bare name hname)

theorem Setting.chars_plain (key : String) (hkey : Bare key) (h : IsValue (depthLimit - 1) text v) :
    (Setting.plain key hkey h).chars = key.toList ++ ' ' :: '=' :: ' ' :: (text ++ ['\n']) := by
  simp [plain, ofValue, chars, KeyPath.single, KeyPath.chars, stepsChars, Step.chars, Key.bare, noGap,
    oneBlank, LineEnd.chars]

theorem Header.chars_plain (name : String) (hname : Bare name) :
    (Header.plain name hname).chars = '[' :: (name.toList ++ [']', '\n']) := by
  simp [plain, chars, KeyPath.single, KeyPath.chars, stepsChars, Step.chars, Key.bare, noGap, LineEnd.chars]

end Lines

variable {c : Char} {cs more rest : List Char} {r r' next : Reading}

def Reaches (r : Reading) (cs : List Char) (r' : Reading) : Prop :=
  ∀ fuel, cs.length ≤ fuel → r.linesWithin fuel cs = some r'

section Reaching

theorem reaches_nil (r : Reading) : Reaches r [] r := by
  intro fuel _
  cases fuel <;> rfl

theorem Reaches.lineEnd (e : LineEnd) (h : Reaches r rest r') : Reaches r (e.chars ++ rest) r' := by
  intro fuel hfuel
  have hpos := List.length_pos_iff.mpr e.chars_ne_nil
  rw [List.length_append] at hfuel
  obtain ⟨fuel, rfl⟩ := Nat.exists_eq_succ_of_ne_zero (show fuel ≠ 0 by omega)
  rw [Reading.linesWithin, if_neg (by simp [e.chars_ne_nil]), lineEnd?_lineEnd]
  exact h fuel (by omega)

theorem Reaches.lineEnds (es : List LineEnd) (h : Reaches r rest r') :
    Reaches r (es.flatMap LineEnd.chars ++ rest) r' := by
  induction es with
  | nil => exact h
  | cons e es ih =>
    rw [List.flatMap_cons, List.append_assoc]
    exact ih.lineEnd e

theorem Reaches.content {e : LineEnd} (hstart : skipBlanks cs = c :: more) (hc : c ∉ ['#', '\n', '\r'])
    (hline : r.line (c :: more) = some (next, e.chars ++ rest)) (hlength : rest.length < cs.length)
    (h : Reaches next rest r') : Reaches r cs r' := by
  intro fuel hfuel
  obtain ⟨fuel, rfl⟩ := Nat.exists_eq_succ_of_ne_zero (show fuel ≠ 0 by omega)
  simp only [List.mem_cons, List.not_mem_nil, or_false, not_or] at hc
  have hnone : lineEnd? cs = none := by
    rw [lineEnd?, hstart, skipComment_cons hc.1]
    exact lineBreak?_cons hc.2.1 hc.2.2
  have hsome : cs.isEmpty = false := by
    cases cs with
    | nil => cases hstart
    | cons d ds => rfl
  rw [Reading.linesWithin, hsome, hnone, hstart]
  simp only [Bool.false_eq_true, if_false, hline, Option.bind_eq_bind, Option.bind_some, lineEnd?_lineEnd]
  exact h fuel (by omega)

theorem Reaches.setting (s : Setting) (hbind : r.bind s.path.names s.value = some next)
    (h : Reaches next rest r') : Reaches r (s.chars ++ rest) r' := by
  have hchars : s.chars ++ rest =
      s.path.chars ++ '=' :: (s.gap.val ++ (s.text ++ (s.ending.chars ++ rest))) := by
    simp [Setting.chars]
  have hread := binding?_of_value s.path s.gap s.head (s.reads rest)
  obtain ⟨c, cs, hc, hskip⟩ := s.path.head
  rw [← binding?_skipBlanks, hskip] at hread
  rw [hchars]
  refine h.content (e := s.ending) (hskip _) (fun hmem => hc ?_) ?_ ?_
  · have hsub : ['#', '\n', '\r'] ⊆ nonKeyStarts := by simp [nonKeyStarts]
    exact hsub hmem
  · have hbracket : c ≠ '[' := (ne_of_mem_of_not_mem (by decide) hc).symm
    rw [Reading.line.eq_def]
    split
    · next heq => exact absurd (List.cons.inj heq).1 hbracket
    · next heq => exact absurd (List.cons.inj heq).1 hbracket
    · rw [hread]
      simp [hbind]
  · simp only [List.length_append, List.length_cons]
    omega

theorem Reaches.header (h : Header) (hstart : r.startTable h.path.names = some next)
    (hrest : Reaches next rest r') : Reaches r (h.chars ++ rest) r' := by
  have hchars : h.chars ++ rest =
      h.indent.val ++ '[' :: (h.path.chars ++ ']' :: (h.ending.chars ++ rest)) := by
    simp [Header.chars]
  have hbracket : isBlank '[' = false := rfl
  have hread : keyPath? (h.path.chars ++ ']' :: (h.ending.chars ++ rest)) = _ :=
    keyPath?_path h.path (by decide) (by decide) (by decide)
  obtain ⟨c, cs, hc, hskip⟩ := h.path.head
  rw [hchars]
  refine hrest.content (c := '[') (e := h.ending) (by rw [skipBlanks_gap, skipBlanks_cons hbracket])
    (by decide) ?_ ?_
  · rw [Reading.line.eq_def]
    split
    · next heq =>
      -- The path does not start with a bracket of its own.
      have hinner := hskip (']' :: (h.ending.chars ++ rest))
      rw [(List.cons.inj heq).2, skipBlanks_cons hbracket] at hinner
      exact absurd (by rw [← (List.cons.inj hinner).1]; decide) hc
    · next heq =>
      rw [← (List.cons.inj heq).2, hread]
      simp [hstart]
    · next _ hne => exact absurd rfl (hne _)
  · simp only [List.length_append, List.length_cons]
    omega

end Reaching

section Holding
variable {path tables : List String} {key : String} {whole base : OpenTable}

/-- The reading is in the table of a header, which is empty but for settings, at this path of a table. -/
structure Reading.IsWithin (r : Reading) (path : List String) (base : OpenTable) : Prop where
  header : r.current.origin = .header
  dotted : AllDotted r.current
  finish : ∀ t, { r with current := t }.finish = some (adjust .passed path (fun _ => t) base)

def Reading.Holds (r : Reading) (path : List String) (whole : OpenTable) : Prop :=
  ∃ base, r.IsWithin path base ∧ whole = adjust .passed path (fun _ => r.current) base

theorem holds_start : Reading.Holds {} [] (.empty .header) :=
  ⟨.empty .header, ⟨rfl, OpenTable.allDotted_empty _, fun _ => rfl⟩, rfl⟩

theorem Reading.Holds.finish (h : r.Holds path whole) : r.finish = some whole := by
  obtain ⟨base, hwithin, rfl⟩ := h
  exact hwithin.finish r.current

theorem Reading.Holds.bind (h : r.Holds path whole) (hfree : IsFree (path ++ (tables ++ [key])) whole)
    (v : Value) :
    ∃ next, r.bind (tables ++ [key]) v = some next ∧
      next.Holds path (adjust .dotted (path ++ tables) (·.set key (.value v)) whole) := by
  obtain ⟨base, ⟨hheader, hdotted, hfinish⟩, rfl⟩ := h
  have hfree : IsFree (tables ++ [key]) r.current := (OpenTable.isFree_append_adjust (by simp)).mp hfree
  have hdefine := OpenTable.define_of_free hfree hheader hdotted v
  refine ⟨{ r with current := adjust .dotted tables (·.set key (.value v)) r.current }, ?_, base,
    ⟨?_, hdotted.adjust_set tables key v, hfinish⟩, ?_⟩
  · rw [Reading.bind, hdefine]
    rfl
  · exact (OpenTable.origin_adjust_set tables key _ r.current).trans hheader
  · rw [OpenTable.adjust_append, OpenTable.adjust_adjust]

theorem Reading.Holds.startTable (h : r.Holds path whole) (hfree : IsFree (tables ++ [key]) whole) :
    ∃ next, r.startTable (tables ++ [key]) = some next ∧
      next.Holds (tables ++ [key]) (adjust .passed tables (·.set key (.table (.empty .header))) whole) := by
  obtain ⟨root, htake, hput⟩ := OpenTable.takeForHeader_of_free hfree
  refine ⟨{ root, current := .empty .header, path := tables ++ [key] }, ?_, whole, ?_, ?_⟩
  · simp only [Reading.startTable, h.finish, Option.bind_eq_bind, Option.bind_some, htake]
    rfl
  · refine ⟨rfl, OpenTable.allDotted_empty _, fun t => ?_⟩
    rw [← hput t, Reading.finish]
    split
    · next heq => simp at heq
    · rfl
  · rw [OpenTable.adjust_append]
    rfl

theorem isFree_adjust_header {q : List String} (h : IsFree q whole) (hq : ¬ q <+: tables ++ [key]) :
    IsFree q (adjust .passed tables (·.set key (.table (.empty .header))) whole) := by
  refine h.adjust (fun hp => hq (hp.trans (List.prefix_append _ _))) fun s rest hrest heq hs => ?_
  obtain ⟨k, rest, rfl⟩ := List.exists_cons_of_ne_nil hrest
  by_cases hk : k = key
  · subst hk
    refine OpenTable.isFree_set_self.mpr ⟨?_, OpenTable.isFree_empty rest .header⟩
    rintro rfl
    exact hq (heq ▸ List.prefix_refl _)
  · exact (OpenTable.isFree_set_ne hk).mpr hs

theorem KeyPath.exists_concat (p : KeyPath) : ∃ tables key, p.names = tables ++ [key] :=
  (List.eq_nil_or_concat' p.names).resolve_left (by simp [KeyPath.names])

theorem Reaches.before (es : List LineEnd) {front : List Char}
    (h : ∀ rest r', Reaches next rest r' → Reaches r (front ++ rest) r') (rest : List Char) (r' : Reading)
    (hrest : Reaches next rest r') : Reaches r (es.flatMap LineEnd.chars ++ front ++ rest) r' := by
  rw [List.append_assoc]
  exact (h rest r' hrest).lineEnds es

/-- A line at a free path puts its entry into the document, and leaves the paths free that are new behind it. -/
theorem reaches_line (line : Line) (h : r.Holds path whole) (hfree : IsFree (line.entry path).1 whole) :
    ∃ next whole', (∀ rest r', Reaches next rest r' → Reaches r (line.chars ++ rest) r') ∧
      next.Holds (line.pathBehind path) whole' ∧ whole'.close = insertEntry whole.close (line.entry path) ∧
      ∀ e, IsNewBehind (line.entry path) e → IsFree e.1 whole → IsFree e.1 whole' := by
  cases line with
  | header before header =>
    obtain ⟨tables, key, hnames⟩ := header.path.exists_concat
    simp only [Line.entry, Line.pathBehind, Line.chars, hnames] at hfree ⊢
    obtain ⟨next, hstart, hholds⟩ := h.startTable hfree
    rw [← hnames] at hstart
    exact ⟨next, _, Reaches.before before fun rest r' => .header header hstart, hholds,
      OpenTable.close_adjust_set hfree, fun e hnew hfree => isFree_adjust_header hfree hnew.1⟩
  | setting before s =>
    obtain ⟨tables, key, hnames⟩ := s.path.exists_concat
    simp only [Line.entry, Line.pathBehind, Line.chars, hnames] at hfree ⊢
    obtain ⟨next, hbind, hholds⟩ := h.bind hfree s.value
    rw [← hnames] at hbind
    rw [← List.append_assoc] at hfree ⊢
    exact ⟨next, _, Reaches.before before fun rest r' => .setting s hbind, hholds,
      OpenTable.close_adjust_set hfree, fun e hnew hfree => hfree.adjust_set ⟨hnew.2 rfl, hnew.1⟩⟩

theorem reaches_lines (lines : List Line) (h : r.Holds path whole)
    (hfree : ∀ e ∈ entriesFrom path lines, IsFree e.1 whole)
    (hdistinct : (entriesFrom path lines).Pairwise IsNewBehind) :
    ∃ next path' whole', (∀ rest r', Reaches next rest r' → Reaches r (lines.flatMap Line.chars ++ rest) r') ∧
      next.Holds path' whole' ∧ whole'.close = (entriesFrom path lines).foldl insertEntry whole.close := by
  induction lines generalizing r path whole with
  | nil => exact ⟨r, path, whole, fun _ _ hrest => hrest, h, rfl⟩
  | cons line lines ih =>
    rw [entriesFrom, List.pairwise_cons] at hdistinct
    obtain ⟨next, middle, hline, hnext, hentry, hkeeps⟩ :=
      reaches_line line h (hfree _ List.mem_cons_self)
    obtain ⟨last, path', whole', hlines, hlast, hclose⟩ := ih hnext
      (fun e he => hkeeps e (hdistinct.1 e he) (hfree e (List.mem_cons_of_mem _ he))) hdistinct.2
    refine ⟨last, path', whole', fun rest r' hrest => ?_, hlast, ?_⟩
    · rw [List.flatMap_cons, List.append_assoc]
      exact hline _ r' (hlines rest r' hrest)
    · rw [hclose, hentry]
      rfl

end Holding

section Documents

theorem head_ne_mark (hstart : skipBlanks cs = c :: more) (hc : c ≠ '\uFEFF') : cs.head? ≠ some '\uFEFF' := by
  intro hhead
  obtain ⟨rest, rfl⟩ := List.head?_eq_some_iff.mp hhead
  have hblank : isBlank '\uFEFF' = false := by decide
  rw [skipBlanks_cons hblank] at hstart
  exact hc (List.cons.inj hstart).1.symm

theorem head_lineEnds (es : List LineEnd) (hrest : rest.head? ≠ some '\uFEFF') :
    (es.flatMap LineEnd.chars ++ rest).head? ≠ some '\uFEFF' := by
  cases es with
  | nil => exact hrest
  | cons e es =>
    obtain ⟨c, more, hchars, hc, -⟩ := skipComment_lineEnd e (es.flatMap LineEnd.chars ++ rest)
    have hne : c ≠ '\uFEFF' := ne_of_mem_of_not_mem hc (by decide)
    rw [List.flatMap_cons, List.append_assoc]
    exact head_ne_mark (by rw [hchars, skipBlanks_gap, skipBlanks_cons (isBlank_of_mem_enders hc)]) hne

theorem Line.head (line : Line) (rest : List Char) : (line.chars ++ rest).head? ≠ some '\uFEFF' := by
  cases line with
  | header before h =>
    have hblank : isBlank '[' = false := rfl
    rw [Line.chars, List.append_assoc, Header.chars, List.append_assoc, List.cons_append]
    exact head_lineEnds before (head_ne_mark ((skipBlanks_gap _ _).trans (skipBlanks_cons hblank)) (by decide))
  | setting before s =>
    obtain ⟨c, cs, hc, hskip⟩ := s.path.head
    have hne : c ≠ '\uFEFF' := (ne_of_mem_of_not_mem (by decide) hc).symm
    rw [Line.chars, List.append_assoc, Setting.chars, List.append_assoc]
    exact head_lineEnds before (head_ne_mark (hskip _) hne)

theorem read?_of_reaches {t : OpenTable} (mark : Bool) (hmark : cs.head? ≠ some '\uFEFF')
    (hreaches : Reaches {} cs r') (hfinish : r'.finish = some t) :
    read? (String.ofList ((if mark then ['\uFEFF'] else []) ++ cs)) = some t.close := by
  have hdrop : dropMark ((if mark then ['\uFEFF'] else []) ++ cs) = cs := by
    cases mark with
    | true => rfl
    | false =>
      rw [dropMark.eq_def]
      split
      · next heq => exact absurd (by rw [show cs = _ from heq]; rfl) hmark
      · rfl
  have hread := hreaches _ (Nat.le_succ cs.length)
  rw [read?, String.toList_ofList, hdrop]
  simp [hread, hfinish]

/-- A document is read as the table of its entries, in their order. -/
theorem Document.read?_text (d : Document) : read? d.text = some d.table := by
  obtain ⟨next, path, whole, hlines, hholds, hclose⟩ := reaches_lines d.lines holds_start
    (fun e _ => OpenTable.isFree_empty e.1 .header) d.distinct
  have hafter : Reaches next (d.after.flatMap LineEnd.chars) next := by
    have hnil := (reaches_nil next).lineEnds d.after
    rwa [List.append_nil] at hnil
  have hmark : (d.lines.flatMap Line.chars ++ d.after.flatMap LineEnd.chars).head? ≠ some '\uFEFF' := by
    cases d.lines with
    | nil =>
      have hnone : ([] : List Char).head? ≠ some '\uFEFF' := by simp
      simpa using head_lineEnds d.after hnone
    | cons line lines =>
      rw [List.flatMap_cons, List.append_assoc]
      exact line.head _
  rw [Document.text, read?_of_reaches d.hasMark hmark (hlines _ _ hafter) hholds.finish, hclose]
  rfl

end Documents

end HidAccess.Toml
