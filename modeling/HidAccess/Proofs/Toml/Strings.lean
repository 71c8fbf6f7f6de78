import HidAccess.Toml.Printer
import HidAccess.Toml.Text

/-! A text is read back from each of the four forms of a string that may hold it. -/

namespace HidAccess.Toml

inductive Escape (lines : Bool) (c : Char) : List Char → Prop where
  | letter (he : letterEscape? e = some c) : Escape lines c ['\\', e]
  | lineFeed (hlines : lines = true) (hc : c = '\n') : Escape lines c ['\n']
  | unit (hx : hexScalar? ['0', '0', a, b] = some c) : Escape lines c ['\\', 'u', '0', '0', a, b]
  | plain (hslash : c ≠ '\\') (hc : isPlainChar c = true) : Escape lines c [c]

variable {c e : Char} {cs rest : List Char} {run : Nat}

-- The equations of both are made here, once, and not in the proofs that use them.
attribute [grind] basicLines? literalLines?

section Characters

theorem isPlainChar_of_not_isControl (hc : isControl c = false) (hbreak : c ≠ '\n') :
    isPlainChar c = true := by
  by_cases htab : c = '\t'
  · simp [isPlainChar, htab]
  · simp only [isControl, Bool.and_eq_false_iff, Bool.or_eq_false_iff, bne_eq_false_iff_eq, htab,
      hbreak, false_or, decide_eq_false_iff_not, beq_eq_false_iff_ne] at hc
    simp [isPlainChar, hc.2, Nat.le_of_not_lt hc.1]

theorem hexScalar?_upperHex (hc : isControl c = true) :
    hexScalar? ('0' :: '0' :: upperHex c) = some c := by
  have hall : ∀ n < 0x80, isControl (Char.ofNat n) = true →
      hexScalar? ('0' :: '0' :: upperHex (Char.ofNat n)) = some (Char.ofNat n) := by decide
  have hsmall : c.toNat < 0x80 := by
    simp only [isControl, Bool.and_eq_true, Bool.or_eq_true, decide_eq_true_eq, beq_iff_eq] at hc
    omega
  have hread := hall c.toNat hsmall
  rw [Char.ofNat_toNat] at hread
  exact hread hc

theorem escape_escaped (lines : Bool) (c : Char) : Escape lines c (escaped lines c) := by
  unfold escaped
  split
  · next hc => subst hc; exact .letter rfl
  split
  · next hc => subst hc; exact .letter rfl
  split
  · next hc =>
    subst hc
    cases lines
    · exact .letter rfl
    · exact .lineFeed rfl rfl
  split
  · next hc => subst hc; exact .letter rfl
  split
  · next hc => subst hc; exact .letter rfl
  split
  · next hc => subst hc; exact .letter rfl
  split
  · next hc => exact .unit (hexScalar?_upperHex hc)
  · next hbreak _ _ hslash hc =>
    exact .plain hslash (isPlainChar_of_not_isControl (Bool.eq_false_iff.mpr hc) hbreak)

/-- A form with escapes begins with a quote only where that stands unescaped, and with the end of a
line only where the text does. -/
theorem head_escapedText (lines : Bool) (allowed run : Nat) (c : Char) (cs : List Char)
    (h : c = '"' → allowed ≤ run) :
    ∃ x front, escapedText lines allowed run (c :: cs) = x :: front ∧
      x ≠ '"' ∧ (c ≠ '\n' → isPlainChar x = true) := by
  by_cases hquote : c = '"'
  · refine ⟨'\\', '"' :: escapedText lines allowed 0 cs, ?_, by decide, fun _ => by decide⟩
    rw [escapedText, if_pos hquote, if_neg (Nat.not_lt.mpr (h hquote))]
  · rw [escapedText, if_neg hquote]
    have hescape := escape_escaped lines c
    generalize escaped lines c = front at hescape ⊢
    rcases hescape with ⟨-⟩ | ⟨-, hc⟩ | ⟨-⟩ | ⟨-, hc⟩
    · exact ⟨'\\', _, rfl, by decide, fun _ => by decide⟩
    · exact ⟨'\n', _, rfl, by decide, fun hne => absurd hc hne⟩
    · exact ⟨'\\', _, rfl, by decide, fun _ => by decide⟩
    · exact ⟨c, _, rfl, hquote, fun _ => hc⟩

end Characters

section Basic

theorem basic?_letter (he : letterEscape? e = some c) :
    basic? ('\\' :: e :: rest) = (basic? rest).map (push c) := by
  rw [basic?.eq_def]
  split
  · contradiction
  · simp_all
  · simp_all [letterEscape?]
  · simp_all [letterEscape?]
  · rename_i heq
    simp only [List.cons.injEq, true_and] at heq
    obtain ⟨rfl, rfl⟩ := heq
    rw [he]
    cases basic? _ <;> rfl
  · rename_i hpair heq
    obtain ⟨hslash, htail⟩ := List.cons.inj heq
    exact absurd htail.symm (hpair e rest hslash.symm)

theorem basic?_plain (hquote : c ≠ '"') (hslash : c ≠ '\\') (hc : isPlainChar c = true) :
    basic? (c :: rest) = (basic? rest).map (push c) := by
  rw [basic?.eq_def]
  split
  · contradiction
  · simp_all
  · simp_all
  · simp_all
  · simp_all
  · rename_i heq
    obtain ⟨rfl, rfl⟩ := List.cons.inj heq
    simp only [beq_iff_eq, hslash, hc, Bool.not_true, Bool.or_false, if_false]
    cases basic? _ <;> rfl

theorem basic?_escaped (hquote : c ≠ '"') :
    basic? (escaped false c ++ rest) = (basic? rest).map (push c) := by
  have hescape := escape_escaped false c
  generalize escaped false c = front at hescape ⊢
  rcases hescape with ⟨he⟩ | ⟨hlines, -⟩ | ⟨hx⟩ | ⟨hslash, hc⟩
  · exact basic?_letter he
  · exact absurd hlines (by decide)
  · simp only [List.cons_append, List.nil_append, basic?, hx]
    cases basic? rest <;> rfl
  · exact basic?_plain hquote hslash hc

theorem basic?_escapedText (cs rest : List Char) :
    basic? (escapedText false 0 run cs ++ '"' :: rest) = some (cs, rest) := by
  induction cs generalizing run with
  | nil => simp [escapedText, basic?]
  | cons c cs ih =>
    by_cases hquote : c = '"'
    · have hletter : letterEscape? '"' = some '"' := rfl
      simp [escapedText, hquote, basic?_letter hletter, ih, push]
    · simp [escapedText, hquote, List.append_assoc, basic?_escaped hquote, ih, push]

end Basic

section Literal

theorem literal?_plain (hquote : c ≠ '\'') (hc : isPlainChar c = true) :
    literal? (c :: rest) = (literal? rest).map (push c) := by
  rw [literal?.eq_def]
  split
  · contradiction
  · simp_all
  · rename_i heq
    obtain ⟨rfl, rfl⟩ := List.cons.inj heq
    simp only [hc, Bool.not_true, Bool.false_eq_true, if_false]
    cases literal? _ <;> rfl

theorem literal?_text (hcs : ∀ c ∈ cs, c ≠ '\'' ∧ isPlainChar c = true) :
    literal? (cs ++ '\'' :: rest) = some (cs, rest) := by
  induction cs with
  | nil => simp [literal?]
  | cons c cs ih =>
    obtain ⟨hquote, hc⟩ := hcs c List.mem_cons_self
    rw [List.cons_append, literal?_plain hquote hc, ih fun d hd => hcs d (List.mem_cons_of_mem c hd)]
    rfl

end Literal

section BasicLines

theorem ne_of_letter {d : Char} (he : letterEscape? e = some c) (hd : letterEscape? d = none) :
    e ≠ d := by
  rintro rfl
  exact Option.some_ne_none c (he.symm.trans hd)

theorem not_atLineEnd (he : letterEscape? e = some c) : atLineEnd (e :: rest) = false := by
  have hblank : isBlank e = false := by
    simp [isBlank, ne_of_letter (d := ' ') he rfl, ne_of_letter (d := '\t') he rfl]
  rw [atLineEnd, skipBlanks, List.dropWhile_cons, hblank]
  simp only [Bool.false_eq_true, if_false]
  unfold lineBreak?
  split
  · next heq => exact absurd (List.cons.inj heq).1 (ne_of_letter he rfl)
  · next heq => exact absurd (List.cons.inj heq).1 (ne_of_letter he rfl)
  · rfl

theorem basicLines?_letter (he : letterEscape? e = some c) :
    basicLines? false ('\\' :: e :: rest) = (basicLines? false rest).map (push c) := by
  have hu := ne_of_letter (d := 'u') he rfl
  have hU := ne_of_letter (d := 'U') he rfl
  rw [basicLines?.eq_def]
  split
  case h_10 heq =>
    obtain ⟨rfl, rfl⟩ := List.cons.inj heq
    simp only [beq_self_eq_true, if_true, not_atLineEnd he, Bool.false_eq_true, if_false, he]
    cases basicLines? false rest <;> rfl
  all_goals simp_all

theorem basicLines?_plain (hquote : c ≠ '"') (hslash : c ≠ '\\') (hc : isPlainChar c = true) :
    basicLines? false (c :: rest) = (basicLines? false rest).map (push c) := by
  have hbreak : c ≠ '\n' := ne_of_apply_ne isPlainChar (by rw [hc]; decide)
  have hreturn : c ≠ '\r' := ne_of_apply_ne isPlainChar (by rw [hc]; decide)
  rw [basicLines?.eq_def]
  split
  case h_10 heq =>
    obtain ⟨rfl, rfl⟩ := List.cons.inj heq
    simp only [beq_iff_eq, hslash, if_false, Bool.false_and, Bool.false_eq_true, hc, if_true]
    cases basicLines? false rest <;> rfl
  all_goals simp_all

theorem basicLines?_quote (hrest : ∀ more, rest ≠ '"' :: '"' :: more) :
    basicLines? false ('"' :: rest) = (basicLines? false rest).map (push '"') := by
  rw [basicLines?.eq_def]
  split
  case h_5 heq =>
    obtain ⟨-, rfl⟩ := List.cons.inj heq
    cases basicLines? false rest <;> rfl
  case h_10 heq =>
    obtain ⟨rfl, rfl⟩ := List.cons.inj heq
    contradiction
  all_goals simp_all

theorem basicLines?_lineFeed :
    basicLines? false ('\n' :: rest) = (basicLines? false rest).map (push '\n') := by
  rw [basicLines?]
  cases basicLines? false rest <;> rfl

theorem basicLines?_unit {a b : Char} (hx : hexScalar? ['0', '0', a, b] = some c) :
    basicLines? false ('\\' :: 'u' :: '0' :: '0' :: a :: b :: rest) =
      (basicLines? false rest).map (push c) := by
  rw [basicLines?, hx]
  cases basicLines? false rest <;> rfl

theorem basicLines?_escaped (hquote : c ≠ '"') :
    basicLines? false (escaped true c ++ rest) = (basicLines? false rest).map (push c) := by
  have hescape := escape_escaped true c
  generalize escaped true c = front at hescape ⊢
  rcases hescape with ⟨he⟩ | ⟨-, hc⟩ | ⟨hx⟩ | ⟨hslash, hc⟩
  · exact basicLines?_letter he
  · rw [hc]
    exact basicLines?_lineFeed
  · exact basicLines?_unit hx
  · exact basicLines?_plain hquote hslash hc

theorem basicLines?_closing (hrest : rest.head? ≠ some '"') :
    basicLines? false ('"' :: '"' :: '"' :: rest) = some ([], rest) ∧
    basicLines? false ('"' :: '"' :: '"' :: '"' :: rest) = some (['"'], rest) ∧
    basicLines? false ('"' :: '"' :: '"' :: '"' :: '"' :: rest) = some (['"', '"'], rest) := by
  have hne : ∀ more, rest ≠ '"' :: more := by
    rintro more rfl
    exact hrest rfl
  refine ⟨?_, ?_, rfl⟩
  · rw [basicLines?]
    · exact fun more heq => hne _ heq
    · exact fun more heq => hne _ heq
  · rw [basicLines?]
    exact hne

theorem not_two_quotes {d : Char} (hrun : 1 ≤ run) (hend : ¬ (d = '"' ∧ run < 2 ∧ cs = []))
    (more : List Char) : escapedText true 2 run (d :: cs) ++ rest ≠ '"' :: '"' :: more := by
  intro heq
  by_cases hd : d = '"' ∧ run < 2
  · rcases cs with _ | ⟨x, cs⟩
    · exact hend ⟨hd.1, hd.2, rfl⟩
    · obtain ⟨y, front, hfront, hy, -⟩ :=
        head_escapedText true 2 (run + 1) x cs fun _ => by omega
      rw [escapedText, if_pos hd.1, if_pos hd.2, hfront] at heq
      simp only [List.cons_append, List.cons.injEq, true_and] at heq
      exact hy heq.1
  · obtain ⟨y, front, hfront, hy, -⟩ := head_escapedText true 2 run d cs fun hquote => by
      exact Nat.le_of_not_lt fun hlt => hd ⟨hquote, hlt⟩
    rw [hfront] at heq
    exact hy (List.cons.inj heq).1

theorem basicLines?_escapedText (hrest : rest.head? ≠ some '"') (cs : List Char) :
    basicLines? false (escapedText true 2 run cs ++ '"' :: '"' :: '"' :: rest) = some (cs, rest) := by
  obtain ⟨hnone, hone, htwo⟩ := basicLines?_closing hrest
  induction cs generalizing run with
  | nil => exact hnone
  | cons c cs ih =>
    by_cases hquote : c = '"'
    · subst hquote
      by_cases hrun : run < 2
      · have hkept :
            escapedText true 2 run ('"' :: cs) = '"' :: escapedText true 2 (run + 1) cs := by
          rw [escapedText, if_pos rfl, if_pos hrun]
        rw [hkept, List.cons_append]
        -- The quotes that end the text are read together with the closing ones, all others alone.
        rcases cs with _ | ⟨d, cs⟩
        · exact hone
        · by_cases hend : d = '"' ∧ run + 1 < 2 ∧ cs = []
          · obtain ⟨rfl, hrun', rfl⟩ := hend
            rw [escapedText, if_pos rfl, if_pos hrun']
            exact htwo
          · rw [basicLines?_quote (not_two_quotes (Nat.le_add_left 1 run) hend), ih]
            rfl
      · have hletter : letterEscape? '"' = some '"' := rfl
        simp [escapedText, hrun, basicLines?_letter hletter, ih, push]
    · simp [escapedText, hquote, List.append_assoc, basicLines?_escaped hquote, ih, push]

end BasicLines

section LiteralLines

theorem le_longestRun (c : Char) (run : Nat) (cs : List Char) : run ≤ longestRun c run cs := by
  induction cs generalizing run with
  | nil => exact Nat.le_refl run
  | cons x xs ih =>
    rw [longestRun]
    split
    · exact Nat.le_of_succ_le (ih (run + 1))
    · exact Nat.le_max_left _ _

theorem longestRun_same : longestRun c run (c :: cs) = longestRun c (run + 1) cs := by
  rw [longestRun, if_pos (beq_self_eq_true c)]

theorem longestRun_other {x : Char} (hx : x ≠ c) :
    longestRun c run (x :: cs) = max run (longestRun c 0 cs) := by
  rw [longestRun, if_neg (by simpa using hx)]

theorem literalLines?_plain (hquote : c ≠ '\'') (hc : isPlainChar c = true) :
    literalLines? (c :: rest) = (literalLines? rest).map (push c) := by
  have hbreak : c ≠ '\n' := ne_of_apply_ne isPlainChar (by rw [hc]; decide)
  have hreturn : c ≠ '\r' := ne_of_apply_ne isPlainChar (by rw [hc]; decide)
  rw [literalLines?.eq_def]
  split
  case h_7 heq =>
    obtain ⟨rfl, rfl⟩ := List.cons.inj heq
    simp only [hc, Bool.not_true, Bool.false_eq_true, if_false]
    cases literalLines? rest <;> rfl
  all_goals simp_all

theorem literalLines?_quote (hrest : ∀ more, rest ≠ '\'' :: '\'' :: more) :
    literalLines? ('\'' :: rest) = (literalLines? rest).map (push '\'') := by
  rw [literalLines?.eq_def]
  split
  case h_7 heq =>
    obtain ⟨rfl, rfl⟩ := List.cons.inj heq
    cases literalLines? rest <;> rfl
  all_goals simp_all

theorem literalLines?_lineFeed :
    literalLines? ('\n' :: rest) = (literalLines? rest).map (push '\n') := by
  rw [literalLines?]
  cases literalLines? rest <;> rfl

theorem literalLines?_closing (hrest : rest.head? ≠ some '\'') :
    literalLines? ('\'' :: '\'' :: '\'' :: rest) = some ([], rest) ∧
    literalLines? ('\'' :: '\'' :: '\'' :: '\'' :: rest) = some (['\''], rest) ∧
    literalLines? ('\'' :: '\'' :: '\'' :: '\'' :: '\'' :: rest) = some (['\'', '\''], rest) := by
  have hne : ∀ more, rest ≠ '\'' :: more := by
    rintro more rfl
    exact hrest rfl
  refine ⟨?_, ?_, rfl⟩
  · rw [literalLines?]
    · exact fun more heq => hne _ heq
    · exact fun more heq => hne _ heq
  · rw [literalLines?]
    exact hne

/-- There are never three apostrophes in a row, so after one two more begin the rest only at its
end. -/
theorem not_two_apostrophes {d : Char} (hpos : 1 ≤ run) (hrun : longestRun '\'' run (d :: cs) ≤ 2)
    (hend : ¬ (d = '\'' ∧ cs = [])) (more : List Char) : d :: cs ++ rest ≠ '\'' :: '\'' :: more := by
  intro heq
  rcases cs with _ | ⟨x, cs⟩
  · exact hend ⟨(List.cons.inj heq).1, rfl⟩
  · simp only [List.cons_append, List.cons.injEq] at heq
    rw [heq.1, heq.2.1, longestRun_same, longestRun_same] at hrun
    have hthree := le_longestRun '\'' (run + 1 + 1) cs
    omega

theorem literalLines?_text (hrest : rest.head? ≠ some '\'') (hrun : longestRun '\'' run cs ≤ 2)
    (hcs : ∀ c ∈ cs, isControl c = false) :
    literalLines? (cs ++ '\'' :: '\'' :: '\'' :: rest) = some (cs, rest) := by
  obtain ⟨hnone, hone, htwo⟩ := literalLines?_closing hrest
  induction cs generalizing run with
  | nil => exact hnone
  | cons c cs ih =>
    have hcs' : ∀ c ∈ cs, isControl c = false := fun d hd => hcs d (List.mem_cons_of_mem c hd)
    by_cases hquote : c = '\''
    · subst hquote
      rw [longestRun_same] at hrun
      have hnext := ih hrun hcs'
      rcases cs with _ | ⟨d, cs⟩
      · exact hone
      · by_cases hend : d = '\'' ∧ cs = []
        · obtain ⟨rfl, rfl⟩ := hend
          exact htwo
        · have hpos : 1 ≤ run + 1 := Nat.le_add_left 1 run
          rw [List.cons_append, literalLines?_quote (not_two_apostrophes hpos hrun hend), hnext]
          rfl
    · rw [longestRun_other hquote] at hrun
      have hnext := ih (Nat.le_trans (Nat.le_max_right _ _) hrun) hcs'
      rw [List.cons_append]
      by_cases hbreak : c = '\n'
      · rw [hbreak, literalLines?_lineFeed, hnext]
        rfl
      · have hplain := isPlainChar_of_not_isControl (hcs c List.mem_cons_self) hbreak
        rw [literalLines?_plain hquote hplain, hnext]
        rfl

end LiteralLines

section Forms

def Unquoted (rest : List Char) : Prop := rest.head? ≠ some '"' ∧ rest.head? ≠ some '\''

theorem string?_basic (h : ∀ more, rest ≠ '"' :: '"' :: more) :
    string? ('"' :: rest) = basic? rest := by
  rw [string?.eq_def]
  split
  case h_2 heq => rw [(List.cons.inj heq).2]
  all_goals simp_all

theorem string?_literal (h : ∀ more, rest ≠ '\'' :: '\'' :: more) :
    string? ('\'' :: rest) = literal? rest := by
  rw [string?.eq_def]
  split
  case h_4 heq => rw [(List.cons.inj heq).2]
  all_goals simp_all

theorem basic_read (hrest : Unquoted rest) (cs : List Char) :
    string? (StringForm.basic.chars cs ++ rest) = some (cs, rest) := by
  have hchars : StringForm.basic.chars cs ++ rest =
      '"' :: (escapedText false 0 0 cs ++ '"' :: rest) := by
    simp [StringForm.chars]
  rw [hchars, string?_basic, basic?_escapedText]
  intro more heq
  rcases cs with _ | ⟨c, cs⟩
  · have hhead : rest.head? = some '"' := by
      rw [escapedText, List.nil_append, List.cons.injEq] at heq
      rw [heq.2, List.head?_cons]
    exact hrest.1 hhead
  · obtain ⟨x, front, hfront, hx, -⟩ := head_escapedText false 0 0 c cs fun _ => Nat.le_refl 0
    rw [hfront] at heq
    exact hx (List.cons.inj heq).1

theorem literal_read (hrest : Unquoted rest)
    (hcs : ∀ c ∈ cs, c ≠ '\'' ∧ isPlainChar c = true) :
    string? (StringForm.literal.chars cs ++ rest) = some (cs, rest) := by
  have hchars : StringForm.literal.chars cs ++ rest = '\'' :: (cs ++ '\'' :: rest) := by
    simp [StringForm.chars]
  rw [hchars, string?_literal, literal?_text hcs]
  intro more heq
  rcases cs with _ | ⟨c, cs⟩
  · have hhead : rest.head? = some '\'' := by
      rw [List.nil_append, List.cons.injEq] at heq
      rw [heq.2, List.head?_cons]
    exact hrest.2 hhead
  · exact (hcs c List.mem_cons_self).1 (List.cons.inj heq).1

theorem lineBreak?_of_isPlainChar (hc : isPlainChar c = true) : lineBreak? (c :: rest) = none := by
  have hbreak : c ≠ '\n' := ne_of_apply_ne isPlainChar (by rw [hc]; decide)
  have hreturn : c ≠ '\r' := ne_of_apply_ne isPlainChar (by rw [hc]; decide)
  unfold lineBreak?
  split
  · next heq => exact absurd (List.cons.inj heq).1 hbreak
  · next heq => exact absurd (List.cons.inj heq).1 hreturn
  · rfl

/-- A form over several lines starts with a line end of its own where the text could be taken for
one. -/
theorem dropLineBreak_leadingBreak
    (h : '\n' ∉ cs → ∃ c more, rest = c :: more ∧ isPlainChar c = true) :
    dropLineBreak (leadingBreak cs ++ rest) = rest := by
  by_cases hbreak : '\n' ∈ cs
  · simp [leadingBreak, hbreak, dropLineBreak, lineBreak?]
  · obtain ⟨c, more, rfl, hc⟩ := h hbreak
    simp [leadingBreak, hbreak, dropLineBreak, lineBreak?_of_isPlainChar hc]

theorem basicLines_read (hrest : Unquoted rest) (cs : List Char) :
    string? (StringForm.basicLines.chars cs ++ rest) = some (cs, rest) := by
  have hchars : StringForm.basicLines.chars cs ++ rest = '"' :: '"' :: '"' ::
      (leadingBreak cs ++ (escapedText true 2 0 cs ++ '"' :: '"' :: '"' :: rest)) := by
    simp [StringForm.chars]
  rw [hchars, string?, dropLineBreak_leadingBreak, basicLines?_escapedText hrest.1]
  intro hbreak
  rcases cs with _ | ⟨c, cs⟩
  · exact ⟨'"', _, rfl, by decide⟩
  · by_cases hquote : c = '"'
    · refine ⟨'"', escapedText true 2 1 cs ++ '"' :: '"' :: '"' :: rest, ?_, by decide⟩
      rw [hquote, escapedText, if_pos rfl, if_pos (by decide), List.cons_append]
    · obtain ⟨x, front, hfront, -, hx⟩ :=
        head_escapedText true 2 0 c cs fun heq => absurd heq hquote
      refine ⟨x, front ++ '"' :: '"' :: '"' :: rest, ?_, hx ?_⟩
      · rw [hfront, List.cons_append]
      · rintro rfl
        exact hbreak List.mem_cons_self

theorem literalLines_read (hrest : Unquoted rest) (hrun : longestRun '\'' 0 cs ≤ 2)
    (hcs : ∀ c ∈ cs, isControl c = false) :
    string? (StringForm.literalLines.chars cs ++ rest) = some (cs, rest) := by
  have hchars : StringForm.literalLines.chars cs ++ rest = '\'' :: '\'' :: '\'' ::
      (leadingBreak cs ++ (cs ++ '\'' :: '\'' :: '\'' :: rest)) := by
    simp [StringForm.chars]
  rw [hchars, string?, dropLineBreak_leadingBreak, literalLines?_text hrest.2 hrun hcs]
  intro hbreak
  rcases cs with _ | ⟨c, cs⟩
  · exact ⟨'\'', _, rfl, by decide⟩
  · have hne : c ≠ '\n' := fun heq => hbreak (heq ▸ List.mem_cons_self)
    exact ⟨c, _, rfl, isPlainChar_of_not_isControl (hcs c List.mem_cons_self) hne⟩

/-- Whatever form is chosen for a text, the text is read back and what follows is left. -/
theorem string?_chosen (hrest : Unquoted rest) (cs : List Char) :
    string? ((StringForm.of cs).chars cs ++ rest) = some (cs, rest) := by
  have hcontrols (h : cs.any isControl = false) : ∀ c ∈ cs, isControl c = false := by
    simpa using h
  rw [StringForm.of]
  split
  · exact basic_read hrest cs
  split
  · next h =>
    simp only [Bool.and_eq_true, Bool.not_eq_true', List.contains_eq_mem,
      decide_eq_false_iff_not] at h
    apply literal_read hrest
    intro c hc
    refine ⟨?_, isPlainChar_of_not_isControl (hcontrols h.1.1 c hc) ?_⟩
    · rintro rfl
      exact h.1.2 hc
    · rintro rfl
      exact h.2 hc
  split
  · exact basicLines_read hrest cs
  split
  · next h =>
    simp only [Bool.and_eq_true, Bool.not_eq_true', decide_eq_true_eq] at h
    exact literalLines_read hrest h.2 (hcontrols h.1)
  split
  · exact basicLines_read hrest cs
  · exact basic_read hrest cs

theorem string?_stringText (hrest : Unquoted rest) (s : String) :
    string? ((stringText s).toList ++ rest) = some (s.toList, rest) := by
  rw [stringText, String.toList_ofList]
  exact string?_chosen hrest s.toList

end Forms

end HidAccess.Toml
