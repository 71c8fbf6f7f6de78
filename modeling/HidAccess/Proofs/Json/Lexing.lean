import HidAccess.Json.Printer
import HidAccess.Json.Lexer
import HidAccess.Proofs.Text.Numeral
import HidAccess.Proofs.Text.Utf16
import Mathlib.Data.List.TakeDrop

/-! Printed tokens are read back from any text that spells them, with blanks where it likes. -/

namespace HidAccess.Json

def Stops (cs : List Char) : Prop := ∀ c ∈ cs.head?, c.isDigit = false ∧ c ∉ ['.', 'e', 'E']

/-- A text that spells these tokens. Blanks may stand between them, and what would go on a number may
not stand right behind one. -/
inductive Spells : List Char → List Token → Prop where
  | nil : Spells [] []
  | blank (hc : isBlank c = true) (h : Spells cs ts) : Spells (c :: cs) ts
  | token (hstop : ∀ n, t = .number n → Stops cs) (h : Spells cs ts) :
    Spells (t.chars ++ cs) (t :: ts)

variable {c : Char} {cs rest ds : List Char} {t : Token} {ts : List Token} {n fuel : Nat}

section Strings

theorem hexUnit?_hexDigits (hn : n < 0x100) :
    hexUnit? '0' '0' (Nat.digitChar (n / 16)) (Nat.digitChar (n % 16)) = some n := by
  have hhigh := Text.Numeral.digit?_digitChar (show n / 16 < 16 by omega) (Nat.le_refl 16)
  have hlow := Text.Numeral.digit?_digitChar (show n % 16 < 16 by omega) (Nat.le_refl 16)
  have hzero : Text.Numeral.digit? 16 '0' = some 0 := by decide
  simp only [hexUnit?, Text.Numeral.digits?, Text.Numeral.continue?, hzero, hhigh, hlow,
    Option.some.injEq]
  omega

/-- What reading the rest of a string gives behind one more character. -/
def behind (c : Char) (read : Option (List Nat × List Char)) : Option (List Nat × List Char) :=
  read.map fun r => (Text.Utf16.encodeChar c ++ r.1, r.2)

theorem stringUnits?_control (hc : c.toNat < 0x20) :
    stringUnits? ('\\' :: 'u' :: '0' :: '0' :: (hexDigits c.toNat ++ rest)) =
      behind c (stringUnits? rest) := by
  have hunits : Text.Utf16.encodeChar c = [c.toNat] := by
    rw [Text.Utf16.encodeChar, if_pos (by omega)]
  simp only [hexDigits, List.cons_append, List.nil_append, stringUnits?,
    hexUnit?_hexDigits (show c.toNat < 0x100 by omega), behind, hunits]
  cases stringUnits? rest <;> rfl

theorem stringUnits?_plain (hquote : c ≠ '"') (hslash : c ≠ '\\') (hc : ¬ c.toNat < 0x20) :
    stringUnits? (c :: rest) = behind c (stringUnits? rest) := by
  rw [stringUnits?.eq_def]
  split
  · contradiction
  · simp_all
  · simp_all
  · simp_all
  · rename_i heq
    obtain ⟨rfl, rfl⟩ := List.cons.inj heq
    simp only [beq_iff_eq, hslash, hc, decide_false, Bool.or_false, if_false, behind]
    cases stringUnits? _ <;> rfl

theorem stringUnits?_letter {e : Char} (he : letterEscape? e = some c) :
    stringUnits? ('\\' :: e :: rest) = behind c (stringUnits? rest) := by
  rw [stringUnits?.eq_def]
  split
  · contradiction
  · simp_all
  · simp_all [letterEscape?]
  · rename_i heq
    simp only [List.cons.injEq, true_and] at heq
    obtain ⟨rfl, rfl⟩ := heq
    simp only [he, behind]
    cases stringUnits? _ <;> rfl
  · rename_i hpair heq
    obtain ⟨hslash, htail⟩ := List.cons.inj heq
    exact absurd htail.symm (hpair e rest hslash.symm)

theorem stringUnits?_escapeChar (c : Char) (rest : List Char) :
    stringUnits? (escapeChar c ++ rest) = behind c (stringUnits? rest) := by
  unfold escapeChar
  split
  · next hc => subst hc; exact stringUnits?_letter rfl
  split
  · next hc => subst hc; exact stringUnits?_letter rfl
  split
  · next hc => subst hc; exact stringUnits?_letter rfl
  split
  · next hc => subst hc; exact stringUnits?_letter rfl
  split
  · next hc => subst hc; exact stringUnits?_letter rfl
  split
  · next hc => subst hc; exact stringUnits?_letter rfl
  split
  · next hc => subst hc; exact stringUnits?_letter rfl
  split
  · next hc => exact stringUnits?_control hc
  · next hquote hslash _ _ _ _ _ hc => exact stringUnits?_plain hquote hslash hc

theorem stringUnits?_flatMap (cs rest : List Char) :
    stringUnits? (cs.flatMap escapeChar ++ '"' :: rest) =
      some (cs.flatMap Text.Utf16.encodeChar, rest) := by
  induction cs with
  | nil => simp [stringUnits?]
  | cons c cs ih =>
    rw [List.flatMap_cons, List.append_assoc, stringUnits?_escapeChar, ih]
    rfl

theorem token?_quote (cs : List Char) : token? ('"' :: cs) =
    (stringUnits? cs).map fun r => (.string (Text.Utf16.decode? r.1), r.2) := by
  simp only [token?]
  cases stringUnits? cs <;> rfl

theorem token?_loneSurrogate (rest : List Char) :
    token? (stringChars none ++ rest) = some (.string none, rest) := by
  have hchars : stringChars none = ['"', '\\', 'u', 'd', '8', '0', '0', '"'] := by decide
  have hunit : hexUnit? 'd' '8' '0' '0' = some 0xD800 := by decide
  have hlone : Text.Utf16.decode? [0xD800] = none := by decide
  simp [hchars, token?_quote, stringUnits?, hunit, hlone]

theorem token?_text (s : String) (rest : List Char) :
    token? (stringChars (some s) ++ rest) = some (.string (some s), rest) := by
  have hchars : stringChars (some s) ++ rest =
      '"' :: (s.toList.flatMap escapeChar ++ '"' :: rest) := by
    rw [← List.singleton_append (l := rest), ← List.append_assoc]
    rfl
  have hs : Text.Utf16.decode? (s.toList.flatMap Text.Utf16.encodeChar) = some s :=
    Text.Utf16.decode?_encode s
  rw [hchars, token?_quote, stringUnits?_flatMap, Option.map_some, hs]

end Strings

section Numbers

theorem isDigit_of_mem_toDigits (hc : c ∈ Nat.toDigits 10 n) : c.isDigit = true :=
  Nat.isDigit_of_mem_toDigits (by decide) (by decide) hc

theorem digits_append (hds : ∀ c ∈ ds, c.isDigit = true)
    (hrest : ∀ c ∈ rest.head?, c.isDigit = false) :
    digits (ds ++ rest) = (ds, rest) := by
  have htail : rest.span Char.isDigit = ([], rest) := by
    rcases rest with _ | ⟨c, rest⟩
    · rfl
    · simp [List.span_eq_takeWhile_dropWhile, hrest c rfl]
  rw [List.span_eq_takeWhile_dropWhile, Prod.mk.injEq] at htail
  rw [digits, List.span_eq_takeWhile_dropWhile, List.takeWhile_append_of_pos hds,
    List.dropWhile_append_of_pos hds, htail.1, htail.2, List.append_nil]

theorem fraction?_of_stops (hrest : Stops rest) : fraction? rest = some (false, rest) := by
  unfold fraction?
  split
  · exact absurd (hrest '.' rfl).2 (by decide)
  · rfl

theorem exponent?_of_stops (hrest : Stops rest) : exponent? rest = some (false, rest) := by
  rcases rest with _ | ⟨c, rest⟩
  · rfl
  · have hc := (hrest c rfl).2
    simp only [List.mem_cons, not_or] at hc
    simp [exponent?, hc]

theorem fraction?_zero (hrest : Stops rest) : fraction? ('.' :: '0' :: rest) = some (true, rest) := by
  have hdigits : digits (['0'] ++ rest) = (['0'], rest) :=
    digits_append (List.forall_mem_singleton.mpr rfl) fun c hc => (hrest c hc).1
  rw [List.singleton_append] at hdigits
  simp [fraction?, hdigits]

theorem unsigned?_numberChars (negative integral : Bool) (whole : Nat) (hrest : Stops rest) :
    unsigned? negative (Nat.toDigits 10 whole ++ ((if integral then [] else ['.', '0']) ++ rest)) =
      some (⟨negative, whole, integral⟩, rest) := by
  have hvalue : Text.Numeral.digits? 10 (Nat.toDigits 10 whole) = some whole :=
    Text.Numeral.digits?_padded (by decide) (by decide) 0 whole
  have hzero := Text.Numeral.no_leading_zero (show 1 < 10 by decide) whole
  have hdigits : digits (Nat.toDigits 10 whole ++ ((if integral then [] else ['.', '0']) ++ rest)) =
      (Nat.toDigits 10 whole, (if integral then [] else ['.', '0']) ++ rest) := by
    apply digits_append fun c hc => isDigit_of_mem_toDigits hc
    cases integral
    · simp
    · exact fun c hc => (hrest c hc).1
  rw [unsigned?, hdigits]
  simp only [hvalue, hzero, Option.bind_eq_bind, Option.bind_some, if_false]
  cases integral
  · simp [fraction?_zero hrest, exponent?_of_stops hrest]
  · simp [fraction?_of_stops hrest, exponent?_of_stops hrest]

theorem number?_of_isDigit (hc : c.isDigit = true) :
    number? (c :: cs) = unsigned? false (c :: cs) := by
  rw [number?.eq_def]
  split
  · next heq =>
    rw [(List.cons.inj heq).1] at hc
    exact absurd hc (by decide)
  · rfl

theorem number?_numberChars (n : Number) (hrest : Stops rest) :
    number? (numberChars n ++ rest) = some (n, rest) := by
  obtain ⟨negative, whole, integral⟩ := n
  have hread := unsigned?_numberChars negative integral whole hrest
  cases negative
  · obtain ⟨d, ds, hds⟩ := List.exists_cons_of_ne_nil (@Nat.toDigits_ne_nil whole 10)
    have hd : d.isDigit = true :=
      isDigit_of_mem_toDigits (n := whole) (by rw [hds]; exact List.mem_cons_self)
    simp only [numberChars, Bool.false_eq_true, if_false, List.nil_append, List.append_assoc]
    rw [hds, List.cons_append] at hread ⊢
    rw [number?_of_isDigit hd, hread]
  · simpa [numberChars, number?] using hread

def Begins (c : Char) : Prop := c.isDigit = true ∨ c = '-'

theorem ne_of_begins {d : Char} (hc : Begins c) (hd : d.isDigit = false ∧ d ≠ '-') : c ≠ d := by
  rintro rfl
  rcases hc with hc | hc
  · exact Bool.false_ne_true (hd.1.symm.trans hc)
  · exact hd.2 hc

theorem isBlank_of_begins (hc : Begins c) : isBlank c = false := by
  simp [isBlank, ne_of_begins (d := ' ') hc (by decide), ne_of_begins (d := '\n') hc (by decide),
    ne_of_begins (d := '\t') hc (by decide), ne_of_begins (d := '\r') hc (by decide)]

theorem token?_of_begins (hc : Begins c) :
    token? (c :: cs) = (number? (c :: cs)).map fun r => (.number r.1, r.2) := by
  rw [token?.eq_def]
  split
  case h_11 => cases number? (c :: cs) <;> rfl
  all_goals next heq => exact absurd (List.cons.inj heq).1 (ne_of_begins hc (by decide))

theorem numberChars_begins (n : Number) : ∃ c cs, numberChars n = c :: cs ∧ Begins c := by
  obtain ⟨negative, whole, integral⟩ := n
  obtain ⟨d, ds, hds⟩ := List.exists_cons_of_ne_nil (@Nat.toDigits_ne_nil whole 10)
  have hd : d.isDigit = true :=
    isDigit_of_mem_toDigits (n := whole) (by rw [hds]; exact List.mem_cons_self)
  cases negative
  · exact ⟨d, ds ++ _, by rw [numberChars, hds]; rfl, .inl hd⟩
  · exact ⟨'-', Nat.toDigits 10 whole ++ _, rfl, .inr rfl⟩

theorem token?_numberChars (n : Number) (hrest : Stops rest) :
    token? (numberChars n ++ rest) = some (.number n, rest) := by
  have hread := number?_numberChars n hrest
  obtain ⟨c, cs, hchars, hc⟩ := numberChars_begins n
  rw [hchars, List.cons_append] at hread ⊢
  rw [token?_of_begins hc, hread, Option.map_some]

end Numbers

section Texts

theorem token?_chars (hstop : ∀ n, t = .number n → Stops rest) :
    token? (t.chars ++ rest) = some (t, rest) := by
  rcases t with _ | _ | _ | _ | _ | _ | _ | (_ | _) | n | (_ | s)
  case number => exact token?_numberChars n (hstop n rfl)
  case string.none => exact token?_loneSurrogate rest
  case string.some => exact token?_text s rest
  all_goals rfl

theorem Token.chars_cons (t : Token) : ∃ c cs, t.chars = c :: cs ∧ isBlank c = false := by
  rcases t with _ | _ | _ | _ | _ | _ | _ | (_ | _) | n | (_ | s)
  case number =>
    obtain ⟨c, cs, hchars, hc⟩ := numberChars_begins n
    exact ⟨c, cs, hchars, isBlank_of_begins hc⟩
  all_goals exact ⟨_, _, rfl, by decide⟩

theorem tokensWithin_of_spells (h : Spells cs ts) (hfuel : cs.length ≤ fuel) :
    tokensWithin fuel cs = some ts := by
  induction h generalizing fuel with
  | nil => simp [tokensWithin]
  | blank hc h ih =>
    obtain ⟨fuel, rfl⟩ := Nat.exists_eq_add_of_lt (Nat.lt_of_lt_of_le (Nat.succ_pos _) hfuel)
    rw [tokensWithin, if_pos hc]
    exact ih (Nat.le_of_succ_le_succ hfuel)
  | @token t cs ts hstop h ih =>
    obtain ⟨c, front, hchars, hc⟩ := t.chars_cons
    have hread := token?_chars hstop
    rw [hchars, List.cons_append] at hread hfuel ⊢
    obtain ⟨fuel, rfl⟩ := Nat.exists_eq_add_of_lt (Nat.lt_of_lt_of_le (Nat.succ_pos _) hfuel)
    have hrest : tokensWithin fuel cs = some ts := by
      apply ih
      simp only [List.length_cons, List.length_append] at hfuel
      omega
    simp [tokensWithin, hc, hread, hrest]

theorem tokens?_of_spells (h : Spells cs ts) : tokens? (String.ofList cs) = some ts := by
  rw [tokens?, String.toList_ofList]
  exact tokensWithin_of_spells h (Nat.le_refl _)

end Texts

end HidAccess.Json
