import HidAccess.Proofs.Bytes.Written
import Mathlib.Data.List.Induction

/-! Where the digits of a byte stand. The digits of all tokens are read in one row, so a token with an odd
number of them shares a byte with a later one. Only if there is an odd number of such tokens a digit is left
over and the text is refused. -/

namespace HidAccess.Bytes
open Text.Numeral (IsDigit)
variable {bs bs' : Bytes} {b : UInt8} {k n : Nat} {c : Char} {cs ds token : List Char}
  {ts : List (List Char)}

def tokens (cs : List Char) : List (List Char) :=
  (Text.splitBy isSeparator cs).map (Text.dropStarts ['0', 'x'])

def isHexDigit (c : Char) : Bool := "0123456789abcdefABCDEF".toList.contains c

def digitCount (token : List Char) : Nat := token.countP isHexDigit

/-- The byte is spelled by two characters of the token, the first of them behind `n` others. -/
def HoldsAt (token : List Char) (n : Nat) (b : UInt8) : Prop :=
  ∃ left hi lo right, token = left ++ hi :: lo :: right ∧ left.length = n ∧
    IsDigit hi (b.toNat / 16) ∧ IsDigit lo (b.toNat % 16)

/-- One of the tokens holds the byte behind the first `n` characters of all of them. -/
def InOneToken (ts : List (List Char)) (n : Nat) (b : UInt8) : Prop :=
  ∃ before token after, ts = before ++ token :: after ∧ before.flatten.length ≤ n ∧
    HoldsAt token (n - before.flatten.length) b

section Pairs

theorem isHexDigit_iff : isHexDigit c ↔ ∃ v < 16, IsDigit c v := by
  constructor
  · have hdigits : ∀ c ∈ "0123456789abcdefABCDEF".toList, (Text.Numeral.digit? 16 c).isSome := by
      rw [← List.all_eq_true]
      decide
    intro h
    obtain ⟨v, hv⟩ := Option.isSome_iff_exists.mp (hdigits c (List.contains_iff_mem.mp h))
    exact ⟨v, ((Text.Numeral.digit?_eq_some_iff (Nat.le_refl 16)).mp hv).symm⟩
  · have hvalues : ∀ v < 16, ∀ c, IsDigit c v → isHexDigit c := by
      simp only [IsDigit, forall_eq_or_imp, forall_eq]
      decide
    rintro ⟨v, hv, hc⟩
    exact hvalues v hv c hc

theorem IsPairs.isHexDigit (h : IsPairs bs cs) : ∀ c ∈ cs, isHexDigit c := by
  induction h with
  | nil => simp
  | @cons b _ _ _ _ hhi hlo _ ih =>
    simp only [List.forall_mem_cons]
    exact ⟨isHexDigit_iff.mpr ⟨_, high_lt b, hhi⟩, isHexDigit_iff.mpr ⟨_, low_lt b, hlo⟩, ih⟩

theorem IsPairs.length (h : IsPairs bs cs) : cs.length = 2 * bs.length := by
  induction h with
  | nil => rfl
  | cons _ _ _ ih =>
    simp only [List.length_cons, ih]
    omega

theorem IsPairs.unique (h : IsPairs bs cs) (h' : IsPairs bs' cs) : bs = bs' :=
  Option.some.inj ((ofDigits?_of_isPairs h).symm.trans (ofDigits?_of_isPairs h'))

theorem isPairs_cons_of_digits {hi lo : Nat} {c d : Char} (hhi : hi < 16) (hlo : lo < 16) (hc : IsDigit c hi)
    (hd : IsDigit d lo) (h : IsPairs bs cs) : IsPairs (UInt8.ofNat (16 * hi + lo) :: bs) (c :: d :: cs) := by
  have hb : (UInt8.ofNat (16 * hi + lo)).toNat = 16 * hi + lo := UInt8.toNat_ofNat_of_lt' (by
    rw [UInt8.size]
    omega)
  have hdiv : (16 * hi + lo) / 16 = hi := by omega
  have hmod : (16 * hi + lo) % 16 = lo := by omega
  refine .cons ?_ ?_ h
  · rwa [hb, hdiv]
  · rwa [hb, hmod]

theorem exists_isPairs (hdigits : ∀ c ∈ cs, isHexDigit c) (heven : Even cs.length) : ∃ bs, IsPairs bs cs := by
  induction cs using List.twoStepInduction with
  | nil => exact ⟨[], .nil⟩
  | singleton c => simp at heven
  | cons_cons c d cs ih _ =>
    simp only [List.forall_mem_cons, isHexDigit_iff] at hdigits
    obtain ⟨⟨hi, hhi, hc⟩, ⟨lo, hlo, hd⟩, hcs⟩ := hdigits
    obtain ⟨bs, hbs⟩ := ih (by simpa only [isHexDigit_iff] using hcs) (by
      simpa [Nat.even_add_one] using heven)
    exact ⟨_, isPairs_cons_of_digits hhi hlo hc hd hbs⟩

theorem isPairs_of_ofDigits? (h : ofDigits? cs = some bs) : IsPairs bs cs := by
  induction cs using List.twoStepInduction generalizing bs with
  | nil =>
    obtain rfl := Option.some.inj h
    exact .nil
  | singleton c => cases h
  | cons_cons c d cs ih _ =>
    obtain ⟨hi, hc, h⟩ := Option.bind_eq_some_iff.mp h
    obtain ⟨lo, hd, h⟩ := Option.bind_eq_some_iff.mp h
    obtain ⟨rest, hrest, h⟩ := Option.bind_eq_some_iff.mp h
    obtain rfl := Option.some.inj h
    obtain ⟨hc, hhi⟩ := (Text.Numeral.digit?_eq_some_iff (Nat.le_refl 16)).mp hc
    obtain ⟨hd, hlo⟩ := (Text.Numeral.digit?_eq_some_iff (Nat.le_refl 16)).mp hd
    exact isPairs_cons_of_digits hhi hlo hc hd (ih hrest)

theorem IsPairs.split (h : IsPairs bs (cs ++ ds)) (heven : Even cs.length) :
    ∃ bs₁ bs₂, bs = bs₁ ++ bs₂ ∧ IsPairs bs₁ cs ∧ IsPairs bs₂ ds := by
  have hdigits := h.isHexDigit
  rw [List.forall_mem_append] at hdigits
  have hrest : Even ds.length := by
    have hlength := h.length
    rw [List.length_append] at hlength
    exact (Nat.even_add.mp (hlength ▸ even_two_mul bs.length)).mp heven
  obtain ⟨bs₁, h₁⟩ := exists_isPairs hdigits.1 heven
  obtain ⟨bs₂, h₂⟩ := exists_isPairs hdigits.2 hrest
  exact ⟨bs₁, bs₂, h.unique (h₁.append h₂), h₁, h₂⟩

theorem IsPairs.holdsAt (h : IsPairs bs cs) (hb : bs[k]? = some b) : HoldsAt cs (2 * k) b := by
  induction h generalizing k with
  | nil => simp at hb
  | @cons b' bs hi lo cs hhi hlo _ ih =>
    cases k with
    | zero =>
      obtain rfl := Option.some.inj hb
      exact ⟨[], hi, lo, cs, rfl, rfl, hhi, hlo⟩
    | succ k =>
      obtain ⟨left, hi', lo', right, rfl, hleft, hhi', hlo'⟩ := ih hb
      exact ⟨hi :: lo :: left, hi', lo', right, rfl, by simp [hleft, Nat.mul_succ], hhi', hlo'⟩

end Pairs

section Row

theorem joinedDigits_eq (cs : List Char) : joinedDigits cs = (tokens cs).flatten := List.flatMap_def ..

theorem read?_eq_some_iff {text : String} :
    read? text = some bs ↔ bs ≠ [] ∧ IsPairs bs (tokens text.toList).flatten := by
  rw [read?, joinedDigits_eq]
  cases hrow : (tokens text.toList).flatten with
  | nil =>
    constructor
    · intro h
      cases h
    · rintro ⟨hne, h⟩
      cases h
      exact absurd rfl hne
  | cons c cs =>
    constructor
    · intro h
      have hpairs := isPairs_of_ofDigits? h
      refine ⟨?_, hpairs⟩
      rintro rfl
      cases hpairs
    · rintro ⟨-, h⟩
      exact ofDigits?_of_isPairs h

theorem digitCount_of_forall (h : ∀ c ∈ token, isHexDigit c) : digitCount token = token.length :=
  List.countP_eq_length.mpr h

theorem odd_length_flatten (h : ∀ c ∈ ts.flatten, isHexDigit c) :
    Odd ts.flatten.length ↔ Odd (ts.countP fun t => Odd (digitCount t)) := by
  induction ts with
  | nil => rfl
  | cons t ts ih =>
    rw [List.flatten_cons, List.forall_mem_append] at h
    rw [List.flatten_cons, List.length_append, List.countP_cons, Nat.odd_add', ih h.2,
      digitCount_of_forall h.1]
    by_cases ht : Odd t.length
    · simp [ht, Nat.odd_add_one, ← Nat.not_odd_iff_even]
    · simp [ht, ← Nat.not_odd_iff_even]

theorem read?_eq_none_iff {text : String} (h : ∃ t ∈ tokens text.toList, Odd (digitCount t)) :
    read? text = none ↔ (∃ t ∈ tokens text.toList, ∃ c ∈ t, isHexDigit c = false) ∨
      Odd ((tokens text.toList).countP fun t => Odd (digitCount t)) := by
  generalize hts : tokens text.toList = ts at h
  have hread (bs : Bytes) : read? text = some bs ↔ bs ≠ [] ∧ IsPairs bs ts.flatten := by
    rw [read?_eq_some_iff, hts]
  constructor
  · intro hnone
    rw [or_iff_not_imp_left]
    intro hall
    have hdigits : ∀ c ∈ ts.flatten, isHexDigit c := by
      intro c hc
      obtain ⟨t, ht, hct⟩ := List.mem_flatten.mp hc
      by_contra hno
      exact hall ⟨t, ht, c, hct, by simpa using hno⟩
    rw [← odd_length_flatten hdigits, ← Nat.not_even_iff_odd]
    intro heven
    obtain ⟨bs, hbs⟩ := exists_isPairs hdigits heven
    have hne : bs ≠ [] := by
      rintro rfl
      obtain ⟨t, ht, hodd⟩ := h
      obtain rfl := List.flatten_eq_nil_iff.mp (List.eq_nil_of_length_eq_zero hbs.length) t ht
      simp [digitCount] at hodd
    rw [(hread bs).mpr ⟨hne, hbs⟩] at hnone
    cases hnone
  · intro hbad
    rw [Option.eq_none_iff_forall_ne_some]
    intro bs hbs
    obtain ⟨-, hpairs⟩ := (hread bs).mp hbs
    rcases hbad with ⟨t, ht, c, hc, hno⟩ | hodd
    · have hdigit := hpairs.isHexDigit c (List.mem_flatten_of_mem ht hc)
      rw [hno] at hdigit
      cases hdigit
    · rw [← odd_length_flatten hpairs.isHexDigit, hpairs.length] at hodd
      exact Nat.not_even_iff_odd.mpr hodd (even_two_mul bs.length)

end Row

section Places

theorem HoldsAt.lt (h : HoldsAt token n b) : n + 2 ≤ token.length := by
  obtain ⟨left, hi, lo, right, rfl, rfl, -⟩ := h
  simp only [List.length_append, List.length_cons]
  omega

theorem inOneToken_cons_iff : InOneToken (token :: ts) n b ↔
    HoldsAt token n b ∨ token.length ≤ n ∧ InOneToken ts (n - token.length) b := by
  constructor
  · rintro ⟨before, t, after, hts, hle, hholds⟩
    cases before with
    | nil =>
      obtain ⟨rfl, -⟩ := List.cons.inj hts
      exact .inl hholds
    | cons t' before =>
      obtain ⟨rfl, rfl⟩ := List.cons.inj hts
      rw [List.flatten_cons, List.length_append] at hle hholds
      refine .inr ⟨by omega, before, t, after, rfl, by omega, ?_⟩
      rwa [Nat.sub_sub]
  · rintro (hholds | ⟨hle, before, t, after, rfl, hle', hholds⟩)
    · exact ⟨[], token, ts, rfl, Nat.zero_le n, hholds⟩
    · refine ⟨token :: before, t, after, rfl, ?_, ?_⟩
      · rw [List.flatten_cons, List.length_append]
        omega
      · rwa [List.flatten_cons, List.length_append, ← Nat.sub_sub]

/-- By induction on the tokens: the bytes of a token with an even number of digits are its own, and the
last digit of the first token with an odd number is in a byte with the digit behind it. -/
theorem inOneToken_iff (h : IsPairs bs ts.flatten) :
    (∀ k b, bs[k]? = some b → InOneToken ts (2 * k) b) ↔ ∀ t ∈ ts, Even t.length := by
  induction ts generalizing bs with
  | nil =>
    cases h
    simp
  | cons t ts ih =>
    rw [List.forall_mem_cons]
    by_cases ht : Even t.length
    · obtain ⟨bs₁, bs₂, rfl, h₁, h₂⟩ := h.split ht
      have hlength := h₁.length
      rw [and_iff_right ht, ← ih h₂]
      constructor
      · intro hall k b hb
        have hb' : (bs₁ ++ bs₂)[bs₁.length + k]? = some b := by
          rwa [List.getElem?_append_right (Nat.le_add_right _ _), Nat.add_sub_cancel_left]
        have hplace := hall (bs₁.length + k) b hb'
        rcases inOneToken_cons_iff.mp hplace with hholds | ⟨-, hrest⟩
        · have := hholds.lt
          omega
        · rwa [hlength, Nat.mul_add, Nat.add_sub_cancel_left] at hrest
      · intro hall k b hb
        rw [inOneToken_cons_iff]
        by_cases hk : k < bs₁.length
        · rw [List.getElem?_append_left hk] at hb
          exact .inl (h₁.holdsAt hb)
        · rw [List.getElem?_append_right (by omega)] at hb
          refine .inr ⟨by omega, ?_⟩
          rw [hlength, ← Nat.mul_sub]
          exact hall _ b hb
    · refine iff_of_false ?_ fun hall => ht hall.1
      intro hall
      have hlength := h.length
      rw [List.flatten_cons, List.length_append] at hlength
      obtain ⟨m, hm⟩ := Nat.not_even_iff_odd.mp ht
      have hlt : m < bs.length := by omega
      rcases inOneToken_cons_iff.mp (hall m bs[m] (List.getElem?_eq_getElem hlt)) with hholds | ⟨hle, -⟩
      · have := hholds.lt
        omega
      · omega

end Places

/-- A text with a token that has an odd number of digits is refused exactly if another character stands in
one of the tokens or the number of such tokens is odd. The bytes of a text stand each in one token exactly
if there is no such token. -/
theorem bytes_in_tokens_iff (text : String) :
    ((∃ t ∈ tokens text.toList, Odd (digitCount t)) →
      (read? text = none ↔ (∃ t ∈ tokens text.toList, ∃ c ∈ t, isHexDigit c = false) ∨
        Odd ((tokens text.toList).countP fun t => Odd (digitCount t)))) ∧
    ∀ bs, read? text = some bs →
      ((∀ k b, bs[k]? = some b → InOneToken (tokens text.toList) (2 * k) b) ↔
        ∀ t ∈ tokens text.toList, Even (digitCount t)) := by
  refine ⟨read?_eq_none_iff, ?_⟩
  intro bs hbs
  obtain ⟨-, hpairs⟩ := read?_eq_some_iff.mp hbs
  rw [inOneToken_iff hpairs]
  refine forall₂_congr fun t ht => ?_
  rw [digitCount_of_forall fun c hc => hpairs.isHexDigit c (List.mem_flatten_of_mem ht hc)]

theorem three_lone_digits_refused :
    (∃ t ∈ tokens "1 2 3".toList, Odd (digitCount t)) ∧ read? "1 2 3" = none ∧
    read? "0x12:34" = some [0x12, 0x34] ∧
    ∀ k b, ([0x12, 0x34] : Bytes)[k]? = some b → InOneToken (tokens "0x12:34".toList) (2 * k) b := by
  have hodd : ∃ t ∈ tokens "1 2 3".toList, Odd (digitCount t) := by decide
  have hread : read? "0x12:34" = some [0x12, 0x34] := by decide
  exact ⟨hodd, ((bytes_in_tokens_iff _).1 hodd).mpr (.inr (by decide)), hread,
    ((bytes_in_tokens_iff _).2 _ hread).mpr (by decide)⟩

theorem lone_digits_joined :
    (∃ t ∈ tokens "1 2".toList, Odd (digitCount t)) ∧ read? "1 2" = some [0x12] ∧
      ¬ InOneToken (tokens "1 2".toList) 0 0x12 := by
  have htokens : tokens "1 2".toList = [['1'], ['2']] := by decide
  refine ⟨by decide, by decide, ?_⟩
  rw [htokens, inOneToken_cons_iff, inOneToken_cons_iff]
  rintro (h | ⟨-, h | ⟨hle, -⟩⟩)
  · exact absurd h.lt (by decide)
  · exact absurd h.lt (by decide)
  · exact absurd hle (by decide)

end HidAccess.Bytes
