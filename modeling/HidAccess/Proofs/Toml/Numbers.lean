import HidAccess.Proofs.Text.Numeral
import HidAccess.Proofs.Toml.Layout

/-! An unsigned number, where a value may end behind it, is read as the integer it is, and as nothing else. -/

namespace HidAccess.Toml
variable {d e : Char} {cs ds rest : List Char} {n : Nat}

def Digits (ds : List Char) : Prop := ∀ c ∈ ds, isDigit 10 c = true

theorem digits_toDigits (n : Nat) : Digits (Nat.toDigits 10 n) :=
  Text.Numeral.isSome_digit?_of_digits? (Text.Numeral.digits?_padded (by decide) (by decide) 0 n)

theorem digits_of_digits? (h : Text.Numeral.digits? 10 ds = some n) : Digits ds :=
  Text.Numeral.isSome_digit?_of_digits? h

theorem isDigit_closer (he : e ∈ closers) : isDigit 10 e = false := by
  have hall : closers.all (fun e => !isDigit 10 e) = true := by decide
  simpa using List.all_eq_true.mp hall e he

theorem digits_closed_ne (es : List Char) (hds : Digits ds) (he : e ∈ closers) (hes : Digits es)
    (hd : isDigit 10 d = false ∧ d ∉ closers) : ds ++ e :: cs ≠ es ++ d :: rest := by
  intro heq
  have hdrop := congrArg (List.dropWhile (isDigit 10)) heq
  rw [List.dropWhile_append_of_pos hds, List.dropWhile_append_of_pos hes] at hdrop
  simp only [List.dropWhile_cons, isDigit_closer he, hd.1, Bool.false_eq_true, if_false,
    List.cons.injEq] at hdrop
  exact hd.2 (hdrop.1 ▸ he)

theorem digits_of_twoDigits? {lo hi : Nat} {r : Nat × List Char} (h : twoDigits? lo hi cs = some r) :
    ∃ a b, cs = a :: b :: r.2 ∧ Digits [a, b] := by
  rcases cs with _ | ⟨a, _ | ⟨b, cs⟩⟩
  · contradiction
  · contradiction
  · refine ⟨a, b, ?_⟩
    cases hab : Text.Numeral.digits? 10 [a, b] with
    | none => simp [twoDigits?, hab] at h
    | some m =>
      simp only [twoDigits?, hab, Option.bind_eq_bind, Option.bind_some,
        Option.ite_none_right_eq_some] at h
      rw [← Option.some.inj h.2]
      exact ⟨rfl, digits_of_digits? hab⟩

theorem digits_nil : Digits [] := fun _ hc => absurd hc List.not_mem_nil

section Closed
variable (he : e ∈ closers)
include he

section Digits
variable (hds : Digits ds)
include hds

theorem moreDigits_closed : moreDigits 10 (ds ++ e :: rest) = (ds, e :: rest) := by
  induction ds with
  | nil =>
    have hend := isDigit_closer he
    have hscore : e ≠ '_' := ne_of_mem_of_not_mem he (by decide)
    rcases rest with _ | ⟨x, rest⟩ <;> simp [moreDigits, hscore, hend]
  | cons c ds ih =>
    have hc := hds c List.mem_cons_self
    have hnext := ih fun x hx => hds x (List.mem_cons_of_mem c hx)
    have hscore : c ≠ '_' := by
      rintro rfl
      exact absurd hc (by decide)
    rw [List.cons_append, moreDigits.eq_def]
    split
    · next heq => exact absurd (List.cons.inj heq).1 hscore
    · next heq =>
      obtain ⟨rfl, rfl⟩ := List.cons.inj heq
      rw [if_pos hc, hnext]
      rfl
    · contradiction

theorem date?_closed : date? (ds ++ e :: rest) = none := by
  unfold date?
  split
  · next a b c d cs heq =>
    cases hyear : Text.Numeral.digits? 10 [a, b, c, d] with
    | none => rfl
    | some year =>
      exact absurd heq (digits_closed_ne [a, b, c, d] hds he (digits_of_digits? hyear) (by decide))
  · rfl

theorem time?_closed : time? (ds ++ e :: rest) = none := by
  unfold time?
  cases hhour : twoDigits? 0 23 (ds ++ e :: rest) with
  | none => rfl
  | some hour =>
    obtain ⟨a, b, heq, hab⟩ := digits_of_twoDigits? hhour
    dsimp only [Option.bind_eq_bind, Option.bind_some]
    split
    · next hcolon =>
      rw [hcolon] at heq
      exact absurd heq (digits_closed_ne [a, b] hds he hab (by decide))
    · rfl

theorem sign_closed : sign (ds ++ e :: rest) = (false, ds ++ e :: rest) := by
  unfold sign
  split
  · next heq => exact absurd heq (digits_closed_ne [] hds he digits_nil (by decide))
  · next heq => exact absurd heq (digits_closed_ne [] hds he digits_nil (by decide))
  · rfl

end Digits

theorem decimal?_closed (n : Nat) :
    decimal? (Nat.toDigits 10 n ++ e :: rest) = some (Nat.toDigits 10 n, e :: rest) := by
  have hdigits := digits_toDigits n
  have hzero := Text.Numeral.no_leading_zero (show 1 < 10 by decide) n
  obtain ⟨d, ds, hds⟩ := List.exists_cons_of_ne_nil (@Nat.toDigits_ne_nil n 10)
  rw [hds] at hdigits hzero ⊢
  by_cases hd : d = '0'
  · have hone : ds = [] := by
      subst hd
      simpa using hzero
    subst hd hone
    rfl
  · have htail : Digits ds := fun c hc => hdigits c (List.mem_cons_of_mem d hc)
    rw [List.cons_append, decimal?, digits?, if_pos (hdigits d List.mem_cons_self),
      moreDigits_closed he htail]
    · rfl
    · exact fun _ heq => hd (List.cons.inj heq).1

theorem float?_closed (n : Nat) : float? (Nat.toDigits 10 n ++ e :: rest) = none := by
  have hds := digits_toDigits n
  rw [float?, sign_closed he hds]
  dsimp only
  split
  · next heq => exact absurd heq (digits_closed_ne [] hds he digits_nil (by decide))
  · next heq => exact absurd heq (digits_closed_ne [] hds he digits_nil (by decide))
  · have hpart : fraction? (e :: rest) = none := by
      rw [fraction?.eq_def]
      split
      · next heq => exact absurd (List.cons.inj heq).1 (ne_of_mem_of_not_mem he (by decide))
      · rfl
    have hpower : exponent? (e :: rest) = none := by
      have hsmall : e ≠ 'e' := ne_of_mem_of_not_mem he (by decide)
      have hlarge : e ≠ 'E' := ne_of_mem_of_not_mem he (by decide)
      simp [exponent?, hsmall, hlarge]
    simp [decimal?_closed he, hpart, hpower]

theorem integer?_closed (hn : (n : Int) ≤ maxInteger) :
    integer? (Nat.toDigits 10 n ++ e :: rest) = some (.integer n, e :: rest) := by
  have hds := digits_toDigits n
  have hzero : Digits ['0'] := List.forall_mem_singleton.mpr rfl
  rw [integer?.eq_def]
  split
  case h_4 =>
    have hvalue : Text.Numeral.digits? 10 (Nat.toDigits 10 n) = some n :=
      Text.Numeral.digits?_padded (by decide) (by decide) 0 n
    have hlow : minInteger ≤ (n : Int) := by
      simp only [minInteger]
      omega
    simp [sign_closed he hds, decimal?_closed he, hvalue, fits, hlow, hn]
  all_goals
    next heq => exact absurd heq (digits_closed_ne ['0'] hds he hzero (by decide))

theorem scalarValue?_closed (hn : (n : Int) ≤ maxInteger) :
    scalarValue? (Nat.toDigits 10 n ++ e :: rest) = some (.integer n, e :: rest) := by
  have hds := digits_toDigits n
  have hstring : string? (Nat.toDigits 10 n ++ e :: rest) = none := by
    unfold string?
    split
    case h_5 => rfl
    all_goals
      next heq => exact absurd heq (digits_closed_ne [] hds he digits_nil (by decide))
  have hmoment : moment? (Nat.toDigits 10 n ++ e :: rest) = none := by
    rw [moment?, date?_closed he hds, time?_closed he hds]
    rfl
  rw [scalarValue?, hstring, hmoment, float?_closed he, integer?_closed he hn]
  rfl

end Closed

end HidAccess.Toml
