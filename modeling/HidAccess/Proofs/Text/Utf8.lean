import HidAccess.Text.Utf8
import Mathlib.Tactic.Ring
import Mathlib.Tactic.SplitIfs

/-! Where lossy decoding finds an ASCII character there was its octet: a character of more octets is
never one of them, and an invalid piece is shown as U+FFFD. A text's octets are those of its characters. -/

namespace HidAccess.Text.Utf8
variable {count low high value v b : Nat} {bs rest : Bytes} {c : Char}

theorem le_of_tail (h : tail (count + 1) low high value bs = (some v, rest)) :
    (value * 64 + (low - 0x80)) * 64 ^ count ≤ v := by
  induction count generalizing low high value bs with
  | zero =>
    rcases bs with _ | ⟨b, bs⟩
    · simp [tail] at h
    · simp only [tail] at h
      split_ifs at h with hb
      · simp only [Prod.mk.injEq, Option.some.injEq] at h
        omega
      · simp at h
  | succ count ih =>
    rcases bs with _ | ⟨b, bs⟩
    · simp [tail] at h
    · rw [tail] at h
      split_ifs at h with hb
      · have hrest := ih h
        calc (value * 64 + (low - 0x80)) * 64 ^ (count + 1)
            = ((value * 64 + (low - 0x80)) * 64) * 64 ^ count := by ring
          _ ≤ ((value * 64 + (b.toNat - 0x80)) * 64 + (0x80 - 0x80)) * 64 ^ count :=
            Nat.mul_le_mul_right _ (by omega)
          _ ≤ v := hrest
      · simp at h

theorem tail_suffix (count low high value : Nat) (bs : Bytes) :
    (tail count low high value bs).2 <:+ bs := by
  induction count generalizing low high value bs with
  | zero => exact List.suffix_refl _
  | succ count ih =>
    rcases bs with _ | ⟨b, bs⟩
    · exact List.suffix_refl _
    · rw [tail]
      split_ifs
      · exact (ih _ _ _ _).trans (List.suffix_cons _ _)
      · exact List.suffix_refl _

theorem lead?_cases {l : Lead} (h : lead? b = some l) :
    (l.tail = 0 ∧ l.bits = b) ∨
      ∃ count, l.tail = count + 1 ∧ 0x80 ≤ (l.bits * 64 + (l.low - 0x80)) * 64 ^ count := by
  unfold lead? at h
  split_ifs at h <;> obtain rfl := Option.some.inj h
  · exact .inl ⟨rfl, rfl⟩
  · refine .inr ⟨0, rfl, ?_⟩
    dsimp only
    omega
  · exact .inr ⟨1, rfl, by decide⟩
  · exact .inr ⟨1, rfl, by decide⟩
  · refine .inr ⟨1, rfl, ?_⟩
    dsimp only
    omega
  · exact .inr ⟨2, rfl, by decide⟩
  · refine .inr ⟨2, rfl, ?_⟩
    dsimp only
    omega
  · exact .inr ⟨2, rfl, by decide⟩

/-- A number that is no code point stands for U+0000. -/
theorem toNat_ofNat_of_ne_zero (h : (Char.ofNat v).toNat ≠ 0) : (Char.ofNat v).toNat = v := by
  by_cases hvalid : v.isValidChar
  · rw [Char.ofNat, dif_pos hvalid]
    rfl
  · simp [Char.ofNat, hvalid, Char.toNat] at h

theorem octet_of_lead {l : Lead} (hl : lead? b = some l)
    (ht : tail l.tail l.low l.high l.bits bs = (some v, rest)) (hv : v < 0x80) : v = b := by
  rcases lead?_cases hl with ⟨htail, hbits⟩ | ⟨count, htail, hlarge⟩
  · rw [htail, tail, Prod.mk.injEq, Option.some.injEq] at ht
    exact ht.1.symm.trans hbits
  · rw [htail] at ht
    have hle := le_of_tail ht
    omega

theorem octet_of_mem_pieces {fuel : Nat} (hc : some c ∈ pieces fuel bs) (hlow : c.toNat < 0x80)
    (hzero : c.toNat ≠ 0) : ∃ b ∈ bs, b.toNat = c.toNat := by
  induction fuel generalizing bs with
  | zero => simp [pieces] at hc
  | succ fuel ih =>
    rcases bs with _ | ⟨b, bs⟩
    · simp [pieces] at hc
    have hrest : ∀ {rest : Bytes}, rest <:+ bs → some c ∈ pieces fuel rest →
        ∃ b' ∈ b :: bs, b'.toNat = c.toNat := by
      intro rest hsuffix hmem
      rcases ih hmem with ⟨b', hb', heq⟩
      exact ⟨b', List.mem_cons_of_mem _ (hsuffix.subset hb'), heq⟩
    rw [pieces] at hc
    rcases hl : lead? b.toNat with _ | l
    · simp only [hl, List.mem_cons, reduceCtorEq, false_or] at hc
      exact hrest (List.suffix_refl _) hc
    · simp only [hl, List.mem_cons] at hc
      rcases hc with hc | hc
      · rcases ht : tail l.tail l.low l.high l.bits bs with ⟨_ | v, rest⟩
        · simp [ht] at hc
        · simp only [ht, Option.map_some, Option.some.injEq] at hc
          have hv : c.toNat = v := hc ▸ toNat_ofNat_of_ne_zero (hc ▸ hzero)
          have hb : v = b.toNat := octet_of_lead hl ht (hv ▸ hlow)
          exact ⟨b, List.mem_cons_self, (hv.trans hb).symm⟩
      · exact hrest (tail_suffix _ _ _ _ _) hc

theorem octet_of_mem_decodeLossy (hc : c ∈ (decodeLossy bs).toList) (hlow : c.toNat < 0x80)
    (hzero : c.toNat ≠ 0) : ∃ b ∈ bs, b.toNat = c.toNat := by
  rw [decodeLossy, String.toList_ofList, List.mem_map] at hc
  rcases hc with ⟨_ | c', hmem, heq⟩
  · rw [← heq] at hlow
    exact absurd hlow (by decide)
  · rw [Option.getD_some] at heq
    exact octet_of_mem_pieces (heq ▸ hmem) hlow hzero

section Encode

theorem toList_loop (octets : ByteArray) (start : Nat) (read : List UInt8) :
    ByteArray.toList.loop octets start read = read.reverse ++ octets.data.toList.drop start := by
  induction start, read using ByteArray.toList.loop.induct octets with
  | case1 start read hlt ih =>
    have hlt' : start < octets.data.toList.length := hlt
    have hget : octets.get! start = octets.data.toList[start] := by
      change octets.data[start]! = _
      rw [getElem!_pos octets.data start hlt, Array.getElem_toList]
    rw [ByteArray.toList.loop, if_pos hlt, ih, hget, List.drop_eq_getElem_cons hlt']
    simp
  | case2 start read hge =>
    have hend : octets.data.toList.length ≤ start := Nat.le_of_not_lt hge
    rw [ByteArray.toList.loop, if_neg hge, List.drop_eq_nil_of_le hend, List.append_nil]

theorem encode_eq_flatMap (s : String) : encode s = s.toList.flatMap String.utf8EncodeChar := by
  have hbytes : s.toUTF8 = (s.toList.flatMap String.utf8EncodeChar).toByteArray :=
    String.utf8Encode_toList.symm
  rw [encode, ByteArray.toList, toList_loop, hbytes, List.toList_data_toByteArray]
  rfl

theorem zero_mem_encode {s : String} (h : '\x00' ∈ s.toList) : 0 ∈ encode s := by
  rw [encode_eq_flatMap, List.mem_flatMap]
  exact ⟨'\x00', h, by decide⟩

end Encode

end HidAccess.Text.Utf8
