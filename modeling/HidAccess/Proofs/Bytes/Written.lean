import HidAccess.Bytes
import HidAccess.Proofs.Text.NumeralForm
import HidAccess.Proofs.Text.Split

/-! Ways to write bytes in hexadecimal. Bytes stand in pairs of digits, any number of pairs together in a
token, with an optional mark in front of it and separators around. All of them are read back. -/

namespace HidAccess.Bytes
open Text.Numeral (IsDigit)

inductive IsPairs : Bytes → List Char → Prop
  | nil : IsPairs [] []
  | cons {b bs hi lo cs} : IsDigit hi (b.toNat / 16) → IsDigit lo (b.toNat % 16) → IsPairs bs cs →
      IsPairs (b :: bs) (hi :: lo :: cs)

inductive IsToken : Bytes → List Char → Prop
  | bare {bs cs} : IsPairs bs cs → IsToken bs cs
  | marked {bs cs} : IsPairs bs cs → IsToken bs ('0' :: 'x' :: cs)

def IsGap (cs : List Char) : Prop := ∀ c ∈ cs, isSeparator c

instance (cs : List Char) : Decidable (IsGap cs) := decidable_of_iff (cs.all isSeparator) List.all_eq_true

/-- Tokens, none of them empty, with a gap between any two; a gap may follow. -/
inductive Spelled : Bytes → List Char → Prop
  | last {bs token gap} : bs ≠ [] → IsToken bs token → IsGap gap → Spelled bs (token ++ gap)
  | next {bs more token gap rest} : bs ≠ [] → IsToken bs token → gap ≠ [] → IsGap gap → Spelled more rest →
      Spelled (bs ++ more) (token ++ (gap ++ rest))

def Written (bs : Bytes) (text : List Char) : Prop :=
  ∃ gap rest, IsGap gap ∧ Spelled bs rest ∧ text = gap ++ rest

variable {bs more : Bytes} {c : Char} {cs ds token gap rest : List Char}

theorem Spelled.ne_nil (h : Spelled bs cs) : bs ≠ [] := by
  cases h with
  | last hbs => exact hbs
  | next hbs => simp [hbs]

theorem IsPairs.append (h : IsPairs bs cs) (h' : IsPairs more ds) : IsPairs (bs ++ more) (cs ++ ds) := by
  induction h with
  | nil => exact h'
  | cons hhi hlo _ ih => exact .cons hhi hlo ih

theorem high_lt (b : UInt8) : b.toNat / 16 < 16 := by
  have := b.toNat_lt
  omega

theorem low_lt (b : UInt8) : b.toNat % 16 < 16 := Nat.mod_lt _ (by decide)

theorem ofDigits?_of_isPairs (h : IsPairs bs cs) : ofDigits? cs = some bs := by
  have hdigit {c : Char} {v : Nat} (hv : v < 16) (hc : IsDigit c v) : Text.Numeral.digit? 16 c = some v :=
    (Text.Numeral.digit?_eq_some_iff (Nat.le_refl 16)).mpr ⟨hc, hv⟩
  induction h with
  | nil => rfl
  | @cons b bs hi lo cs hhi hlo _ ih =>
    have hb : UInt8.ofNat (16 * (b.toNat / 16) + b.toNat % 16) = b := by
      rw [Nat.div_add_mod, UInt8.ofNat_toNat]
    simp only [ofDigits?, hdigit (high_lt b) hhi, hdigit (low_lt b) hlo, ih, Option.bind_eq_bind,
      Option.bind_some, hb]
    rfl

section Tokens

theorem isSeparator_of_isDigit : ∀ v < 16, ∀ c, IsDigit c v → isSeparator c = false := by
  simp only [IsDigit, forall_eq_or_imp, forall_eq]
  decide

theorem not_isDigit_x : ∀ v < 16, ¬ IsDigit 'x' v := by decide

theorem IsPairs.noSeparator (h : IsPairs bs cs) : ∀ c ∈ cs, isSeparator c = false := by
  induction h with
  | nil => simp
  | @cons b _ _ _ _ hhi hlo _ ih =>
    simp only [List.forall_mem_cons]
    exact ⟨isSeparator_of_isDigit _ (high_lt b) _ hhi, isSeparator_of_isDigit _ (low_lt b) _ hlo, ih⟩

theorem IsToken.noSeparator (h : IsToken bs cs) : ∀ c ∈ cs, isSeparator c = false := by
  cases h with
  | bare h => exact h.noSeparator
  | marked h =>
    simp only [List.forall_mem_cons]
    exact ⟨by decide, by decide, h.noSeparator⟩

theorem IsPairs.unmarked (h : IsPairs bs cs) : Text.dropStart? ['0', 'x'] cs = none := by
  cases h with
  | nil => rfl
  | @cons b _ _ lo _ _ hlo _ =>
    have hx : 'x' ≠ lo := by
      rintro rfl
      exact not_isDigit_x _ (low_lt b) hlo
    simp [Text.dropStart?, hx]

theorem IsToken.isPairs (h : IsToken bs token) : IsPairs bs (Text.dropStarts ['0', 'x'] token) := by
  cases h with
  | bare h => rwa [Text.dropStarts, Text.dropStarts_go_of_none h.unmarked]
  | @marked cs h => rwa [show '0' :: 'x' :: cs = ['0', 'x'] ++ cs from rfl, Text.dropStarts_append h.unmarked]

end Tokens

section Joining

theorem joinedDigits_separator (hc : isSeparator c) (hcs : ∀ c ∈ cs, isSeparator c = false) :
    joinedDigits (cs ++ c :: rest) = Text.dropStarts ['0', 'x'] cs ++ joinedDigits rest := by
  simp [joinedDigits, Text.splitBy_append hc, Text.splitBy_of_forall hcs]

theorem joinedDigits_gap (h : IsGap gap) (rest : List Char) :
    joinedDigits (gap ++ rest) = joinedDigits rest := by
  induction gap with
  | nil => rfl
  | cons c gap ih =>
    obtain ⟨hc, hgap⟩ := List.forall_mem_cons.mp h
    rw [List.cons_append, ← List.nil_append (c :: (gap ++ rest)), joinedDigits_separator hc (by simp), ih hgap]
    rfl

theorem joinedDigits_token (h : IsToken bs token) (hgap : gap ≠ []) (hsep : IsGap gap) (rest : List Char) :
    joinedDigits (token ++ (gap ++ rest)) = Text.dropStarts ['0', 'x'] token ++ joinedDigits rest := by
  cases gap with
  | nil => exact absurd rfl hgap
  | cons c gap =>
    obtain ⟨hc, hgap⟩ := List.forall_mem_cons.mp hsep
    rw [List.cons_append, joinedDigits_separator hc h.noSeparator, joinedDigits_gap hgap]

theorem joinedDigits_last (h : IsToken bs token) (hgap : IsGap gap) :
    joinedDigits (token ++ gap) = Text.dropStarts ['0', 'x'] token := by
  by_cases hnil : gap = []
  · simp [hnil, joinedDigits, Text.splitBy_of_forall h.noSeparator]
  · have hjoin := joinedDigits_token h hnil hgap []
    rw [List.append_nil] at hjoin
    rw [hjoin, show joinedDigits [] = [] from rfl, List.append_nil]

/-- What is left of a text when separators and marks are gone: by induction on its tokens. -/
theorem Spelled.isPairs (h : Spelled bs cs) : IsPairs bs (joinedDigits cs) := by
  induction h with
  | last _ htoken hgap =>
    rw [joinedDigits_last htoken hgap]
    exact htoken.isPairs
  | next _ htoken hne hgap _ ih =>
    rw [joinedDigits_token htoken hne hgap]
    exact htoken.isPairs.append ih

end Joining

theorem read?_of_written {text : String} (h : Written bs text.toList) : read? text = some bs := by
  obtain ⟨gap, rest, hgap, hrest, heq⟩ := h
  have hpairs := hrest.isPairs
  have hdigits : joinedDigits text.toList = joinedDigits rest := by rw [heq, joinedDigits_gap hgap]
  rw [read?, hdigits]
  cases hrest' : joinedDigits rest with
  | nil =>
    rw [hrest'] at hpairs
    cases hpairs
    exact absurd rfl hrest.ne_nil
  | cons c cs =>
    rw [hrest'] at hpairs
    exact ofDigits?_of_isPairs hpairs

theorem isToken_hexByte (b : UInt8) : IsToken [b] (hexByte b) := .bare (.cons (.inl rfl) (.inl rfl) .nil)

theorem spelled_spacedChars (h : bs ≠ []) : Spelled bs (spacedChars bs) := by
  induction bs with
  | nil => exact absurd rfl h
  | cons b bs ih =>
    have hbyte : [b] ≠ [] := List.cons_ne_nil b []
    cases bs with
    | nil =>
      have hlast := Spelled.last hbyte (isToken_hexByte b) (List.forall_mem_nil _)
      rwa [List.append_nil] at hlast
    | cons d bs =>
      have hspace : IsGap [' '] := by decide
      exact .next hbyte (isToken_hexByte b) (List.cons_ne_nil _ _) hspace (ih (List.cons_ne_nil d bs))

theorem hex_bytes_read_back :
    (∀ (bs : Bytes) (text : String), Written bs text.toList → read? text = some bs) ∧
      ∀ bs : Bytes, bs ≠ [] → read? (spaced bs) = some bs := by
  refine ⟨fun _ _ => read?_of_written, fun bs hbs => ?_⟩
  apply read?_of_written
  rw [spaced, String.toList_ofList]
  exact ⟨[], spacedChars bs, List.forall_mem_nil _, spelled_spacedChars hbs, rfl⟩

theorem mixed_bytes_read_back :
    Written [0x0A, 0xFF, 0x00, 0x05, 0x7E] "\t0x0aFf, :0x00 057E ".toList ∧
      read? "\t0x0aFf, :0x00 057E " = some [0x0A, 0xFF, 0x00, 0x05, 0x7E] := by
  have hfirst : IsToken [0x0A, 0xFF] ['0', 'x', '0', 'a', 'F', 'f'] :=
    .marked (.cons (by decide) (by decide) (.cons (by decide) (by decide) .nil))
  have hsecond : IsToken [0x00] ['0', 'x', '0', '0'] := .marked (.cons (by decide) (by decide) .nil)
  have hthird : IsToken [0x05, 0x7E] ['0', '5', '7', 'E'] :=
    .bare (.cons (by decide) (by decide) (.cons (by decide) (by decide) .nil))
  have hgap : IsGap [',', ' ', ':'] := by decide
  have hspace : IsGap [' '] := by decide
  have hspelled := Spelled.next (by decide) hfirst (by decide) hgap
    (.next (by decide) hsecond (by decide) hspace (.last (by decide) hthird hspace))
  have hwritten : Written [0x0A, 0xFF, 0x00, 0x05, 0x7E] "\t0x0aFf, :0x00 057E ".toList :=
    ⟨['\t'], _, by decide, hspelled, by decide⟩
  exact ⟨hwritten, hex_bytes_read_back.1 _ _ hwritten⟩

end HidAccess.Bytes
