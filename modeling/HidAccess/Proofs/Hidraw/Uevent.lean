import HidAccess.Hidraw.Uevent
import HidAccess.Proofs.Text.Split
import Mathlib.Data.List.Basic

/-! Which event files describe a device: those with an id line and without a malformed one. -/

namespace HidAccess.Uevent
variable {text : String} {value : List Char}

/-- Three groups of hexadecimal digits with colons between them, each below 2^32; more may follow behind
a further colon. -/
def IsId (value : List Char) : Prop :=
  ∃ bus vendor product rest, Text.splitAt ':' value = bus :: vendor :: product :: rest ∧
    ∀ group ∈ [bus, vendor, product], (Text.Numeral.read? 16 Text.Numeral.max32 group).isSome

def idValues (text : String) : List (List Char) := valuesOf idKey (entries text)

structure Describes (text : String) : Prop where
  given : idValues text ≠ []
  wellFormed : ∀ value ∈ idValues text, IsId value

theorem isSome_groups (bus vendor product : List Char) :
    (do return (← group? bus, ← group? vendor, ← group? product) :
      Option (UInt16 × UInt16 × UInt16)).isSome ↔
      ∀ group ∈ [bus, vendor, product], (Text.Numeral.read? 16 Text.Numeral.max32 group).isSome := by
  simp only [group?, List.forall_mem_cons]
  cases Text.Numeral.read? 16 Text.Numeral.max32 bus with
  | none => simp
  | some b =>
    cases Text.Numeral.read? 16 Text.Numeral.max32 vendor with
    | none => simp
    | some v => cases Text.Numeral.read? 16 Text.Numeral.max32 product <;> simp

theorem isSome_ids? : (ids? value).isSome ↔ IsId value := by
  unfold IsId ids?
  split
  · next bus vendor product rest hsplit =>
    rw [isSome_groups, hsplit]
    constructor
    · intro h
      exact ⟨bus, vendor, product, rest, rfl, h⟩
    · rintro ⟨_, _, _, _, heq, h⟩
      simp only [List.cons.injEq] at heq
      obtain ⟨rfl, rfl, rfl, -⟩ := heq
      exact h
  · next hsplit =>
    constructor
    · simp
    · rintro ⟨bus, vendor, product, rest, h, -⟩
      exact absurd h (hsplit bus vendor product rest)

theorem getLast?_of_mapM {α β : Type} {f : α → Option β} {xs : List α} {ys : List β}
    (h : xs.mapM f = some ys) : ys.getLast? = xs.getLast?.bind f := by
  obtain rfl | ⟨before, x, rfl⟩ := List.eq_nil_or_concat' xs
  · simp_all
  · rw [List.mapM_append] at h
    obtain ⟨zs, -, h⟩ := Option.bind_eq_some_iff.mp h
    obtain ⟨last, hlast, h⟩ := Option.bind_eq_some_iff.mp h
    obtain rfl : zs ++ last = ys := Option.some.inj h
    cases hx : f x with
    | none => simp [hx] at hlast
    | some y =>
      obtain rfl : [y] = last := by simpa [hx] using hlast
      simp [hx]

theorem isSome_read?_iff :
    (read? text).isSome ↔ ∃ ids, (idValues text).mapM ids? = some ids ∧ ids ≠ [] := by
  cases hids : (idValues text).mapM ids? with
  | none =>
    rw [idValues] at hids
    simp [read?, hids]
  | some ids =>
    rw [idValues] at hids
    cases hlast : ids.getLast? with
    | none => simp [read?, hids, List.getLast?_eq_none_iff.mp hlast]
    | some id =>
      have hne : ids ≠ [] := by
        rintro rfl
        simp at hlast
      simp [read?, hids, hlast, hne]

theorem isSome_read? : (read? text).isSome ↔ Describes text := by
  rw [isSome_read?_iff]
  constructor
  · rintro ⟨ids, hids, hne⟩
    constructor
    · have hlength := Text.length_of_mapM hids
      intro hnil
      simp [hnil, hne] at hlength
    · intro value hvalue
      rw [← isSome_ids?]
      exact (Text.isSome_mapM _).mp (by simp [hids]) value hvalue
  · intro h
    have hsome : ((idValues text).mapM ids?).isSome := by
      rw [Text.isSome_mapM]
      intro value hvalue
      exact isSome_ids?.mpr (h.wellFormed value hvalue)
    obtain ⟨ids, hids⟩ := Option.isSome_iff_exists.mp hsome
    refine ⟨ids, hids, ?_⟩
    rintro rfl
    have hlength := Text.length_of_mapM hids
    exact h.given (List.length_eq_zero_iff.mp hlength.symm)

end HidAccess.Uevent
