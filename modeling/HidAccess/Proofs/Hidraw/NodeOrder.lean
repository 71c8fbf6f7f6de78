import HidAccess.Hidraw.Backend
import HidAccess.Proofs.Text.Numeral

/-! The order of nodes: sorting keeps it when names are left out, and numbers in the names decide it
whatever order the names came in. -/

namespace HidAccess.HidrawPaths
variable {α : Type} {le : α → α → Bool} {names names' : List FileName}

theorem split_unique {p : α → Bool} {before behind before' behind' : List α}
    (hb : ∀ x ∈ before, p x) (hh : ∀ x ∈ behind, ¬ p x) (hb' : ∀ x ∈ before', p x)
    (hh' : ∀ x ∈ behind', ¬ p x) (heq : before ++ behind = before' ++ behind') :
    before = before' ∧ behind = behind' := by
  have hfilter := congrArg (List.filter p) heq
  rw [List.filter_append, List.filter_append, List.filter_eq_self.mpr hb, List.filter_eq_self.mpr hb',
    List.filter_eq_nil_iff.mpr hh, List.filter_eq_nil_iff.mpr hh', List.append_nil,
    List.append_nil] at hfilter
  subst hfilter
  exact ⟨rfl, List.append_cancel_left heq⟩

/-- A stable sort of some elements is what is left of the sort of all. -/
theorem filter_mergeSort (trans : ∀ a b c, le a b → le b c → le a c) (total : ∀ a b, le a b || le b a)
    (q : α → Bool) (xs : List α) : (xs.mergeSort le).filter q = (xs.filter q).mergeSort le := by
  induction xs with
  | nil => simp
  | cons a xs ih =>
    obtain ⟨before, behind, hcons, hsplit, hbefore⟩ := List.mergeSort_cons trans total a xs
    by_cases ha : q a
    · obtain ⟨before', behind', hcons', hsplit', hbefore'⟩ :=
        List.mergeSort_cons trans total a (xs.filter q)
      -- Both sides put `a` behind those elements that are not behind it.
      have hsorted := List.pairwise_mergeSort trans total (a :: xs)
      have hsorted' := List.pairwise_mergeSort trans total (a :: xs.filter q)
      rw [hcons, List.pairwise_append, List.pairwise_cons] at hsorted
      rw [hcons', List.pairwise_append, List.pairwise_cons] at hsorted'
      have hsame : before.filter q ++ behind.filter q = before' ++ behind' := by
        rw [← List.filter_append, ← hsplit, ih, hsplit']
      obtain ⟨rfl, rfl⟩ := split_unique (p := fun x => !le a x)
        (fun x hx => hbefore x ((List.mem_filter.mp hx).1))
        (fun x hx => by simp [hsorted.2.1.1 x ((List.mem_filter.mp hx).1)])
        hbefore' (fun x hx => by simp [hsorted'.2.1.1 x hx]) hsame
      rw [List.filter_cons_of_pos ha, hcons, hcons', List.filter_append, List.filter_cons_of_pos ha]
    · rw [List.filter_cons_of_neg ha, ← ih, hcons, hsplit, List.filter_append, List.filter_append,
        List.filter_cons_of_neg ha]

def notBehind (a b : FileName) : Bool := decide (nodeIndex a.shown ≤ nodeIndex b.shown)

def inOrder (names : List FileName) : List FileName :=
  (names.filter fun name => isNode name.shown).mergeSort notBehind

theorem notBehind_trans (a b c : FileName) (hab : notBehind a b) (hbc : notBehind b c) :
    notBehind a c := by
  simp only [notBehind, decide_eq_true_eq] at *
  omega

theorem notBehind_total (a b : FileName) : notBehind a b || notBehind b a := by
  simp only [notBehind, Bool.or_eq_true, decide_eq_true_eq]
  omega

theorem sortNodes_shown (names : List FileName) :
    sortNodes (names.map FileName.shown) = (inOrder names).map FileName.shown := by
  rw [inOrder, sortNodes, List.filter_map, List.map_mergeSort]
  · rfl
  · intro a _ b _
    rfl

theorem inOrder_perm (names : List FileName) :
    (inOrder names).Perm (names.filter fun name => isNode name.shown) :=
  List.mergeSort_perm _ _

theorem filter_inOrder (q : FileName → Bool) (names : List FileName) :
    (inOrder names).filter q = inOrder (names.filter q) := by
  have hnames : (names.filter fun name => isNode name.shown).filter q =
      (names.filter q).filter fun name => isNode name.shown := by
    rw [List.filter_filter, List.filter_filter]
    apply List.filter_congr
    intro name _
    exact Bool.and_comm _ _
  rw [inOrder, inOrder, filter_mergeSort notBehind_trans notBehind_total, hnames]

def numbered (n : Nat) : FileName := .text (nodeStart ++ toString n)

theorem shown_numbered (n : Nat) :
    (numbered n).shown.toList = nodeStart.toList ++ (toString n).toList :=
  String.toList_append

theorem dropStarts_numbered (n : Nat) :
    Text.dropStarts nodeStart.toList (numbered n).shown.toList = (toString n).toList := by
  have hletter : 'h' ∉ (toString n).toList :=
    Text.Numeral.not_mem_of_digits? (by decide) (Text.Numeral.digits?_decimal n)
  have hstart : nodeStart.toList = 'h' :: "idraw".toList := rfl
  rw [shown_numbered, hstart]
  exact Text.dropStarts_append (Text.dropStart?_of_head hletter)

theorem nodeIndex_numbered {n : Nat} (hn : n ≤ Text.Numeral.max32) :
    nodeIndex (numbered n).shown = n := by
  rw [nodeIndex, dropStarts_numbered, Text.Numeral.read?_decimal hn, Option.getD_some]

def IsNumbered (name : FileName) : Prop := ∃ n < Text.Numeral.max32, name = numbered n

theorem mem_of_inOrder {name : FileName} (h : name ∈ inOrder names) : name ∈ names :=
  (List.mem_filter.mp ((inOrder_perm names).mem_iff.mp h)).1

theorem pairwise_inOrder (names : List FileName) :
    (inOrder names).Pairwise fun a b => notBehind a b :=
  List.pairwise_mergeSort notBehind_trans notBehind_total _

theorem notBehind_numbered {m n : Nat} (hm : m < Text.Numeral.max32) (hn : n < Text.Numeral.max32) :
    notBehind (numbered m) (numbered n) ↔ m ≤ n := by
  rw [notBehind, nodeIndex_numbered (Nat.le_of_lt hm), nodeIndex_numbered (Nat.le_of_lt hn),
    decide_eq_true_eq]

theorem exists_numbers (h : ∀ name ∈ names, IsNumbered name) :
    ∃ numbers : List Nat, names = numbers.map numbered ∧ ∀ n ∈ numbers, n < Text.Numeral.max32 := by
  induction names with
  | nil => exact ⟨[], by simp⟩
  | cons name names ih =>
    rw [List.forall_mem_cons] at h
    obtain ⟨⟨n, hn, rfl⟩, hrest⟩ := h
    obtain ⟨numbers, rfl, hnumbers⟩ := ih hrest
    exact ⟨n :: numbers, rfl, List.forall_mem_cons.mpr ⟨hn, hnumbers⟩⟩

theorem inOrder_ascending (h : ∀ name ∈ names, IsNumbered name) (hn : names.Nodup) :
    ∃ numbers : List Nat, inOrder names = numbers.map numbered ∧ numbers.Pairwise (· < ·) := by
  obtain ⟨numbers, heq, hnumbers⟩ := exists_numbers fun name hname => h name (mem_of_inOrder hname)
  have hsorted := pairwise_inOrder names
  have hnodup : (inOrder names).Nodup := (inOrder_perm names).nodup_iff.mpr (hn.filter _)
  rw [heq, List.pairwise_map] at hsorted
  rw [heq, List.Nodup, List.pairwise_map] at hnodup
  refine ⟨numbers, heq, ?_⟩
  apply (hsorted.and hnodup).imp_of_mem
  intro m n hm hn ⟨hle, hne⟩
  have hle' := (notBehind_numbered (hnumbers m hm) (hnumbers n hn)).mp hle
  have hne' : m ≠ n := fun h => hne (congrArg numbered h)
  omega

theorem inOrder_of_perm (hp : names'.Perm names) (h : ∀ name ∈ names, IsNumbered name) :
    inOrder names' = inOrder names := by
  have hperm : (inOrder names').Perm (inOrder names) :=
    (inOrder_perm names').trans ((hp.filter _).trans (inOrder_perm names).symm)
  apply List.Perm.eq_of_pairwise _ (pairwise_inOrder names') (pairwise_inOrder names) hperm
  intro a b ha hb hab hba
  obtain ⟨m, hm, rfl⟩ := h a (hp.mem_iff.mp (mem_of_inOrder ha))
  obtain ⟨n, hn, rfl⟩ := h b (mem_of_inOrder hb)
  have hmn := (notBehind_numbered hm hn).mp hab
  have hnm := (notBehind_numbered hn hm).mp hba
  rw [Nat.le_antisymm hmn hnm]

end HidAccess.HidrawPaths
