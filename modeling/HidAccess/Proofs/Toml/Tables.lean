import HidAccess.Toml.Document
import Mathlib.Data.List.Basic

/-! Tables that grow at free places. A path is free in a table if it leads through open tables, as far as there
is anything, to a key that is not there. What is put at a free path is put there and nowhere else, and it takes
its place from the paths that it starts, or that start with it. -/

namespace HidAccess.Toml

def setKey (key : String) (v : Value) : Table → Table
  | [] => [(key, v)]
  | (k, old) :: rest => if k == key then (key, v) :: rest else (k, old) :: setKey key v rest

def tableUnder (key : String) (t : Table) : Table :=
  match t.lookup key with
  | some (.table entries) => entries
  | _ => []

/-- Puts a value at the end of a path, through tables that are made where they are missing. -/
def insertAt : List String → Value → Table → Table
  | [], _, t => t
  | key :: path, v, t =>
    if path = [] then setKey key v t
    else setKey key (.table (insertAt path v (tableUnder key t))) t

namespace OpenTable
variable {key k : String} {path p q tables : List String} {n : Node} {v : Value} {o o' : Origin} {byKey : Bool}
  {s t base : OpenTable} {entries : List (String × Node)} {f g : OpenTable → OpenTable}

def tableAt (o : Origin) (key : String) (t : OpenTable) : OpenTable :=
  match t.get? key with
  | some (.table s) => s
  | _ => .empty o

def adjust (o : Origin) : List String → (OpenTable → OpenTable) → OpenTable → OpenTable
  | [], f, t => f t
  | key :: path, f, t => t.set key (.table (adjust o path f (t.tableAt o key)))

def IsFree : List String → OpenTable → Prop
  | [], _ => True
  | key :: path, t =>
    match t.get? key with
    | none => True
    | some (.table s) => path ≠ [] ∧ IsFree path s
    | some _ => False

inductive AllDotted : OpenTable → Prop where
  | mk {t : OpenTable} (origin : ∀ key s, t.get? key = some (.table s) → s.origin = .dotted)
      (within : ∀ key s, t.get? key = some (.table s) → AllDotted s) : AllDotted t

section Entries

theorem lookup_setEntry_self (key : String) (n : Node) (entries : List (String × Node)) :
    (setEntry key n entries).lookup key = some n := by
  induction entries with
  | nil => simp [setEntry]
  | cons e entries ih =>
    obtain ⟨k, old⟩ := e
    by_cases hk : k = key
    · simp [setEntry, hk]
    · have hne : (key == k) = false := beq_eq_false_iff_ne.mpr (Ne.symm hk)
      simp [setEntry, hk, List.lookup_cons, hne, ih]

theorem lookup_setEntry_ne (hk : k ≠ key) (n : Node) (entries : List (String × Node)) :
    (setEntry key n entries).lookup k = entries.lookup k := by
  have hne : (k == key) = false := beq_eq_false_iff_ne.mpr hk
  induction entries with
  | nil => simp [setEntry, List.lookup_cons, hne]
  | cons e entries ih =>
    obtain ⟨k', old⟩ := e
    by_cases hk' : k' = key
    · simp [setEntry, hk', List.lookup_cons, hne]
    · simp [setEntry, hk', List.lookup_cons, ih]

theorem setEntry_setEntry (key : String) (n n' : Node) (entries : List (String × Node)) :
    setEntry key n' (setEntry key n entries) = setEntry key n' entries := by
  induction entries with
  | nil => simp [setEntry]
  | cons e entries ih =>
    obtain ⟨k, old⟩ := e
    by_cases hk : k = key
    · simp [setEntry, hk]
    · simp [setEntry, hk, ih]

theorem closeEntries_setEntry (key : String) (n : Node) (entries : List (String × Node)) :
    closeEntries (setEntry key n entries) = setKey key n.close (closeEntries entries) := by
  induction entries with
  | nil => rfl
  | cons e entries ih =>
    obtain ⟨k, old⟩ := e
    by_cases hk : k = key
    · simp [setEntry, closeEntries, setKey, hk]
    · simp [setEntry, closeEntries, setKey, hk, ih]

theorem lookup_closeEntries (key : String) (entries : List (String × Node)) :
    (closeEntries entries).lookup key = (entries.lookup key).map Node.close := by
  induction entries with
  | nil => rfl
  | cons e entries ih =>
    obtain ⟨k, old⟩ := e
    rw [closeEntries, List.lookup_cons, List.lookup_cons, ih]
    cases key == k <;> rfl

@[simp] theorem get?_set_self (t : OpenTable) (key : String) (n : Node) : (t.set key n).get? key = some n :=
  lookup_setEntry_self key n t.entries

theorem get?_set_ne (t : OpenTable) (hk : k ≠ key) (n : Node) : (t.set key n).get? k = t.get? k :=
  lookup_setEntry_ne hk n t.entries

@[simp] theorem set_set (t : OpenTable) (key : String) (n n' : Node) :
    (t.set key n).set key n' = t.set key n' :=
  congrArg (OpenTable.mk t.origin) (setEntry_setEntry key n n' t.entries)

theorem close_set (t : OpenTable) (key : String) (n : Node) :
    (t.set key n).close = setKey key n.close t.close := by
  obtain ⟨o, entries⟩ := t
  exact closeEntries_setEntry key n entries

theorem lookup_close (t : OpenTable) (key : String) : t.close.lookup key = (t.get? key).map Node.close := by
  obtain ⟨o, entries⟩ := t
  exact lookup_closeEntries key entries

theorem erase_of_absent (h : t.get? key = none) : t.erase key = t := by
  obtain ⟨o, entries⟩ := t
  have hall : entries.filter (fun e => e.1 != key) = entries := by
    rw [List.filter_eq_self]
    intro e he
    have hne : (key == e.1) = false := by simpa using List.lookup_eq_none_iff.mp h e he
    rw [bne_iff_ne]
    exact Ne.symm (beq_eq_false_iff_ne.mp hne)
  exact congrArg (OpenTable.mk o) hall

end Entries

section Adjust

theorem adjust_append (o : Origin) (p q : List String) (f : OpenTable → OpenTable) (t : OpenTable) :
    adjust o (p ++ q) f t = adjust o p (adjust o q f) t := by
  induction p generalizing t with
  | nil => rfl
  | cons key p ih => rw [List.cons_append, adjust, ih, adjust]

theorem adjust_adjust (o o' : Origin) (p : List String) (f g : OpenTable → OpenTable) (t : OpenTable) :
    adjust o p f (adjust o' p g t) = adjust o' p (fun s => f (g s)) t := by
  induction p generalizing t with
  | nil => rfl
  | cons key p ih =>
    have hfound : (adjust o' (key :: p) g t).tableAt o key = adjust o' p g (t.tableAt o' key) := by
      simp [adjust, tableAt]
    rw [adjust, hfound, ih]
    simp [adjust]

theorem isFree_empty (p : List String) (o : Origin) : IsFree p (.empty o) := by
  cases p <;> exact trivial

theorem isFree_singleton : IsFree [key] t ↔ t.get? key = none := by
  rw [IsFree]
  cases t.get? key with
  | none => simp
  | some n => cases n <;> simp

theorem IsFree.tableAt (h : IsFree (key :: path) t) (o : Origin) : IsFree path (t.tableAt o key) := by
  rw [IsFree] at h
  rw [OpenTable.tableAt]
  cases hget : t.get? key with
  | none => exact isFree_empty path o
  | some n =>
    rw [hget] at h
    cases n with
    | table s => exact h.2
    | value v => exact h.elim
    | tables ts => exact h.elim

theorem isFree_set_ne (hk : k ≠ key) : IsFree (k :: path) (t.set key n) ↔ IsFree (k :: path) t := by
  rw [IsFree, IsFree, get?_set_ne t hk]

theorem isFree_set_self : IsFree (key :: path) (t.set key (.table s)) ↔ path ≠ [] ∧ IsFree path s := by
  rw [IsFree, get?_set_self]

theorem isFree_append_adjust (hq : q ≠ []) :
    IsFree (p ++ q) (adjust o p (fun _ => s) t) ↔ IsFree q s := by
  induction p generalizing t with
  | nil => rfl
  | cons key p ih =>
    rw [List.cons_append, adjust, isFree_set_self, ih]
    simp [hq]

theorem IsFree.adjust (h : IsFree q t) (hp : ¬ q <+: p)
    (hf : ∀ s rest, rest ≠ [] → q = p ++ rest → IsFree rest s → IsFree rest (f s)) :
    IsFree q (adjust o p f t) := by
  induction p generalizing q t with
  | nil =>
    refine hf t q ?_ rfl h
    rintro rfl
    exact hp List.nil_prefix
  | cons key p ih =>
    cases q with
    | nil => exact trivial
    | cons k q =>
      rw [OpenTable.adjust]
      by_cases hk : k = key
      · subst hk
        rw [List.cons_prefix_cons] at hp
        have hp := fun hq => hp ⟨rfl, hq⟩
        refine isFree_set_self.mpr ⟨?_, ih (h.tableAt o) hp fun s rest hrest hq => ?_⟩
        · rintro rfl
          exact hp List.nil_prefix
        · exact hf s rest hrest (by rw [hq, List.cons_append])
      · exact (isFree_set_ne hk).mpr h

theorem origin_adjust (hf : ∀ s, (f s).origin = s.origin) (p : List String) (t : OpenTable) :
    (adjust o p f t).origin = t.origin := by
  cases p with
  | nil => exact hf t
  | cons key p => rfl

theorem origin_adjust_set (tables : List String) (key : String) (n : Node) (t : OpenTable) :
    (adjust o tables (·.set key n) t).origin = t.origin :=
  origin_adjust (f := (·.set key n)) (fun _ => rfl) tables t

/-- What is put at a free path shows at this path. -/
theorem close_adjust_set (h : IsFree (tables ++ [key]) t) :
    (adjust o tables (·.set key n) t).close = insertAt (tables ++ [key]) n.close t.close := by
  induction tables generalizing t with
  | nil => simp [adjust, insertAt, close_set]
  | cons k tables ih =>
    have hunder : (t.tableAt o k).close = tableUnder k t.close := by
      rw [List.cons_append, IsFree] at h
      rw [tableAt, tableUnder, lookup_close]
      cases hget : t.get? k with
      | none => rfl
      | some node =>
        rw [hget] at h
        cases node with
        | table s => rfl
        | value v => exact h.elim
        | tables ts => exact h.elim
    rw [adjust, close_set, Node.close, ih (h.tableAt o), hunder]
    simp [insertAt]

end Adjust

section Dotted

theorem allDotted_empty (o : Origin) : AllDotted (.empty o) :=
  .mk (fun _ _ h => nomatch h) fun _ _ h => nomatch h

theorem AllDotted.tableAt (h : AllDotted t) (key : String) :
    AllDotted (t.tableAt .dotted key) ∧ (t.tableAt .dotted key).origin = .dotted := by
  obtain ⟨horigin, hwithin⟩ := h
  rw [OpenTable.tableAt]
  split
  · next s hget => exact ⟨hwithin key s hget, horigin key s hget⟩
  · exact ⟨allDotted_empty _, rfl⟩

theorem AllDotted.set (h : AllDotted t) (key : String)
    (hs : ∀ s, n = .table s → AllDotted s ∧ s.origin = .dotted) :
    AllDotted (t.set key n) := by
  obtain ⟨horigin, hwithin⟩ := h
  have hall (k : String) (s : OpenTable) (hget : (t.set key n).get? k = some (.table s)) :
      s.origin = .dotted ∧ AllDotted s := by
    by_cases hk : k = key
    · subst hk
      rw [get?_set_self] at hget
      exact (hs s (Option.some.inj hget)).symm
    · rw [get?_set_ne t hk] at hget
      exact ⟨horigin k s hget, hwithin k s hget⟩
  exact .mk (fun k s hget => (hall k s hget).1) fun k s hget => (hall k s hget).2

theorem AllDotted.adjust (h : AllDotted t) (hf : ∀ s, AllDotted s → AllDotted (f s))
    (horigin : ∀ s, (f s).origin = s.origin) (p : List String) : AllDotted (adjust .dotted p f t) := by
  induction p generalizing t with
  | nil => exact hf t h
  | cons key p ih =>
    obtain ⟨hsub, hdotted⟩ := h.tableAt key
    refine h.set key fun s hs => ?_
    obtain rfl := Node.table.inj hs
    exact ⟨ih hsub, (origin_adjust horigin p _).trans hdotted⟩

theorem AllDotted.adjust_set (h : AllDotted t) (tables : List String) (key : String) (v : Value) :
    AllDotted (OpenTable.adjust .dotted tables (·.set key (.value v)) t) := by
  refine h.adjust (f := (·.set key (.value v))) (fun s hs => ?_) (fun _ => rfl) tables
  exact hs.set key fun _ hv => nomatch hv

end Dotted

section Changes

/-- At a free path a change succeeds that does so for a table without the last key. -/
theorem changeAt_of_free {f : OpenTable → Option OpenTable} (h : IsFree (tables ++ [key]) t)
    (hdotted : byKey = true → AllDotted t)
    (hf : ∀ s, (tables = [] → s = t) → (tables ≠ [] → byKey = true → s.origin = .dotted) →
      s.get? key = none → f s = some (g s)) :
    changeAt byKey f tables t = some (adjust (if byKey then .dotted else .passed) tables g t) := by
  induction tables generalizing t with
  | nil => exact hf t (fun _ => rfl) (fun hne => absurd rfl hne) (isFree_singleton.mp h)
  | cons k tables ih =>
    have hnext (sub : OpenTable) (hfree : IsFree (tables ++ [key]) sub)
        (hsub : byKey = true → AllDotted sub ∧ sub.origin = .dotted) :
        changeAt byKey f tables sub = some (adjust (if byKey then .dotted else .passed) tables g sub) := by
      refine ih hfree (fun hb => (hsub hb).1) fun s hnil hcons hget =>
        hf s (fun h => nomatch h) (fun _ hb => ?_) hget
      by_cases htables : tables = []
      · rw [hnil htables]
        exact (hsub hb).2
      · exact hcons htables hb
    have hfree := h.tableAt (if byKey then .dotted else .passed)
    rw [List.cons_append, IsFree] at h
    rw [changeAt, adjust]
    rw [tableAt] at hfree ⊢
    cases hget : t.get? k with
    | none =>
      simp only [hget] at hfree
      simp only
      rw [hnext _ hfree fun hb => ⟨allDotted_empty _, by rw [hb]; rfl⟩]
      rfl
    | some node =>
      rw [hget] at h
      cases node with
      | value v => exact h.elim
      | tables ts => exact h.elim
      | table sub =>
        have hsub (hb : byKey = true) : AllDotted sub ∧ sub.origin = .dotted := by
          obtain ⟨horigin, hwithin⟩ := hdotted hb
          exact ⟨hwithin k sub hget, horigin k sub hget⟩
        have hpass : (byKey && sub.origin == .header) = false := by
          cases hb : byKey with
          | false => rfl
          | true => simp [(hsub hb).2]
        simp only [hpass, hnext sub h.2 hsub]
        rfl

theorem splitPath?_concat (tables : List String) (key : String) :
    splitPath? (tables ++ [key]) = some (tables, key) := by
  simp [splitPath?]

theorem put_of_free (h : IsFree (tables ++ [key]) base) (done : OpenTable) :
    base.put (tables ++ [key]) done = some (adjust .passed (tables ++ [key]) (fun _ => done) base) := by
  have hchange : changeAt false (fun s => some (s.set key (.table done))) tables base =
      some (adjust .passed tables (·.set key (.table done)) base) :=
    changeAt_of_free h (fun hb => nomatch hb) fun _ _ _ _ => rfl
  rw [put, splitPath?_concat, adjust_append]
  exact hchange

theorem define_of_free (h : IsFree (tables ++ [key]) t) (hheader : t.origin = .header) (hdotted : AllDotted t)
    (v : Value) :
    t.define (tables ++ [key]) v = some (adjust .dotted tables (·.set key (.value v)) t) := by
  rw [define, splitPath?_concat]
  refine changeAt_of_free h (fun _ => hdotted) fun s hnil hcons hget => ?_
  have hpass : ((s.origin == Origin.dotted) == tables.isEmpty) = false := by
    cases tables with
    | nil => simp [hnil rfl, hheader]
    | cons k tables => simp [hcons (by simp) rfl]
  simp [hpass, hget]

theorem lookAt_of_free (h : IsFree (tables ++ [key]) t) :
    takeForHeader.lookAt tables key t = some (.empty .header) := by
  induction tables generalizing t with
  | nil =>
    have hget : t.get? key = none := isFree_singleton.mp h
    rw [takeForHeader.lookAt, hget]
  | cons k tables ih =>
    have hfree := h.tableAt .passed
    rw [List.cons_append, IsFree] at h
    rw [takeForHeader.lookAt]
    cases hget : t.get? k with
    | none => rfl
    | some node =>
      rw [hget] at h
      cases node with
      | value v => exact h.elim
      | tables ts => exact h.elim
      | table s => exact ih h.2

theorem takeForHeader_of_free (h : IsFree (tables ++ [key]) t) :
    ∃ root, t.takeForHeader (tables ++ [key]) = some (.empty .header, root) ∧
      ∀ done, root.put (tables ++ [key]) done =
        some (adjust .passed (tables ++ [key]) (fun _ => done) t) := by
  have hchange : changeAt false (fun s => some (s.erase key)) tables t =
      some (adjust .passed tables (fun s => s) t) :=
    changeAt_of_free h (fun hb => nomatch hb) fun s _ _ hget => congrArg some (erase_of_absent hget)
  refine ⟨adjust .passed tables (fun s => s) t, ?_, fun done => ?_⟩
  · simp only [takeForHeader, splitPath?_concat, Option.bind_eq_bind, Option.bind_some, lookAt_of_free h,
      hchange]
    rfl
  · have hfree : IsFree (tables ++ [key]) (adjust .passed tables (fun s => s) t) :=
      h.adjust (fun hp => absurd hp.length_le (by simp)) fun _ _ _ _ hs => hs
    rw [put_of_free hfree, adjust_append, adjust_adjust, ← adjust_append]

end Changes

section Settings

def Apart (p q : List String) : Prop := ¬ p <+: q ∧ ¬ q <+: p

theorem IsFree.adjust_set (h : IsFree q t) (hq : Apart (tables ++ [key]) q) :
    IsFree q (OpenTable.adjust o tables (·.set key n) t) := by
  refine h.adjust (fun hp => hq.2 (hp.trans (List.prefix_append _ _))) fun s rest hrest heq hs => ?_
  obtain ⟨k, rest, rfl⟩ := List.exists_cons_of_ne_nil hrest
  have hk : k ≠ key := by
    rintro rfl
    exact hq.1 ⟨rest, by simp [heq]⟩
  exact (isFree_set_ne hk).mpr hs

/-- Settings at free paths, none of which starts with another. -/
theorem foldlM_define (settings : List (List String × Value)) (hne : ∀ e ∈ settings, e.1 ≠ [])
    (hfree : ∀ e ∈ settings, IsFree e.1 t) (hapart : settings.Pairwise fun e e' => Apart e.1 e'.1)
    (hheader : t.origin = .header) (hdotted : AllDotted t) :
    ∃ t', settings.foldlM (fun t (path, v) => t.define path v) t = some t' ∧
      t'.close = settings.foldl (fun t e => insertAt e.1 e.2 t) t.close := by
  induction settings generalizing t with
  | nil => exact ⟨t, rfl, rfl⟩
  | cons e settings ih =>
    obtain ⟨path, v⟩ := e
    obtain rfl | ⟨tables, key, rfl⟩ := List.eq_nil_or_concat' path
    · exact absurd rfl (hne _ List.mem_cons_self)
    have hhere : IsFree (tables ++ [key]) t := hfree _ List.mem_cons_self
    rw [List.pairwise_cons] at hapart
    obtain ⟨t', hrest, hclose⟩ := ih (t := OpenTable.adjust .dotted tables (·.set key (.value v)) t)
      (fun e he => hne e (List.mem_cons_of_mem _ he))
      (fun e he => (hfree e (List.mem_cons_of_mem _ he)).adjust_set (hapart.1 e he)) hapart.2
      ((origin_adjust_set tables key _ t).trans hheader) (hdotted.adjust_set tables key v)
    refine ⟨t', ?_, ?_⟩
    · rw [List.foldlM_cons]
      simp only [define_of_free hhere hheader hdotted v, Option.bind_eq_bind, Option.bind_some, hrest]
    · rw [hclose, close_adjust_set hhere]
      rfl

end Settings

end OpenTable

end HidAccess.Toml
