import HidAccess.Manager
import HidAccess.Proofs.Handle.Texts
import HidAccess.Proofs.Text.Wide
import HidAccess.VendorDriver.Backend
import Mathlib.Data.List.Forall2

/-! The strings of an open handle beside those of the listed device. The listing drops an empty text; a
handle gives it, as it also gives no more of a long one than a query brings. -/

namespace HidAccess

namespace VendorEntry

def told (v : VendorEntry) : StringQuery → VendorText
  | .manufacturer => v.manufacturer
  | .product => v.product
  | .serial => v.serial
  | .indexed _ => none

theorem texts_toEntry (v : VendorEntry) (query : StringQuery) :
    v.toEntry.texts.get query = nonEmptyText (v.told query) := by
  cases query <;> rfl

/-- An answer with the characters that are listed for a query, or with none for an absent text. -/
def Answers (v : VendorEntry) (query : StringQuery) (a : VendorAnswer) : Prop :=
  ∃ data text result, a = .gives data text result ∧
    Text.Wide.untilZero text = Text.Wide.untilZero ((v.told query).getD [])

end VendorEntry

namespace VendorLibrary
open VendorEntry
variable {t : VendorText} {v : VendorEntry} {path : String} {l : VendorLibrary} {query : StringQuery}

section Cut

/-- A text that stays the same in an entry and on a handle. -/
def Carried (t : VendorText) : Prop :=
  let chars := Text.Wide.untilZero (t.getD [])
  chars ≠ [] ∧ (chars.length ≤ maxText ∨ ∃ c ∈ chars.take maxText, Text.Wide.char? c = none)

theorem nonEmptyText_of_nil (h : Text.Wide.untilZero (t.getD []) = []) : nonEmptyText t = none := by
  rcases t with _ | units
  · rfl
  · have hdecode : Text.Wide.decode? units = some "" := by
      rw [Text.Wide.decode?, show Text.Wide.untilZero units = [] from h]
      rfl
    simp [nonEmptyText, hdecode]

theorem nonEmptyText_of_ne_nil (h : Text.Wide.untilZero (t.getD []) ≠ []) :
    nonEmptyText t = Text.Wide.decode? (t.getD []) := by
  rcases t with _ | units
  · exact absurd rfl h
  · rw [nonEmptyText, Option.bind_some, Option.getD_some]
    rcases hdecode : Text.Wide.decode? units with _ | s
    · rfl
    · have hlength := Text.Wide.length_of_decode? hdecode
      have hne : s ≠ "" := by
        rintro rfl
        exact h (List.length_eq_zero_iff.mp hlength.symm)
      simp [hne]

theorem decode?_take_eq_nonEmptyText_iff :
    Text.Wide.decode? ((t.getD []).take maxText) = nonEmptyText t ↔ Carried t := by
  by_cases hnil : Text.Wide.untilZero (t.getD []) = []
  · have hempty : Text.Wide.decode? ((t.getD []).take maxText) = some "" := by
      rw [Text.Wide.decode?, Text.Wide.untilZero_take, hnil]
      rfl
    simp [hempty, nonEmptyText_of_nil hnil, Carried, hnil]
  · rw [nonEmptyText_of_ne_nil hnil, Text.Wide.decode?_take_iff, Carried]
    simp only [ne_eq, hnil, not_false_eq_true, true_and]

end Cut

section Queries

def manager (interval : Duration) : Manager (Clocked VendorLibrary) String where
  backend := backend.clocked
  interval

def platform : Platform (Clocked VendorLibrary) String :=
  backend.clocked.toDeviceCalls.alone Clocked.clock

def Scripted (v : VendorEntry) (path : String) (queries : List StringQuery) (l : VendorLibrary) : Prop :=
  ∃ answers rest, l.nodes.lookup path = some (.script (answers ++ rest)) ∧
    List.Forall₂ v.Answers queries answers

theorem lookup_map_replaced {α β : Type} [BEq α] [LawfulBEq α] (key : α) (value : β) (entries : List (α × β)) :
    (entries.map fun (k, v) => if k == key then (k, value) else (k, v)).lookup key =
      (entries.lookup key).map fun _ => value := by
  induction entries with
  | nil => rfl
  | cons entry entries ih =>
    rw [List.map_cons, List.lookup_cons, List.lookup_cons]
    cases hkey : entry.1 == key with
    | true =>
      obtain rfl := eq_of_beq hkey
      simp
    | false =>
      have hne : (key == entry.1) = false := by rw [BEq.comm, hkey]
      simpa [hkey, hne] using ih

theorem lookup_setScript {node : VendorNode} (h : l.nodes.lookup path = some node) (script : List VendorAnswer) :
    (l.setScript path script).nodes.lookup path = some (.script script) := by
  rw [setScript, lookup_map_replaced, h]
  rfl

theorem text_of_scripted {data : Bytes} {text : List Int} {result : Option Nat} {rest : List VendorAnswer}
    (h : l.nodes.lookup path = some (.script (.gives data text result :: rest))) (query : StringQuery) :
    (backend.text path query l).1 = .ok (Text.Wide.decode? (text.take maxText)) ∧
      (backend.text path query l).2.nodes.lookup path = some (.script rest) := by
  have hask : l.ask path (.text query) =
      (.ok (data, text, result), (l.note (.text query)).setScript path rest) := by
    simp only [ask, note, h]
  have hcall : backend.text path query l =
      (.ok (Text.Wide.decode? (text.take maxText)), (l.note (.text query)).setScript path rest) := by
    simp only [backend, call, hask]
  rw [hcall]
  exact ⟨rfl, lookup_setScript (l := l.note (.text query)) h rest⟩

theorem answer_eq_iff {text : List Int}
    (h : Text.Wide.untilZero text = Text.Wide.untilZero ((v.told query).getD [])) :
    Text.Wide.decode? (text.take maxText) = v.toEntry.texts.get query ↔ Carried (v.told query) := by
  rw [texts_toEntry, ← decode?_take_eq_nonEmptyText_iff]
  simp only [Text.Wide.decode?, Text.Wide.untilZero_take, h]

theorem perform_text_scripted {h : Handle String} {queries : List StringQuery} {w : Clocked VendorLibrary}
    (hl : h.live? = some path) (hs : Scripted v path (query :: queries) w.state) :
    ∃ text w', Handle.perform platform (.text query) h w = (.text text, h, w') ∧
      (text = v.toEntry.texts.get query ↔ Carried (v.told query)) ∧ Scripted v path queries w'.state := by
  rcases hs with ⟨_, rest, hnode, _ | ⟨⟨data, text, result, rfl, htext⟩, hanswers⟩⟩
  rcases text_of_scripted hnode query with ⟨hgiven, hnode'⟩
  refine ⟨Text.Wide.decode? (text.take maxText),
    { w with state := (backend.text path query w.state).2 }, ?_, answer_eq_iff htext, _, rest, hnode', hanswers⟩
  rw [platform, Handle.perform_text_of_live _ _ hl]
  have hcall : backend.clocked.text path query w =
      (.ok (Text.Wide.decode? (text.take maxText)), { w with state := (backend.text path query w.state).2 }) :=
    Prod.ext hgiven rfl
  rw [hcall]
  rfl

theorem askAll_scripted {h : Handle String} {queries : List StringQuery} {w : Clocked VendorLibrary}
    (hl : h.live? = some path) (hs : Scripted v path queries w.state) :
    List.Forall₂ (fun query answer => ∃ text, answer = .text text ∧
      (text = v.toEntry.texts.get query ↔ Carried (v.told query)))
      queries (Handle.askAll platform queries h w).1 := by
  induction queries generalizing w with
  | nil => exact .nil
  | cons query queries ih =>
    rcases perform_text_scripted hl hs with ⟨text, w', hperform, hiff, hs'⟩
    rw [Handle.askAll, hperform]
    exact .cons ⟨text, rfl, hiff⟩ (ih hs')

theorem live?_of_openPath {interval : Duration} {w w' : Clocked VendorLibrary} {h : Handle String}
    (ho : (manager interval).openPath path w = (.ok h, w')) : h.live? = some path := by
  rcases Manager.opened_of_openPath ho with ⟨d, hopen, hlive⟩
  have hopened : (openPath path w.state).1 = .ok d := congrArg Prod.fst hopen
  simp only [openPath] at hopened
  split_ifs at hopened
  split at hopened
  · rw [hlive, ← Except.ok.inj hopened]
  · cases hopened

theorem mem_enumerate {l : VendorLibrary} {devices : DeviceList} {e : DeviceEntry}
    (hlist : (backend.enumerate l).1 = .ok devices) : e ∈ devices ↔ ∃ v ∈ l.present, v.toEntry = e := by
  have hdevices : (backend.enumerate l).1 = .ok (l.present.map VendorEntry.toEntry) := rfl
  rw [← Except.ok.inj (hdevices.symm.trans hlist), List.mem_map]

/-- A handle on a listed device is asked for its strings, and the library gives the texts that it lists. Each
answer is the string of the listing exactly if the listed text is not empty and the query does not cut it. -/
theorem opened_texts_listed_iff {l : VendorLibrary} {devices : DeviceList} {e : DeviceEntry}
    {interval : Duration} {w w' : Clocked VendorLibrary} {h : Handle String}
    (hlist : (backend.enumerate l).1 = .ok devices) (he : e ∈ devices)
    (ho : (manager interval).openPath e.path w = (.ok h, w')) :
    (∃ v ∈ l.present, v.toEntry = e) ∧
    ∀ v ∈ l.present, v.toEntry = e → ∀ h' later queries, h'.live? = h.live? →
      Scripted v e.path queries later.state →
        List.Forall₂ (fun query answer => ∃ text, answer = .text text ∧
          (text = e.texts.get query ↔ Carried (v.told query)))
          queries (Handle.askAll platform queries h' later).1 := by
  refine ⟨(mem_enumerate hlist).mp he, ?_⟩
  rintro v - rfl h' later queries hlive hs
  exact askAll_scripted (hlive.trans (live?_of_openPath ho)) hs

end Queries

section Pad

def padNamed (manufacturer product serial : VendorText) : VendorEntry where
  path := [112, 48]
  vendorId := 1
  productId := 2
  manufacturer
  product
  serial

def names : List StringQuery := [.manufacturer, .product, .serial]

def speaking (v : VendorEntry) : VendorLibrary where
  present := [v]
  nodes := [("p0", .script (names.map fun query => .gives [] ((v.told query).getD []) none))]

def afterOpening (v : VendorEntry) : Clocked VendorLibrary where
  state := (speaking v).note (.opened "p0")

theorem openPath_speaking (v : VendorEntry) :
    (manager 0).openPath "p0" { state := speaking v } = (.ok (Handle.opened "p0" "p0" 0), afterOpening v) := rfl

theorem scripted_afterOpening (v : VendorEntry) : Scripted v "p0" names (afterOpening v).state := by
  refine ⟨_, [], by rw [List.append_nil]; rfl, ?_⟩
  rw [List.forall₂_map_right_iff, List.forall₂_same]
  intro query _
  exact ⟨[], _, none, rfl, rfl⟩

def plainPad : VendorEntry :=
  padNamed (some (Text.Wide.encode "Acme")) (some (Text.Wide.encode "Pad")) (some (Text.Wide.encode "42"))

theorem plain_pad_texts_listed :
    (Handle.askAll platform names (Handle.opened "p0" "p0" 0) (afterOpening plainPad)).1 =
      [.text (some "Acme"), .text (some "Pad"), .text (some "42")] := by
  have hpath : plainPad.toEntry.path = "p0" := by decide +kernel
  have hall : List.Forall₂ (fun query answer => ∃ text, answer = .text text ∧
      (text = plainPad.toEntry.texts.get query ↔ Carried (plainPad.told query)))
      names (Handle.askAll platform names (Handle.opened "p0" "p0" 0) (afterOpening plainPad)).1 :=
    (opened_texts_listed_iff (l := speaking plainPad) rfl List.mem_cons_self
      (hpath.symm ▸ openPath_speaking plainPad)).2 plainPad List.mem_cons_self rfl _ (afterOpening plainPad)
      names rfl (hpath.symm ▸ scripted_afterOpening plainPad)
  have htexts : plainPad.toEntry.texts =
      { manufacturer := some "Acme", product := some "Pad", serial := some "42" } := by decide +kernel
  have hcarried : ∀ query ∈ names, Carried (plainPad.told query) := by
    intro query hquery
    simp only [names, List.mem_cons, List.not_mem_nil, or_false] at hquery
    rcases hquery with rfl | rfl | rfl <;> exact ⟨by decide, .inl (by decide)⟩
  generalize (Handle.askAll platform names (Handle.opened "p0" "p0" 0) (afterOpening plainPad)).1 = answers at hall
  rcases hall with _ | ⟨⟨m, rfl, hm⟩, _ | ⟨⟨p, rfl, hp⟩, _ | ⟨⟨s, rfl, hs⟩, _ | _⟩⟩⟩
  rw [hm.mpr (hcarried _ (by decide)), hp.mpr (hcarried _ (by decide)), hs.mpr (hcarried _ (by decide)), htexts]
  rfl

def barePad : VendorEntry := padNamed none (some (Text.Wide.encode "Pad")) (some [])

theorem empty_texts_kept :
    (speaking barePad).enumerate.1 = .ok [barePad.toEntry] ∧
    barePad.toEntry.texts = { product := some "Pad" } ∧
    (manager 0).openPath barePad.toEntry.path { state := speaking barePad } =
      (.ok (Handle.opened "p0" "p0" 0), afterOpening barePad) ∧
    Scripted barePad "p0" names (afterOpening barePad).state ∧
    (Handle.askAll platform names (Handle.opened "p0" "p0" 0) (afterOpening barePad)).1 =
      [.text (some ""), .text (some "Pad"), .text (some "")] := by
  have hpath : barePad.toEntry.path = "p0" := by decide +kernel
  refine ⟨rfl, by decide +kernel, by rw [hpath, openPath_speaking], scripted_afterOpening barePad, ?_⟩
  decide +kernel

end Pad

end VendorLibrary

end HidAccess
