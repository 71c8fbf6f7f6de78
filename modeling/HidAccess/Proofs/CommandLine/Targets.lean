import HidAccess.Proofs.CommandLine.Items

/-! How accepted command lines name a device. Behind the command each option of a device is given at most
once, and its value is in the target. A target that passes the check has one of three forms, and each form is
opened in its own way, so nothing that was given about a device is left out. -/

namespace HidAccess
variable {g g' : Given} {i : Item} {items before after : List Item} {t t' : Target} {o o' : ValueOption}
  {c : CommandName} {r : CommandRequest} {words rest : List String} {word text name : String}

def CommandRequest.target? : CommandRequest → Option Target
  | list .. => none
  | info target | read target .. | poll target .. => some target

namespace Given

theorem once_eq_ok {α : Type} {old : Option α} {value : Except UsageError α} {f : Option α → Given}
    (h : (once old value).map f = .ok g') : old = none ∧ ∃ a, value = .ok a ∧ g' = f (some a) := by
  cases old with
  | some a => cases h
  | none =>
    cases value with
    | error e => cases h
    | ok a =>
      injection h with h
      exact ⟨rfl, a, rfl, h.symm⟩

theorem deviceId_eq_ok {id : UInt16} (h : deviceId text = .ok id) : DeviceId.read? text = some id := by
  unfold deviceId at h
  cases hread : DeviceId.read? text with
  | none => simp [hread, wellFormed] at h
  | some id' => simpa [hread, wellFormed] using h

theorem target_of_put (h : g.put o text = .ok g') (ho : o ∉ ValueOption.ofTarget) : g'.target = g.target := by
  cases o
  case vendorId | productId | path | serial => simp [ValueOption.ofTarget] at ho
  all_goals
    obtain ⟨-, _, -, rfl⟩ := once_eq_ok h
    rfl

theorem target_of_raise {f : Flag} (h : g.raise f = .ok g') : g'.target = g.target := by
  cases f <;>
  · simp only [raise] at h
    split at h
    · cases h
    · injection h with h
      rw [← h]

end Given

namespace Target

/-- Each part of the target is the value of its option, which is given once or not at all. -/
structure IsGivenBy (t : Target) (items : List Item) : Prop where
  path : items.filterMap (Item.value? .path) = t.path.toList
  vendorId : (items.filterMap (Item.value? .vendorId)).map DeviceId.read? = t.vendorId.toList.map some
  productId : (items.filterMap (Item.value? .productId)).map DeviceId.read? = t.productId.toList.map some
  serial : items.filterMap (Item.value? .serial) = t.serial.toList

theorem isGivenBy_nil : IsGivenBy {} [] := ⟨rfl, rfl, rfl, rfl⟩

theorem IsGivenBy.skip (h : t.IsGivenBy items) (hi : ∀ o ∈ ValueOption.ofTarget, i.value? o = none) :
    t.IsGivenBy (items ++ [i]) := by
  simp only [ValueOption.ofTarget, List.forall_mem_cons] at hi
  obtain ⟨hpath, hvendor, hproduct, hserial, -⟩ := hi
  constructor
  · simpa [hpath] using h.path
  · simpa [hvendor] using h.vendorId
  · simpa [hproduct] using h.productId
  · simpa [hserial] using h.serial

theorem IsGivenBy.put (h : g.target.IsGivenBy items) (hput : g.put o text = .ok g')
    (hi : ∀ o', i.value? o' = if o = o' then some text else none) : g'.target.IsGivenBy (items ++ [i]) := by
  by_cases ho : o ∈ ValueOption.ofTarget
  · -- The part of the option was empty; the other three parts stay as they are.
    obtain ⟨hpath, hvendor, hproduct, hserial⟩ := h
    cases o
    case path | serial =>
      obtain ⟨hold, a, ha, rfl⟩ := Given.once_eq_ok hput
      injection ha with ha
      constructor <;> simp_all
    case vendorId | productId =>
      obtain ⟨hold, a, ha, rfl⟩ := Given.once_eq_ok hput
      have hread := Given.deviceId_eq_ok ha
      constructor <;> simp_all
    all_goals simp [ValueOption.ofTarget] at ho
  · rw [Given.target_of_put hput ho]
    refine h.skip fun o' ho' => ?_
    rw [hi, if_neg]
    rintro rfl
    exact ho ho'

theorem IsGivenBy.take (h : g.target.IsGivenBy items) (htake : g.take i = .ok g') :
    g'.target.IsGivenBy (items ++ [i]) := by
  cases i with
  | joined o text => exact h.put htake fun _ => rfl
  | apart o text => exact h.put htake fun _ => rfl
  | raised f =>
    rw [Given.target_of_raise htake]
    exact h.skip fun _ _ => rfl

theorem IsGivenBy.takeAll (h : g.target.IsGivenBy before) (hall : g.takeAll after = .ok g') :
    g'.target.IsGivenBy (before ++ after) := by
  induction after generalizing g before with
  | nil =>
    injection hall with hall
    rw [List.append_nil, ← hall]
    exact h
  | cons i after ih =>
    rw [Given.takeAll_cons] at hall
    obtain ⟨g₁, htake, hrest⟩ := exists_of_bind_eq_ok hall
    simpa using ih (h.take htake) hrest

theorem checked_eq_ok (h : t.checked = .ok t') : t' = t ∧ t.isAmbiguous = false ∧ t.isIncomplete = false := by
  unfold checked at h
  split at h
  · cases h
  split at h
  · cases h
  injection h with h
  exact ⟨h.symm, by simpa using ‹¬ t.isAmbiguous = true›, by simpa using ‹¬ t.isIncomplete = true›⟩

/-- A path alone, or both ids with or without a serial number, or nothing. -/
theorem forms (ha : t.isAmbiguous = false) (hi : t.isIncomplete = false) :
    (∃ path, t = { path := some path }) ∨
    (∃ vendorId productId, t = { vendorId := some vendorId, productId := some productId, serial := t.serial }) ∨
    t = {} := by
  obtain ⟨path, vendorId, productId, serial⟩ := t
  cases path with
  | some path =>
    have hnone : vendorId = none ∧ productId = none ∧ serial = none := by simpa [isAmbiguous, and_assoc] using ha
    obtain ⟨rfl, rfl, rfl⟩ := hnone
    exact .inl ⟨path, rfl⟩
  | none =>
    cases vendorId with
    | some vendorId =>
      cases productId with
      | some productId => exact .inr (.inl ⟨vendorId, productId, rfl⟩)
      | none => simp [isIncomplete] at hi
    | none =>
      have hnone : productId = none ∧ serial = none := by simpa [isIncomplete] using hi
      obtain ⟨rfl, rfl⟩ := hnone
      exact .inr (.inr rfl)

def has (t : Target) : ValueOption → Bool
  | .path => t.path.isSome
  | .vendorId => t.vendorId.isSome
  | .productId => t.productId.isSome
  | .serial => t.serial.isSome
  | _ => false

theorem IsGivenBy.has (h : t.IsGivenBy items) (hi : i ∈ items) (ho : o ∈ ValueOption.ofTarget)
    (hvalue : i.value? o = some text) : t.has o := by
  have hmem : text ∈ items.filterMap (Item.value? o) := List.mem_filterMap.mpr ⟨i, hi, hvalue⟩
  obtain ⟨hpath, hvendor, hproduct, hserial⟩ := h
  simp only [ValueOption.ofTarget, List.mem_cons, List.not_mem_nil, or_false] at ho
  obtain rfl | rfl | rfl | rfl := ho
  · rw [hpath] at hmem
    simp [Target.has, Option.mem_toList.mp hmem]
  · have hread := List.mem_map_of_mem (f := DeviceId.read?) hmem
    rw [hvendor] at hread
    cases hv : t.vendorId <;> simp_all [Target.has]
  · have hread := List.mem_map_of_mem (f := DeviceId.read?) hmem
    rw [hproduct] at hread
    cases hv : t.productId <;> simp_all [Target.has]
  · rw [hserial] at hmem
    simp [Target.has, Option.mem_toList.mp hmem]

end Target

theorem CommandRequest.checked_of_target? (hr : g.request c = .ok r) (ht : r.target? = some t) :
    g.target.checked = .ok t := by
  cases c with
  | list =>
    cases hr
    cases ht
  | info | read =>
    obtain ⟨t', hchecked, rfl⟩ := exists_of_map_eq_ok hr
    cases ht
    exact hchecked
  | poll =>
    simp only [Given.request] at hr
    split at hr
    next => cases hr
    next => cases hr
    next hchecked _ =>
      cases hr
      cases ht
      exact hchecked

namespace Arguments

/-- A line of items in front of a command and behind it, perhaps with two dashes at its end. -/
structure Spelled (words : List String) (before : List Item) (c : CommandName) (after : List Item) : Prop where
  words : ∃ word ∈ c.spellings, ∃ rest, (rest = [] ∨ rest = ["--"]) ∧
    words = before.flatMap Item.words ++ word :: (after.flatMap Item.words ++ rest)
  before : ∀ i ∈ before, i.Fits none
  after : ∀ i ∈ after, i.Fits (some c)

theorem items_of_readCommand (h : readCommand c words = .ok (g, r)) :
    ∃ items rest, words = items.flatMap Item.words ++ rest ∧ (rest = [] ∨ rest = ["--"]) ∧
      (∀ i ∈ items, i.Fits (some c)) ∧ Given.takeAll {} items = .ok g ∧ g.request c = .ok r := by
  unfold readCommand at h
  split at h
  next => cases h
  next scanned hwords =>
    split at h
    next => cases h
    next g' hs =>
      obtain ⟨r', hrequest, heq⟩ := exists_of_map_eq_ok h
      cases heq
      obtain ⟨items, rest, hitems, hends, hfit, htake⟩ := Scan.parsesTo_of_words hwords trivial hs
      refine ⟨items, rest, hitems, ?_, hfit, htake, hrequest⟩
      cases hcommand : scanned.command with
      | none => simpa [hcommand, Scan.IsLevelEnd] using hends
      | some inner => simp [hcommand, Scan.IsLevelEnd] at hends

theorem spelled_of_read {a : Arguments} (h : read words = .ok a) (hr : a.request = some r) :
    ∃ before c after g, Spelled words before c after ∧ Given.takeAll {} after = .ok g ∧ g.request c = .ok r := by
  unfold read at h
  split at h
  next => cases h
  next scan hwords =>
    obtain ⟨g, -, rfl⟩ := exists_of_map_eq_ok h
    cases hr
  next scan c rest hwords =>
    split at h
    next => cases h
    next after request hcommand =>
      obtain ⟨g, hs, rfl⟩ := exists_of_map_eq_ok h
      obtain rfl : request = r := Option.some.inj hr
      obtain ⟨itemsBefore, tail, hline, ⟨-, word, hword, rfl⟩, hfitBefore, -⟩ :=
        Scan.parsesTo_of_words hwords trivial hs
      obtain ⟨itemsAfter, tail, hafter, hend, hfitAfter, htake, hrequest⟩ := items_of_readCommand hcommand
      refine ⟨itemsBefore, c, itemsAfter, after, ⟨⟨word, hword, tail, hend, ?_⟩, hfitBefore, hfitAfter⟩,
        htake, hrequest⟩
      rw [← hafter]
      exact hline

end Arguments

namespace Word

theorem noEquals (o : ValueOption) : '=' ∉ o.spelling.toList := by
  cases o <;> decide

theorem ofString_joined (o : ValueOption) (text : String) :
    ofString ("--" ++ o.spelling ++ "=" ++ text) = .long o.spelling (some text) := by
  have hsplit := Text.splitFirst?_append (noEquals o) text.toList
  have hlist : ("--" ++ o.spelling ++ "=" ++ text).toList =
      '-' :: '-' :: (o.spelling.toList ++ '=' :: text.toList) := by simp
  rw [ofString, hlist]
  cases hcs : o.spelling.toList ++ '=' :: text.toList with
  | nil => simp at hcs
  | cons first cs =>
    rw [hcs] at hsplit
    simp [ofLong, hsplit]

theorem ofString_bare {name : String} (hne : name.toList ≠ []) (hname : '=' ∉ name.toList) :
    ofString ("--" ++ name) = .long name none := by
  have hlist : ("--" ++ name).toList = '-' :: '-' :: name.toList := by simp
  rw [ofString, hlist]
  cases hcs : name.toList with
  | nil => exact absurd hcs hne
  | cons first cs =>
    rw [hcs] at hname
    simp only [ofLong, Text.splitFirst?_of_not_mem hname]
    rw [← hcs, String.ofList_toList]

end Word

theorem ValueOption.spelling_injective (h : o.spelling = o'.spelling) : o = o' := by
  cases o <;> cases o' <;> first | rfl | exact absurd h (by decide)

theorem Flag.spelling_ne (f : Flag) (o : ValueOption) : f.spelling ≠ o.spelling := by
  cases f <;> cases o <;> decide

theorem Item.value?_of_mem_words {level : Level} {value : Option String} (hfit : i.Fits level)
    (hmem : word ∈ i.words) (hword : Word.ofString word = .long o.spelling value) :
    ∃ text, i.value? o = some text := by
  cases i with
  | joined o' text =>
    obtain rfl := List.mem_singleton.mp hmem
    rw [Word.ofString_joined] at hword
    injection hword with hname
    obtain rfl := ValueOption.spelling_injective hname
    exact ⟨text, if_pos rfl⟩
  | apart o' text =>
    obtain rfl | hmem := List.mem_cons.mp hmem
    · rw [Word.ofString_bare (by cases o' <;> decide) (Word.noEquals o')] at hword
      injection hword with hname
      obtain rfl := ValueOption.spelling_injective hname
      exact ⟨text, if_pos rfl⟩
    · obtain rfl := List.mem_singleton.mp hmem
      rw [hfit.2] at hword
      cases hword
  | raised f =>
    obtain rfl := List.mem_singleton.mp hmem
    rw [Word.ofString_bare (by cases f <;> decide) (by cases f <;> decide)] at hword
    injection hword with hname
    exact absurd hname (f.spelling_ne o)

theorem Item.known_of_value? {level : Level} (hfit : i.Fits level) (h : i.value? o = some text) :
    o ∈ ValueOption.known level := by
  cases i with
  | joined o' text' =>
    obtain rfl := (Option.ite_none_right_eq_some.mp h).1
    exact hfit
  | apart o' text' =>
    obtain rfl := (Option.ite_none_right_eq_some.mp h).1
    exact hfit.1
  | raised f => cases h

theorem ValueOption.not_known_before (ho : o ∈ ofTarget) : o ∉ known none := by
  revert ho
  cases o <;> decide

theorem CommandName.ofString_spelling (hword : word ∈ c.spellings) : Word.ofString word = .plain word := by
  have hall : ∀ c : CommandName, ∀ word ∈ c.spellings, Word.ofString word = .plain word := by
    intro c
    cases c <;> decide
  exact hall c word hword

/-- No option of a device stands in front of the command, so each that stands on the line is behind it. -/
theorem Arguments.Spelled.exists_item {value : Option String} (h : Spelled words before c after)
    (hmem : word ∈ words) (ho : o ∈ ValueOption.ofTarget)
    (hword : Word.ofString word = .long o.spelling value) : ∃ i ∈ after, ∃ text, i.value? o = some text := by
  obtain ⟨⟨command, hcommand, rest, hrest, rfl⟩, hbefore, hafter⟩ := h
  simp only [List.mem_append, List.mem_flatMap, List.mem_cons] at hmem
  obtain ⟨i, hi, hmem⟩ | rfl | ⟨i, hi, hmem⟩ | hmem := hmem
  · obtain ⟨text, htext⟩ := Item.value?_of_mem_words (hbefore i hi) hmem hword
    exact absurd (Item.known_of_value? (hbefore i hi) htext) (ValueOption.not_known_before ho)
  · rw [CommandName.ofString_spelling hcommand] at hword
    cases hword
  · exact ⟨i, hi, Item.value?_of_mem_words (hafter i hi) hmem hword⟩
  · obtain rfl | rfl := hrest
    · cases hmem
    · obtain rfl := List.mem_singleton.mp hmem
      have hseparator : Word.ofString "--" = .separator := by decide
      rw [hseparator] at hword
      cases hword

namespace Command
variable {W D : Type}

def opening (r : Outcome W (Handle D)) : Except Failure (Handle D) × W :=
  (r.1.mapError (.within "cannot open device"), r.2)

/-- How the form of a target settles what is opened. -/
inductive Opens (t : Target) : Prop where
  | path (path : String) (form : t = { path := some path })
      (opens : ∀ {W D : Type} (m : Manager W D) (w : W), openTarget m t w = opening (m.openPath path w))
  | ids (vendorId productId : UInt16)
      (form : t = { vendorId := some vendorId, productId := some productId, serial := t.serial })
      (opens : ∀ {W D : Type} (m : Manager W D) (w : W),
        openTarget m t w = opening (m.openIds vendorId productId t.serial w))
  | nothing (form : t = {})
      (opens : ∀ {W D : Type} (m : Manager W D) (w : W), openTarget m t w = (.error .noTarget, w))

theorem opens_of_checked (ha : t.isAmbiguous = false) (hi : t.isIncomplete = false) : Opens t := by
  obtain ⟨path, h⟩ | ⟨vendorId, productId, h⟩ | h := Target.forms ha hi
  · exact .path path h fun m w => by rw [h]; rfl
  · exact .ids vendorId productId h fun m w => by rw [h]; rfl
  · exact .nothing h fun m w => by rw [h]; rfl

end Command

theorem Arguments.target_of_read {a : Arguments} (h : read words = .ok a) (hr : a.request = some r)
    (ht : r.target? = some t) :
    Command.Opens t ∧
    (∃ before c after, Spelled words before c after ∧ t.IsGivenBy after) ∧
    ∀ word ∈ words, ∀ o ∈ ValueOption.ofTarget, ∀ value,
      Word.ofString word = .long o.spelling value → t.has o := by
  obtain ⟨before, c, after, g, hspelled, hall, hrequest⟩ := spelled_of_read h hr
  obtain ⟨rfl, hambiguous, hincomplete⟩ :=
    Target.checked_eq_ok (CommandRequest.checked_of_target? hrequest ht)
  have hgiven : g.target.IsGivenBy ([] ++ after) := Target.isGivenBy_nil.takeAll (g := {}) hall
  refine ⟨Command.opens_of_checked hambiguous hincomplete, ⟨before, c, after, hspelled, hgiven⟩, ?_⟩
  intro word hmem o ho value hword
  obtain ⟨i, hi, text, htext⟩ := hspelled.exists_item hmem ho hword
  exact hgiven.has hi ho htext

theorem Arguments.target_of_mixed_line :
    ∃ a r, read ["--backend", "hidraw", "r", "--vid=0x046d", "--log-level", "debug", "--pid", "50"] = .ok a ∧
      a.request = some r ∧ r.target? = some { vendorId := some 0x046d, productId := some 50 } ∧
      Command.Opens { vendorId := some 0x046d, productId := some 50 } := by
  let r : CommandRequest := .read { vendorId := some 0x046d, productId := some 50 } none none 1 false
  have hread : read ["--backend", "hidraw", "r", "--vid=0x046d", "--log-level", "debug", "--pid", "50"] =
      .ok { backend := some .hidraw, logLevel := some "debug", request := some r } := by rfl
  exact ⟨_, r, hread, rfl, rfl, (target_of_read hread rfl rfl).1⟩

end HidAccess
