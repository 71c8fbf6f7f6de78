import HidAccess.Proofs.Usb.Traffic
import Mathlib.Data.List.Flatten

/-! The claimed interfaces are those of the handles that have a device, each claimed once. Listing and
an opening that fails leave no handle behind, at whichever step it fails. -/

namespace HidAccess.UsbBus

/-- The open handles of the bus are those of the links, one for one, each on its own interface. -/
structure Balanced (live : List UsbLink) (t : UsbTable) : Prop where
  numbered : t.Numbered
  claims : t.handles.map (fun h => (h.id, h.claims)) = live.map fun l => (l.handle, [l.interface])
  once : t.held.Nodup

namespace Balanced
variable {live : List UsbLink} {t : UsbTable} {l : UsbLink} {index : Nat}

theorem start : Balanced [] {} where
  numbered := .empty
  claims := rfl
  once := List.nodup_nil

theorem skipped (hb : Balanced live t) : Balanced live t.skipped where
  numbered := hb.numbered.skipped
  claims := hb.claims
  once := hb.once

theorem opened (hb : Balanced live t) (hl : l.handle = t.opened)
    (hfree : (index, l.interface) ∉ t.held) :
    Balanced (live ++ [l]) (t.add index [l.interface]) where
  numbered := hb.numbered.add index _
  claims := by
    simp only [UsbTable.add, List.map_append, List.map_cons, List.map_nil, hb.claims, hl]
  once := by
    rw [UsbTable.held_add]
    apply List.nodup_append.mpr
    refine ⟨hb.once, List.pairwise_singleton _ _, ?_⟩
    intro a ha b hb' hab
    rw [List.map_cons, List.map_nil, List.mem_singleton] at hb'
    rw [hab, hb'] at ha
    exact hfree ha

theorem ids (hb : Balanced live t) : (live.map (·.handle)).Nodup := by
  have hids := congrArg (List.map Prod.fst) hb.claims
  simp only [List.map_map, Function.comp_def] at hids
  rw [← hids]
  exact hb.numbered.distinct

theorem mem_handles (hb : Balanced live t) (hl : l ∈ live) :
    ∃ h ∈ t.handles, h.id = l.handle ∧ h.claims = [l.interface] := by
  have hmem : (l.handle, [l.interface]) ∈ t.handles.map fun h => (h.id, h.claims) := by
    rw [hb.claims]
    exact List.mem_map_of_mem hl
  obtain ⟨h, hh, heq⟩ := List.mem_map.mp hmem
  exact ⟨h, hh, congrArg Prod.fst heq, congrArg Prod.snd heq⟩

theorem released (hb : Balanced live t) (id : Nat) :
    Balanced (live.filter fun l => l.handle != id) (t.without id) where
  numbered := hb.numbered.without id
  claims := by
    have hf := congrArg (List.filter fun x : Nat × List UInt8 => x.1 != id) hb.claims
    simpa only [List.filter_map, Function.comp_def, UsbTable.without] using hf
  once := hb.once.sublist (List.filter_sublist.flatMap _)

end Balanced

theorem held_without {t : UsbTable} (hn : t.Numbered) (ho : t.held.Nodup) {h : UsbHandle}
    (hh : h ∈ t.handles) {interface : UInt8} (hc : h.claims = [interface]) :
    (t.without h.id).held = t.held.erase (h.device, interface) := by
  obtain ⟨before, behind, hsplit⟩ := List.append_of_mem hh
  have hids := hn.distinct
  simp only [hsplit, List.map_append, List.map_cons, List.nodup_append, List.nodup_cons] at hids
  have hbefore : before.filter (fun h' => h'.id != h.id) = before := by
    apply List.filter_eq_self.mpr
    intro h' hmem
    exact bne_iff_ne.mpr (hids.2.2 _ (List.mem_map_of_mem hmem) _ List.mem_cons_self)
  have hbehind : behind.filter (fun h' => h'.id != h.id) = behind := by
    apply List.filter_eq_self.mpr
    intro h' hmem
    apply bne_iff_ne.mpr
    intro heq
    exact hids.2.1.1 (heq ▸ List.mem_map_of_mem hmem)
  simp only [UsbTable.held, UsbTable.without, hsplit, List.flatMap_append, List.flatMap_cons, hc,
    List.map_cons, List.map_nil, List.filter_append, hbefore, hbehind, List.filter_cons,
    bne_self_eq_false, Bool.false_eq_true, if_false] at ho ⊢
  rw [List.erase_append_right, List.singleton_append, List.erase_cons_head]
  intro hmem
  exact (List.nodup_append.mp ho).2.2 _ hmem _ (by simp) rfl

section Listing
variable {bus : UsbBus}

theorem openDevice_cases (index : Nat) (bus : UsbBus) :
    (∃ e bus', bus.openDevice index = (.error e, bus') ∧ bus'.table = bus.table) ∨
      bus.openDevice index = (.ok bus.opened, bus.withHandle index) := by
  simp only [openDevice]
  split
  · exact .inl ⟨_, _, rfl, rfl⟩
  · split
    · exact .inl ⟨_, _, rfl, rfl⟩
    · split
      · exact .inl ⟨_, _, rfl, rfl⟩
      · exact .inr rfl

theorem table_entriesOf (d : UsbDevice) (id : Option Nat) (texts : DeviceTexts)
    (interfaces : List (UInt8 × UsbPipes)) (bus : UsbBus) :
    (entriesOf d id texts interfaces bus).2.table = bus.table := by
  induction interfaces generalizing bus with
  | nil => rfl
  | cons x rest ih =>
    cases id with
    | none => exact ih bus
    | some id => exact (ih _).trans (steady_table.readUsage id x.1 bus)

theorem table_describe (hn : bus.table.Numbered) (index : Nat) (d : UsbDevice) :
    (describe index d bus).2.table = bus.table ∨
      (describe index d bus).2.table = bus.table.skipped := by
  simp only [describe]
  split
  · exact .inl rfl
  · rcases openDevice_cases index bus with ⟨e, bus', hx, ht⟩ | hx
    · left
      simp only [hx]
      rw [table_entriesOf, ht]
    · right
      simp only [hx]
      rw [table_close, table_entriesOf, steady_table.readTexts, table_withHandle]
      exact hn.without_add index []

theorem describe_outlasts (hn : bus.table.Numbered) (index : Nat) (d : UsbDevice) :
    (describe index d bus).2.handles = bus.handles ∧ (describe index d bus).2.table.Numbered := by
  rcases table_describe hn index d with ht | ht
  · exact ⟨congrArg UsbTable.handles ht, ht ▸ hn⟩
  · exact ⟨congrArg UsbTable.handles ht, ht ▸ hn.skipped⟩

theorem describeAll_outlasts (hn : bus.table.Numbered) (devices : List (Nat × UsbDevice)) :
    (describeAll devices bus).2.handles = bus.handles ∧
      (describeAll devices bus).2.table.Numbered := by
  induction devices generalizing bus with
  | nil => exact ⟨rfl, hn⟩
  | cons x rest ih =>
    obtain ⟨hh, hn'⟩ := describe_outlasts hn x.1 x.2
    obtain ⟨hrest, hn''⟩ := ih hn'
    exact ⟨hrest.trans hh, hn''⟩

theorem enumerate_outlasts (hn : bus.table.Numbered) :
    bus.enumerate.2.handles = bus.handles ∧ bus.enumerate.2.table.Numbered := by
  simp only [enumerate]
  split
  · exact ⟨rfl, hn⟩
  · exact describeAll_outlasts hn _

end Listing

section Live
variable {hs : List (Handle UsbLink)} {n : Nat} {h h' : Handle UsbLink} {l : UsbLink}

theorem live_set_kept (hn : hs[n]? = some h) (hd : h'.device = h.device) :
    (hs.set n h').filterMap (·.device) = hs.filterMap (·.device) := by
  induction hs generalizing n with
  | nil => simp at hn
  | cons x hs ih =>
    cases n with
    | zero =>
      obtain rfl : x = h := by simpa using hn
      rw [List.set_cons_zero, List.filterMap_cons, List.filterMap_cons, hd]
    | succ n =>
      rw [List.set_cons_succ, List.filterMap_cons, List.filterMap_cons, ih (by simpa using hn)]

theorem live_set_lost (hn : hs[n]? = some h) (hl : h.device = some l) (hd : h'.device = none)
    (hids : ((hs.filterMap (·.device)).map (·.handle)).Nodup) :
    (hs.set n h').filterMap (·.device) =
      (hs.filterMap (·.device)).filter fun l' => l'.handle != l.handle := by
  induction hs generalizing n with
  | nil => simp at hn
  | cons x hs ih =>
    cases n with
    | zero =>
      obtain rfl : x = h := by simpa using hn
      rw [List.filterMap_cons_some hl, List.map_cons, List.nodup_cons] at hids
      rw [List.set_cons_zero, List.filterMap_cons_none hd, List.filterMap_cons_some hl,
        List.filter_cons_of_neg (by simp)]
      symm
      apply List.filter_eq_self.mpr
      intro l' hl'
      apply bne_iff_ne.mpr
      intro heq
      exact hids.1 (heq ▸ List.mem_map_of_mem hl')
    | succ n =>
      have hn' : hs[n]? = some h := by simpa using hn
      rw [List.set_cons_succ]
      cases hx : x.device with
      | none =>
        rw [List.filterMap_cons_none hx] at hids ⊢
        rw [List.filterMap_cons_none hx]
        exact ih hn' hids
      | some l' =>
        rw [List.filterMap_cons_some hx, List.map_cons, List.nodup_cons] at hids
        have hmem : l ∈ hs.filterMap (·.device) :=
          List.mem_filterMap.mpr ⟨h, List.mem_of_getElem? hn', hl⟩
        have hne : l'.handle ≠ l.handle := by
          intro heq
          exact hids.1 (heq ▸ List.mem_map_of_mem hmem)
        rw [List.filterMap_cons_some hx, List.filterMap_cons_some hx,
          List.filter_cons_of_pos (by simpa using hne)]
        exact congrArg (List.cons l') (ih hn' hids.2)

end Live

namespace Traffic
variable {s s' : Traffic} {n : Nat} {h : Handle UsbLink} {lost : Bool}

structure Used (s : Traffic) (n : Nat) (h : Handle UsbLink) (lost : Bool) (s' : Traffic) : Prop where
  custody : ∃ h', s'.handles = s.handles.set n h' ∧
    Handle.Custody (fun w : Clocked UsbBus => w.state.table) (fun l => UsbTable.without l.handle)
      h s.world lost h' s'.world

theorem operate_used (hn : s.handles[n]? = some h) (o : Handle.Operation) :
    ∃ answer, (s.step (.operate n o)).1 = .answered answer ∧
      Used s n h (o.givesUp answer) (s.step (.operate n o)).2 := by
  have hc := (onlyReleasesChange_table Clocked.clock fun _ => rfl).perform o h s.world
  simp only [step, withHandle, hn]
  exact ⟨_, rfl, ⟨_, rfl, hc⟩⟩

theorem slice_used (hn : s.handles[n]? = some h) (r : Reading) :
    ∃ answer, (s.step (.slice n r)).1 = .answered answer ∧
      Used s n h answer.isDisconnect (s.step (.slice n r)).2 := by
  have hc := (onlyReleasesChange_table Clocked.clock fun _ => rfl).readSlice r h s.world
  simp only [step, withHandle, hn]
  exact ⟨_, rfl, ⟨_, rfl, hc⟩⟩

def gaveUp? (s : Traffic) (a : Action) : Option Nat :=
  match a, (s.step a).1 with
  | .operate n o, .answered answer => if o.givesUp answer then some n else none
  | .slice n _, .answered answer => if answer.isDisconnect then some n else none
  | _, _ => none

theorem used_of_gaveUp? {a : Action} (ha : s.gaveUp? a = some n) (hn : s.handles[n]? = some h) :
    Used s n h true (s.step a).2 := by
  cases a with
  | operate m o =>
    cases hm : s.handles[m]? with
    | none => simp [gaveUp?, step, withHandle, hm] at ha
    | some h₁ =>
      obtain ⟨answer, he, hu⟩ := operate_used hm o
      simp only [gaveUp?, he, Option.ite_none_right_eq_some, Option.some.injEq] at ha
      obtain ⟨hgives, rfl⟩ := ha
      obtain rfl : h₁ = h := Option.some.inj (hm.symm.trans hn)
      rwa [hgives] at hu
  | slice m r =>
    cases hm : s.handles[m]? with
    | none => simp [gaveUp?, step, withHandle, hm] at ha
    | some h₁ =>
      obtain ⟨answer, he, hu⟩ := slice_used hm r
      simp only [gaveUp?, he, Option.ite_none_right_eq_some, Option.some.injEq] at ha
      obtain ⟨hlost, rfl⟩ := ha
      obtain rfl : h₁ = h := Option.some.inj (hm.symm.trans hn)
      rwa [hlost] at hu
  | _ => simp [gaveUp?] at ha

theorem Used.table {l : UsbLink} (hu : Used s n h true s') (hl : h.device = some l) :
    s'.bus.table = s.bus.table.without l.handle := by
  obtain ⟨h', -, hc⟩ := hu.custody
  have hv := hc.view
  simp only [if_true, hl, Option.elim_some] at hv
  exact hv

theorem Used.balanced (hu : Used s n h lost s') (hn : s.handles[n]? = some h)
    (hb : Balanced s.live s.bus.table) : Balanced s'.live s'.bus.table := by
  obtain ⟨h', hh, hc⟩ := hu.custody
  have hd := hc.device
  have hv : s'.bus.table = _ := hc.view
  simp only [live, hh, hv]
  cases hl : h.device with
  | none =>
    have hsame : h'.device = h.device := by
      rw [hd, hl]
      split <;> rfl
    rw [live_set_kept hn hsame]
    cases lost <;> exact hb
  | some l =>
    cases lost with
    | false =>
      rw [live_set_kept hn (by simpa using hd)]
      exact hb
    | true =>
      rw [live_set_lost hn hl (by simpa using hd) hb.ids]
      exact hb.released l.handle

theorem table_control (request : UsbRequest) (bus : UsbBus) :
    (UsbBus.control request bus).2.table = bus.table := by
  cases request with
  | feed index report => exact steady_table.settle _
  | unplug index => exact steady_table.settle _
  | _ => rfl

theorem openPath_balanced (hb : Balanced s.live s.bus.table) (path : String) (interval : Duration) :
    let x := s.step (.openPath path interval)
    Balanced x.2.live x.2.bus.table := by
  simp only [step, openPath_eq]
  cases hr : s.bus.resolve path with
  | error e =>
    rw [openPath_of_unresolved hr]
    exact hb
  | ok r =>
    obtain ⟨index, d, interface, pipes⟩ := r
    have ho := opening_openPath hb.numbered hr
    generalize UsbBus.openPath path s.bus = x at ho
    cases ho with
    | unopened _ ht => exact ht ▸ hb
    | taken _ _ ht => exact ht ▸ hb.skipped
    | unclaimed _ _ _ ht => exact ht ▸ hb.skipped
    | unstarted _ _ _ _ _ ht => exact ht ▸ hb.skipped
    | @opened l bus' _ hfree _ _ hl hi _ ht =>
      subst hi
      have hx := hb.opened hl hfree
      rw [← ht] at hx
      simpa [keep, Except.map, live, bus, Handle.opened, List.filterMap_append] using hx

theorem step_balanced (s : Traffic) (a : Action) (hb : Balanced s.live s.bus.table) :
    Balanced (s.step a).2.live (s.step a).2.bus.table := by
  cases a with
  | control request => exact table_control request s.bus ▸ hb
  | alter index f => exact hb
  | failReaders e => exact hb
  | enumerate vendorId productId =>
    obtain ⟨hh, hn⟩ := enumerate_outlasts hb.numbered
    rw [bus_enumerate]
    refine ⟨hn, ?_, ?_⟩
    · exact (congrArg (List.map _) hh).trans hb.claims
    · exact (congrArg (fun hs => UsbTable.held ⟨hs, 0⟩) hh).symm ▸ hb.once
  | openPath path interval => exact openPath_balanced hb path interval
  | operate n o =>
    cases hn : s.handles[n]? with
    | none => simpa [step, withHandle, hn] using hb
    | some h =>
      obtain ⟨answer, -, hu⟩ := operate_used hn o
      exact hu.balanced hn hb
  | slice n r =>
    cases hn : s.handles[n]? with
    | none => simpa [step, withHandle, hn] using hb
    | some h =>
      obtain ⟨answer, -, hu⟩ := slice_used hn r
      exact hu.balanced hn hb
  | tick now due => exact hb

theorem run_balanced (devices : List UsbDevice) (as : List Action) :
    Balanced ((start devices).run as).live ((start devices).run as).bus.table :=
  run_invariant (s := start devices) step_balanced Balanced.start as

theorem openPath_event (s : Traffic) (path : String) (interval : Duration) :
    (s.step (.openPath path interval)).1 =
      .opened ((openPath path s.bus).1.map fun _ => s.handles.length) := by
  simp only [step, openPath_eq]
  cases (openPath path s.bus).1 <;> rfl

theorem openPath_state (s : Traffic) (path : String) (interval : Duration) :
    (s.step (.openPath path interval)).2.bus = (openPath path s.bus).2 := by
  simp only [step, openPath_eq]
  cases (openPath path s.bus).1 <;> rfl

theorem handles_of_failed (hn : s.bus.table.Numbered) {path : String} {interval : Duration}
    {e : AccessError} (he : (s.step (.openPath path interval)).1 = .opened (.error e)) :
    (s.step (.openPath path interval)).2.bus.handles = s.bus.handles ∧
      (s.step (.openPath path interval)).2.handles = s.handles := by
  rw [openPath_event, Event.opened.injEq] at he
  constructor
  · rw [openPath_state]
    cases hr : s.bus.resolve path with
    | error e => rw [openPath_of_unresolved hr]
    | ok r =>
      obtain ⟨index, d, interface, pipes⟩ := r
      have ho := opening_openPath hn hr
      generalize UsbBus.openPath path s.bus = x at ho he
      cases ho with
      | unopened _ ht => exact congrArg UsbTable.handles ht
      | taken _ _ ht => exact congrArg UsbTable.handles ht
      | unclaimed _ _ _ ht => exact congrArg UsbTable.handles ht
      | unstarted _ _ _ _ _ ht => exact congrArg UsbTable.handles ht
      | opened => cases he
  · simp only [step, openPath_eq]
    cases hx : (UsbBus.openPath path s.bus).1 with
    | error e => rfl
    | ok l =>
      rw [hx] at he
      cases he

end Traffic

/-- At every point of every run: the open handles of the bus are those of the handles with a device,
each on its one interface, and no interface is claimed twice. An opening that fails, at whichever step,
and a listing leave the open handles as they were. An interface of a device that can be opened is
already open exactly if it is claimed, and one that is given up, by a close, a drop or a call that found
the device gone, is claimed no longer. -/
theorem claims_balanced (devices : List UsbDevice) (as : List Action) :
    let s := (Traffic.start devices).run as
    let held := s.bus.table.held
    s.bus.handles.map (fun h => (h.id, h.claims)) =
      s.live.map (fun l => (l.handle, [l.interface])) ∧
    held.Nodup ∧
    (∀ path interval e, (s.step (.openPath path interval)).1 = .opened (.error e) →
      (s.step (.openPath path interval)).2.bus.handles = s.bus.handles ∧
      (s.step (.openPath path interval)).2.handles = s.handles) ∧
    (∀ vendorId productId,
      (s.step (.enumerate vendorId productId)).2.bus.handles = s.bus.handles) ∧
    (∀ path interval index d interface pipes,
      s.bus.resolve path = .ok (index, d, interface, pipes) → d.openError = none →
      ((index, interface) ∈ held →
        (s.step (.openPath path interval)).1 = .opened (.error (.alreadyOpen "Resource busy"))) ∧
      ((index, interface) ∉ held → d.claimError = none → s.bus.readerError = none →
        (s.step (.openPath path interval)).1 = .opened (.ok s.handles.length) ∧
        (s.step (.openPath path interval)).2.bus.table.held = held ++ [(index, interface)])) ∧
    (∀ a n h l, s.gaveUp? a = some n → s.handles[n]? = some h → h.device = some l →
      ∃ index, (index, l.interface) ∈ held ∧
        (s.step a).2.bus.table.held = held.erase (index, l.interface) ∧
        (index, l.interface) ∉ (s.step a).2.bus.table.held) := by
  intro s held
  have hb : Balanced s.live s.bus.table := Traffic.run_balanced devices as
  refine ⟨hb.claims, hb.once, fun _ _ _ => Traffic.handles_of_failed hb.numbered, ?listing, ?opening,
    ?release⟩
  case listing =>
    intro vendorId productId
    rw [Traffic.bus_enumerate]
    exact (enumerate_outlasts hb.numbered).1
  case opening =>
    intro path interval index d interface pipes hr hopen
    rw [Traffic.openPath_event, Traffic.openPath_state]
    have ho := opening_openPath hb.numbered hr
    generalize openPath path s.bus = x at ho
    constructor
    · intro hheld
      cases ho with
      | unopened he => simp [hopen] at he
      | taken => rfl
      | unclaimed _ hfree => exact absurd hheld hfree
      | unstarted _ hfree => exact absurd hheld hfree
      | opened _ hfree => exact absurd hheld hfree
    · intro hfree hclaim hreader
      cases ho with
      | unopened he => simp [hopen] at he
      | taken _ hheld => exact absurd hheld hfree
      | unclaimed _ _ he => simp [hclaim] at he
      | unstarted _ _ _ _ he => simp [hreader] at he
      | opened _ _ _ _ _ _ _ ht =>
        refine ⟨rfl, ?_⟩
        rw [ht]
        exact UsbTable.held_add index [interface] s.bus.table
  case release =>
    intro a n h l ha hn hl
    have hmem : l ∈ s.live := List.mem_filterMap.mpr ⟨h, List.mem_of_getElem? hn, hl⟩
    obtain ⟨h', hh, hid, hc⟩ := hb.mem_handles hmem
    have hafter : (s.step a).2.bus.table.held = held.erase (h'.device, l.interface) := by
      rw [(Traffic.used_of_gaveUp? ha hn).table hl, ← hid]
      exact held_without hb.numbered hb.once hh hc
    refine ⟨h'.device, ?_, hafter, ?_⟩
    · exact List.mem_flatMap.mpr ⟨h', hh, by simp [hc]⟩
    · rw [hafter]
      exact hb.once.not_mem_erase

end HidAccess.UsbBus
