import HidAccess.Proofs.VirtualBus.Traffic
import Mathlib.Data.List.Forall2

/-! Every report with content that was fed to a device is delivered by one read, in the order of
feeding, or is still queued. A read takes reports out of the queue of its own device only, and of
those with content at most the one that it delivers. -/

namespace HidAccess

def Handle.Answer.data? : Answer → Option Bytes
  | .outcome o => o.data?
  | _ => none

namespace VirtualBus

structure Delivery where
  length : Nat
  data : Bytes

def Delivery.Brings (d : Delivery) (report : Bytes) : Prop := d.data = report.take d.length

namespace Event

def fed? (device : Nat) : Event → Option Bytes
  | .control (.feed index report) .done => if index = device then some report else none
  | _ => none

def returned? : Event → Option Delivery
  | .answered _ (.read _ length _) answer => answer.data?.map (Delivery.mk length)
  | .read _ length progress => (Handle.Answer.ofSlice progress).data?.map (Delivery.mk length)
  | _ => none

def source? : Event → Option Nat
  | .answered source _ _ => source
  | .read source _ _ => source
  | _ => none

def delivered? (device : Nat) (e : Event) : Option Delivery :=
  if e.source? = some device then e.returned? else none

end Event

/-- The queue of a device is accounted for: what was there and what was fed has been delivered or
is there still. -/
def Accounts (device : Nat) (before : VirtualBus) (fed : List Bytes) (delivered : List Delivery)
    (after : VirtualBus) : Prop :=
  ∃ taken, withContent (queue device before) ++ withContent fed =
      taken ++ withContent (queue device after) ∧
    List.Forall₂ Delivery.Brings delivered taken

variable {device : Nat} {a b c : VirtualBus}

theorem accounts_of_same (h : withContent (queue device b) = withContent (queue device a)) :
    Accounts device a [] [] b :=
  ⟨[], by simp [h], .nil⟩

theorem Accounts.trans {fed fed' : List Bytes} {delivered delivered' : List Delivery}
    (h : Accounts device a fed delivered b) (h' : Accounts device b fed' delivered' c) :
    Accounts device a (fed ++ fed') (delivered ++ delivered') c := by
  obtain ⟨taken, he, hb⟩ := h
  obtain ⟨taken', he', hb'⟩ := h'
  refine ⟨taken ++ taken', ?_, List.rel_append hb hb'⟩
  calc withContent (queue device a) ++ withContent (fed ++ fed')
      = withContent (queue device a) ++ withContent fed ++ withContent fed' := by simp
    _ = taken ++ (withContent (queue device b) ++ withContent fed') := by simp [he]
    _ = taken ++ taken' ++ withContent (queue device c) := by simp [he']

theorem Accounts.unchanged (h : Accounts device a [] [] b) :
    withContent (queue device b) = withContent (queue device a) := by
  obtain ⟨taken, he, hb⟩ := h
  cases hb
  simpa using he.symm

def Fits (r : Reading) (length : Nat) : Prop := r.buffer.length = length ∧ length ≠ 0

variable {r : Reading} {length : Nat}

def deliveredBy (device : Nat) (source : Option Nat) (length : Nat) (answer : Handle.Answer) :
    Option Delivery :=
  if source = some device then answer.data?.map (Delivery.mk length) else none

theorem deliveredBy_none {answer : Handle.Answer} (ha : answer.data? = none)
    (source : Option Nat) : deliveredBy device source length answer = none := by
  simp [deliveredBy, ha]

theorem delivered?_none {e : Event} (he : e.returned? = none) : e.delivered? device = none := by
  simp [Event.delivered?, he]

theorem data?_of_isNothing {ended : ReadEnd} (hn : ended.isNothing = true) :
    (Handle.Answer.ofRead ended).data? = none := by
  cases ended with
  | returned r => obtain _ | _ | _ | _ := r <;> first | rfl | cases hn
  | crashed crash => rfl
  | waiting => rfl

theorem after_nothing (hf : Fits r length) (now : Instant) :
    (Handle.Answer.ofSlice (r.after ⟨0, r.buffer⟩ now)).data? = none ∧
      ∀ r', r.after ⟨0, r.buffer⟩ now = .ok r' → Fits r' length := by
  obtain ⟨-, -, hok⟩ | ⟨-, ended, herr, hnothing⟩ := after_nothing_cases r now
  · rw [hok]
    exact ⟨rfl, fun r' hr => by cases hr; exact hf⟩
  · rw [herr]
    exact ⟨data?_of_isNothing hnothing, nofun⟩

def SliceAccounts (device length : Nat) (h : Handle Nat) (w : Clocked VirtualBus)
    (x : Except ReadEnd Reading × Handle Nat × Clocked VirtualBus) : Prop :=
  Accounts device w.state [] (deliveredBy device h.device length (.ofSlice x.1)).toList
      x.2.2.state ∧
    ∀ r', x.1 = .ok r' → Fits r' length ∧ x.2.1 = h

theorem nothing_accounts (hf : Fits r length) (now : Instant) (h : Handle Nat)
    {w w' : Clocked VirtualBus}
    (hq : withContent (queue device w'.state) = withContent (queue device w.state)) :
    SliceAccounts device length h w (r.after ⟨0, r.buffer⟩ now, h, w') := by
  obtain ⟨hnone, hfits⟩ := after_nothing hf now
  refine ⟨?_, fun r' h' => ⟨hfits r' h', rfl⟩⟩
  rw [deliveredBy_none hnone]
  exact accounts_of_same hq

theorem queued_accounts {i : Nat} {report : Bytes} {rest : List Bytes} {h : Handle Nat}
    {w : Clocked VirtualBus} (hf : Fits r length) (hl : h.live? = some i)
    (ha : isAttached i w.state = true) (hq : queue i w.state = report :: rest) :
    SliceAccounts device length h w (r.after (.fill r.buffer report) w.now, h,
      { w with state := w.state.setQueue i rest }) := by
  have hd : h.device = some i := (Handle.live?_eq_some.mp hl).2
  -- An empty report fills nothing, so it is taken as if nothing had come; it is in no account.
  by_cases hr : report = []
  · subst hr
    rw [fill_nil]
    refine nothing_accounts hf w.now h ?_
    by_cases hk : i = device
    · subst hk
      simp [queue_setQueue_self ha, hq, withContent]
    · rw [queue_setQueue_of_ne hk]
  · rw [after_fill hr (by rw [hf.1]; exact hf.2), hf.1]
    refine ⟨?_, fun r' hok => by cases hok⟩
    by_cases hk : i = device
    · subst hk
      exact ⟨[report], by simp [queue_setQueue_self ha, hq, withContent, hr],
        by simp [deliveredBy, hd, Handle.Answer.ofSlice, Handle.Answer.ofRead,
          Handle.Answer.ofExcept, Handle.Answer.data?, ReadOutcome.data?, Delivery.Brings]⟩
    · have hnone (answer : Handle.Answer) : deliveredBy device h.device length answer = none := by
        simp [deliveredBy, hd, hk]
      rw [hnone]
      exact accounts_of_same (congrArg withContent (queue_setQueue_of_ne hk rest))

theorem readSlice_accounts (device : Nat) (hf : Fits r length) (h : Handle Nat)
    (w : Clocked VirtualBus) : SliceAccounts device length h w (h.readSlice platform r w) := by
  cases hl : h.live? with
  | none =>
    rw [platform, platformWith, Handle.readSlice_of_not_live _ _ hl]
    exact ⟨by rw [deliveredBy_none rfl]; exact accounts_of_same rfl, nofun⟩
  | some i =>
    cases ha : isAttached i w.state with
    | false =>
      obtain ⟨e, he⟩ := readSlice_of_detached Clocked.clock (r := r) hl ha
      rw [platform, he]
      refine ⟨?_, nofun⟩
      rw [deliveredBy_none rfl]
      refine accounts_of_same ?_
      split
      · exact congrArg withContent ((onlyReadsChange_queue device).releaseDevice h w)
      · rfl
    | true =>
      cases hq : queue i w.state with
      | nil =>
        rw [platform, readSlice_of_empty Clocked.clock hl ha hq]
        exact nothing_accounts hf _ h
          (congrArg (fun bus => withContent (queue device bus)) (state_wait w _))
      | cons report rest =>
        rw [platform, readSlice_of_queued Clocked.clock hl ha hq]
        exact queued_accounts hf hl ha hq

theorem readSlices_accounts (hf : Fits r length) (slices : Nat) (h : Handle Nat)
    (w : Clocked VirtualBus) :
    Accounts device w.state []
      (deliveredBy device h.device length (.ofRead (h.readSlices platform slices r w).1)).toList
      (h.readSlices platform slices r w).2.2.state := by
  -- Only the last device read delivers: a read that goes on has brought no bytes so far.
  induction slices generalizing r w with
  | zero =>
    rw [deliveredBy_none rfl]
    exact accounts_of_same rfl
  | succ slices ih =>
    have hs := readSlice_accounts device hf h w
    simp only [Handle.readSlices]
    generalize h.readSlice platform r w = x at hs
    obtain ⟨ended | r', h', w'⟩ := x
    · exact hs.1
    · obtain ⟨hfits, rfl⟩ := hs.2 r' rfl
      have hfirst := hs.1
      rw [deliveredBy_none rfl] at hfirst
      exact hfirst.trans (ih hfits w')

theorem data?_of_refusal {ended : ReadEnd} (hr : Handle.ReadRefusal ended) :
    (Handle.Answer.ofRead ended).data? = none := by
  cases hr <;> rfl

theorem fits_reading {length : Nat} (hz : length ≠ 0) (h : Handle Nat)
    (deadline : Option Instant) : Fits (h.reading length deadline) length :=
  ⟨List.length_replicate, hz⟩

theorem read_accounts (slices length : Nat) (timeout : Option Duration) (h : Handle Nat)
    (w : Clocked VirtualBus) :
    Accounts device w.state []
      (deliveredBy device h.device length
        (.ofRead (h.read platform slices length timeout w).1)).toList
      (h.read platform slices length timeout w).2.2.state := by
  obtain ⟨ended, hs, hr⟩ | ⟨hs, hz, -⟩ := h.startRead_cases length timeout w.now
  · rw [platform, platformWith, Handle.read_of_refused _ Clocked.clock hs,
      deliveredBy_none (data?_of_refusal hr)]
    exact accounts_of_same rfl
  · rw [platform, platformWith, Handle.read_of_started _ Clocked.clock hs]
    exact readSlices_accounts (fits_reading hz h _) slices h w

theorem perform_accounts (o : Handle.Operation) (h : Handle Nat) (w : Clocked VirtualBus) :
    Accounts device w.state []
      ((Event.answered h.device o (Handle.perform platform o h w).1).delivered? device).toList
      (Handle.perform platform o h w).2.2.state := by
  by_cases ho : ∃ more length timeout, o = .read more length timeout
  · obtain ⟨more, length, timeout, rfl⟩ := ho
    exact read_accounts (more + 1) length timeout h w
  · have hq : queue device (Handle.perform platform o h w).2.2.state = queue device w.state :=
      (onlyReadsChange_queue device).perform
        (fun more length timeout he => ho ⟨more, length, timeout, he⟩) h w
    have hnone (a : Handle.Answer) : (Event.answered h.device o a).returned? = none := by
      cases o with
      | read more length timeout => exact absurd ⟨more, length, timeout, rfl⟩ ho
      | _ => rfl
    rw [delivered?_none (hnone _)]
    exact accounts_of_same (congrArg withContent hq)

theorem readSlice_no_data {h : Handle Nat} (hd : h.device = none) (r : Reading)
    (w : Clocked VirtualBus) : h.readSlice platform r w =
      (.error (.returned (.error .handleClosed)), h, w) :=
  Handle.readSlice_of_not_live _ Clocked.clock (Handle.live?_of_device hd)

theorem readSlices_no_data {h : Handle Nat} (hd : h.device = none) (more : Nat) (r : Reading)
    (w : Clocked VirtualBus) : (h.readSlices platform (more + 1) r w).1 =
      .returned (.error .handleClosed) := by
  simp only [Handle.readSlices, readSlice_no_data hd]

theorem read_no_data {h : Handle Nat} (hd : h.device = none) (more length : Nat)
    (timeout : Option Duration) (w : Clocked VirtualBus) :
    (Handle.perform platform (.read more length timeout) h w).1.data? = none := by
  obtain ⟨ended, hs, hr⟩ | ⟨hs, -⟩ := h.startRead_cases length timeout w.now
  · rw [Handle.perform, platform, platformWith, Handle.read_of_refused _ Clocked.clock hs]
    exact data?_of_refusal hr
  · rw [Handle.perform, platform, platformWith, Handle.read_of_started _ Clocked.clock hs]
    exact congrArg (fun x => (Handle.Answer.ofRead x).data?) (readSlices_no_data hd more _ w)

def Traffic.Sound (s : Traffic) : Prop := ∀ o ∈ s.reads, Fits o.reading o.length

structure StepAccounts (device : Nat) (s : Traffic) (x : Event × Traffic) : Prop where
  accounts : Accounts device s.world.state (x.1.fed? device).toList
    (x.1.delivered? device).toList x.2.world.state
  sound : x.2.Sound
  sourced : x.1.source? = none → x.1.returned? = none

variable {s : Traffic}

theorem stepAccounts_of_queue {e : Event} {s' : Traffic} (hs : s.Sound) (hf : e.fed? device = none)
    (he : e.returned? = none) (hr : s'.reads = s.reads)
    (hq : queue device s'.world.state = queue device s.world.state) :
    StepAccounts device s (e, s') := by
  refine ⟨?_, fun o ho => hs o (hr ▸ ho), fun _ => he⟩
  rw [hf, delivered?_none he]
  exact accounts_of_same (congrArg withContent hq)

theorem queue_alter {index : Nat} {f : VirtualDevice → VirtualDevice}
    (hf : ∀ d, (f d).input = d.input) : queue device (alter index f a).2 = queue device a := by
  simp only [alter]
  split
  · exact queue_change_of_input hf
  · rfl

theorem feed_accounts (hs : s.Sound) (index : Nat) (report : Bytes) :
    StepAccounts device s (s.step (.control (.feed index report))) := by
  cases hd : s.world.state.devices[index]? with
  | none =>
    have hc : control (.feed index report) s.world.state = (.noDevice, s.world.state) := by
      simp [control, alter, hd]
    simp only [Traffic.step, hc]
    exact stepAccounts_of_queue hs rfl rfl rfl rfl
  | some d =>
    have hc : control (.feed index report) s.world.state =
        (.done, s.world.state.change index (VirtualDevice.feed report)) := by
      simp [control, alter, hd]
    simp only [Traffic.step, hc]
    refine ⟨?_, hs, fun _ => rfl⟩
    by_cases hk : index = device
    · subst hk
      exact ⟨[], by simp [Event.fed?, queue_change hd, queue_of_some hd, VirtualDevice.feed],
        .nil⟩
    · have hnone : Event.fed? device (.control (.feed index report) .done) = none := if_neg hk
      have hq := queue_change (k := device) (f := VirtualDevice.feed report) hd
      rw [if_neg hk] at hq
      rw [hnone]
      exact accounts_of_same (congrArg withContent hq)

theorem control_accounts (hs : s.Sound) (request : BusRequest) :
    StepAccounts device s (s.step (.control request)) := by
  cases request with
  | attach spec => exact stepAccounts_of_queue hs rfl rfl rfl (queue_attach spec)
  | feed index report => exact feed_accounts hs index report
  | setFeature _ _ _ | unplug _ =>
    exact stepAccounts_of_queue hs rfl rfl rfl (queue_alter fun _ => rfl)
  | setUnavailable _ | written _ | feature _ _ | openHandles _ | path _ =>
    exact stepAccounts_of_queue hs rfl rfl rfl rfl

theorem keep_accounts (hs : s.Sound) {opened : Outcome (Clocked VirtualBus) (Handle Nat)}
    (hq : queue device opened.2.state = queue device s.world.state) :
    StepAccounts device s (s.keep opened) := by
  obtain ⟨e | h, w⟩ := opened
  · exact stepAccounts_of_queue hs rfl rfl rfl hq
  · exact stepAccounts_of_queue hs rfl rfl rfl hq

theorem queue_manager_openPath (interval : Duration) (path : String) (w : Clocked VirtualBus) :
    queue device ((Traffic.manager interval).openPath path w).2.state = queue device w.state :=
  queue_openPath path

theorem queue_manager_openIds (interval : Duration) (vendorId productId : UInt16)
    (serial : Option String) (w : Clocked VirtualBus) :
    queue device ((Traffic.manager interval).openIds vendorId productId serial w).2.state =
      queue device w.state := by
  obtain ⟨e, hx⟩ | ⟨path, hx⟩ := Traffic.openIds_cases interval vendorId productId serial w
  · rw [hx]
  · rw [hx]
    exact queue_manager_openPath interval path w

theorem withHandle_accounts (hs : s.Sound) (handle : Nat) {act : Handle Nat → Event × Traffic}
    (ha : ∀ h, StepAccounts device s (act h)) :
    StepAccounts device s (s.withHandle handle act) := by
  simp only [Traffic.withHandle]
  split
  · exact ha _
  · exact stepAccounts_of_queue hs rfl rfl rfl rfl

theorem begin_accounts (hs : s.Sound) (handle length : Nat) (timeout : Option Duration)
    (h : Handle Nat) : StepAccounts device s (s.begin handle length timeout h) := by
  simp only [Traffic.begin]
  obtain ⟨ended, he, hr⟩ | ⟨he, hz, -⟩ := h.startRead_cases length timeout s.world.now
  · rw [he]
    have hnone := data?_of_refusal hr
    exact stepAccounts_of_queue hs rfl (Option.map_eq_none_iff.mpr hnone) rfl rfl
  · rw [he]
    refine ⟨?_, fun o ho => ?_, fun _ => rfl⟩
    · rw [delivered?_none (e := .read h.device length (.ok _)) rfl]
      exact accounts_of_same rfl
    · obtain ho | ho := List.mem_append.mp ho
      · exact hs o ho
      · cases List.mem_singleton.mp ho
        exact fits_reading hz h _

theorem operate_accounts (hs : s.Sound) (handle : Nat) (o : Handle.Operation) (h : Handle Nat) :
    StepAccounts device s (s.operate handle o h) := by
  refine ⟨perform_accounts o h s.world, hs, fun hd => ?_⟩
  cases o with
  | read more length timeout =>
    exact Option.map_eq_none_iff.mpr (read_no_data hd more length timeout s.world)
  | _ => rfl

theorem slice_accounts (hs : s.Sound) {index : Nat} {o : Ongoing} (ho : s.reads[index]? = some o)
    (h : Handle Nat) : StepAccounts device s (s.slice index o h) := by
  have hslice := readSlice_accounts device (hs o (List.mem_of_getElem? ho)) h s.world
  have hsource := readSlice_no_data (h := h) (r := o.reading) (w := s.world)
  simp only [Traffic.slice]
  generalize h.readSlice platform o.reading s.world = x at hslice hsource
  obtain ⟨progress, h', w'⟩ := x
  refine ⟨hslice.1, fun o' ho' => ?_, fun hd => by cases hsource hd; rfl⟩
  cases progress with
  | error ended => exact hs o' (List.mem_of_mem_eraseIdx ho')
  | ok r' =>
    obtain hm | rfl := List.mem_or_eq_of_mem_set ho'
    · exact hs o' hm
    · exact (hslice.2 r' rfl).1

theorem step_accounts (device : Nat) (hs : s.Sound) (a : Action) :
    StepAccounts device s (s.step a) := by
  cases a with
  | control request => exact control_accounts hs request
  | openPath path interval => exact keep_accounts hs (queue_manager_openPath interval path _)
  | openIds vendorId productId serial interval =>
    exact keep_accounts hs (queue_manager_openIds interval vendorId productId serial _)
  | operate handle o =>
    exact withHandle_accounts hs handle fun h => operate_accounts hs handle o h
  | begin handle length timeout =>
    exact withHandle_accounts hs handle fun h => begin_accounts hs handle length timeout h
  | slice index =>
    simp only [Traffic.step]
    split
    next o ho => exact withHandle_accounts hs o.handle fun h => slice_accounts hs ho h
    next => exact stepAccounts_of_queue hs rfl rfl rfl rfl
  | tick now due => exact stepAccounts_of_queue hs rfl rfl rfl rfl

def fedTo (device : Nat) (events : List Event) : List Bytes :=
  events.filterMap (Event.fed? device)

/-- What the reads on handles of a device returned, in the order in which they ended. -/
def deliveredFrom (device : Nat) (events : List Event) : List Delivery :=
  events.filterMap (Event.delivered? device)

theorem fedTo_cons (e : Event) (es : List Event) :
    fedTo device (e :: es) = (e.fed? device).toList ++ fedTo device es := by
  cases h : e.fed? device <;> simp [fedTo, h]

theorem deliveredFrom_cons (e : Event) (es : List Event) :
    deliveredFrom device (e :: es) = (e.delivered? device).toList ++ deliveredFrom device es := by
  cases h : e.delivered? device <;> simp [deliveredFrom, h]

theorem run_accounts (device : Nat) (hs : s.Sound) (as : List Action) :
    Accounts device s.world.state (fedTo device (s.run as).1) (deliveredFrom device (s.run as).1)
        (s.run as).2.world.state ∧
      (s.run as).2.Sound := by
  induction as generalizing s with
  | nil => exact ⟨accounts_of_same rfl, hs⟩
  | cons a as ih =>
    have hstep := step_accounts device hs a
    obtain ⟨hrest, hs'⟩ := ih hstep.sound
    simp only [Traffic.run, fedTo_cons, deliveredFrom_cons]
    exact ⟨hstep.accounts.trans hrest, hs'⟩

/-- At every point of every run from an empty bus, and for every device: the reports with content
that were fed are, in order, those behind the data that reads returned and then those that are
queued. The next action takes a report with content only if it is a read that returns data, and
what it returns comes from some device. -/
theorem input_accounted (device : Nat) (as : List Action) (a : Action) :
    let events := (Traffic.run {} as).1
    let s := (Traffic.run {} as).2
    let e := (s.step a).1
    let s' := (s.step a).2
    (∃ taken,
      withContent (fedTo device events) = taken ++ withContent (queue device s.world.state) ∧
      List.Forall₂ Delivery.Brings (deliveredFrom device events) taken) ∧
    (e.fed? device = none → e.delivered? device = none →
      withContent (queue device s'.world.state) = withContent (queue device s.world.state)) ∧
    (∀ x, e.returned? = some x → ∃ k, e.delivered? k = some x) := by
  intro events s e s'
  have hsound : Traffic.Sound {} := nofun
  obtain ⟨haccounts, hs⟩ := run_accounts device hsound as
  refine ⟨?_, fun hf hd => ?_, fun x hx => ?_⟩
  · obtain ⟨taken, he, hb⟩ := haccounts
    exact ⟨taken, by simpa [queue] using he, hb⟩
  · have hstep := (step_accounts device hs a).accounts
    rw [hf, hd] at hstep
    exact hstep.unchanged
  · have hsourced := (step_accounts device hs a).sourced
    cases hk : e.source? with
    | none => exact absurd (hx.symm.trans (hsourced hk)) (Option.some_ne_none x)
    | some k => exact ⟨k, by simpa [Event.delivered?, hk] using hx⟩

end VirtualBus

end HidAccess
