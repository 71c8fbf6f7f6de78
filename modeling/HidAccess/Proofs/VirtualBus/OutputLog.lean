import HidAccess.Proofs.VirtualBus.Parts

/-! A device logs exactly the reports of the writes that succeed on it, in their order. A write hands
its whole report over or leaves every log as it was. -/

namespace HidAccess

/-- A report is not empty, and not longer than the fixed output size if there is one. -/
def VirtualDevice.Takes (d : VirtualDevice) (report : Bytes) : Prop :=
  report ≠ [] ∧ ∀ limit ∈ d.spec.outputLimit, report.length ≤ limit

namespace VirtualBus

def written (i : Nat) (bus : VirtualBus) : List Bytes :=
  (bus.devices[i]?.map (·.written)).getD []

theorem written_attach (i : Nat) (spec : VirtualSpec) (bus : VirtualBus) :
    written i (bus.attach spec) = written i bus := by
  obtain hi | rfl | hi := Nat.lt_trichotomy i bus.devices.length
  · simp [written, attach, List.getElem?_append_left hi]
  · simp [written, attach, VirtualDevice.written]
  · simp [written, attach, List.getElem?_eq_none (Nat.le_of_lt hi),
      List.getElem?_append_right (Nat.le_of_lt hi), Nat.sub_ne_zero_of_lt hi]

theorem written_accept {bus : VirtualBus} {i k : Nat} {d : VirtualDevice}
    (hd : bus.devices[i]? = some d) (report : Bytes) :
    written k (bus.change i fun d => (d.accept report).2) =
      written k bus ++ if i = k then [report] else [] := by
  by_cases hk : i = k
  · subst hk
    simp [written, devices_change, hd, VirtualDevice.written, VirtualDevice.accept]
  · simp [written, devices_change, hk]

section Write
variable {report : Bytes} {h : Handle Nat} {w : Clocked VirtualBus} {i : Nat} {d : VirtualDevice}

inductive Writing (report : Bytes) (h : Handle Nat) (w : Clocked VirtualBus) :
    Except AccessError Nat × Handle Nat × Clocked VirtualBus → Prop
  | refused (text : String) : Writing report h w (.error (.validation text), h, w)
  | closed : Writing report h w (.error .handleClosed, h, w)
  | gone {i : Nat} {d : VirtualDevice} : h.device = some i → w.state.devices[i]? = some d →
    d.attached = false → Writing report h w (.error d.unplugged, { h with device := none },
      { w with state := w.state.change i fun d => { d with openHandles := d.openHandles - 1 } })
  | accepted {i : Nat} {d : VirtualDevice} : h.device = some i → w.state.devices[i]? = some d →
    d.attached = true → d.Takes report → Writing report h w (.ok report.length, h,
      { w with state := w.state.change i fun d => (d.accept report).2 })

theorem platform_write : platform.write i report w =
    Prod.map id (fun state => { w with state })
      (withAttached (VirtualDevice.accept report) i w.state) := rfl

theorem write_of_some (hd : w.state.devices[i]? = some d) : platform.write i report w =
    if d.attached then
      (.ok report.length, { w with state := w.state.change i fun d => (d.accept report).2 })
    else (.error d.unplugged, w) := by
  rw [platform_write, withAttached_of_some hd]
  cases d.attached <;> rfl

theorem write_of_none (hd : w.state.devices[i]? = none) :
    platform.write i report w = (.error .handleClosed, w) := by
  rw [platform_write, withAttached_of_none hd]
  rfl

theorem settle_unplugged {α : Type} (hdevice : h.device = some i) (d : VirtualDevice) :
    Handle.settle platform h ((.error d.unplugged, w) : Outcome (Clocked VirtualBus) α) =
      (.error d.unplugged, { h with device := none },
        { w with state := w.state.change i fun d => { d with openHandles := d.openHandles - 1 } }) := by
  simp only [Handle.settle, VirtualDevice.unplugged, AccessError.isDisconnect, if_true,
    Handle.retire, Handle.releaseDevice, hdevice]
  rfl

theorem writing_of_live (hl : h.live? = some i) (hempty : report ≠ []) :
    Writing report h w
      (Handle.settle platform h (Handle.writeDevice platform report i w)) := by
  have hdevice : h.device = some i := (Handle.live?_eq_some.mp hl).2
  have hlimit : platform.outputLimit i w =
      (w.state.devices[i]?.bind (·.spec.outputLimit), w) := rfl
  cases hd : w.state.devices[i]? with
  | none =>
    rw [Handle.writeDevice_within (by simp [hlimit, hd]), hlimit, write_of_none hd]
    exact .closed
  | some d =>
    rw [hd, Option.bind_some] at hlimit
    by_cases hfits : ∀ limit ∈ d.spec.outputLimit, report.length ≤ limit
    · rw [Handle.writeDevice_within (by simpa only [hlimit] using hfits), hlimit, write_of_some hd]
      cases ha : d.attached with
      | false =>
        rw [if_neg Bool.false_ne_true, settle_unplugged hdevice]
        exact .gone hdevice hd ha
      | true => exact .accepted hdevice hd ha ⟨hempty, hfits⟩
    · obtain ⟨text, ht⟩ := Handle.writeDevice_beyond (p := platform) (d := i) (w := w)
        (by simpa only [hlimit] using hfits)
      rw [ht, hlimit]
      exact .refused text

theorem write_cases (report : Bytes) (h : Handle Nat) (w : Clocked VirtualBus) :
    Writing report h w (h.write platform report w) := by
  by_cases hempty : report = []
  · subst hempty
    exact .refused "write buffer is empty"
  cases hl : h.live? with
  | none =>
    have hclosed : h.write platform report w = (.error .handleClosed, h, w) := by
      simp [Handle.write, Handle.refuseEmpty, hempty, Handle.refusing, platform, platformWith,
        Handle.withDevice_of_not_live _ _ hl]
    rw [hclosed]
    exact .closed
  | some i =>
    have hx : h.write platform report w =
        Handle.settle platform h (Handle.writeDevice platform report i w) :=
      Handle.write_of_live _ _ hl hempty
    rw [hx]
    exact writing_of_live hl hempty

end Write

namespace Event

def accepted? (device : Nat) : Event → Option Bytes
  | .answered source (.write report) (.count _) => if source = some device then some report else none
  | _ => none

end Event

def accepted (device : Nat) (events : List Event) : List Bytes :=
  events.filterMap (Event.accepted? device)

theorem accepted_append (device : Nat) (events : List Event) (e : Event) :
    accepted device (events ++ [e]) = accepted device events ++ (e.accepted? device).toList :=
  filterMap_concat ..

/-- How a write ends on a bus of so many devices: one of them takes the whole report, or it fails in
one of three ways. -/
inductive WriteEnd (count : Nat) (report : Bytes) : Option Nat → Handle.Answer → Prop
  | accepted {i : Nat} : i < count → WriteEnd count report (some i) (.count report.length)
  | refused {source : Option Nat} (text : String) :
    WriteEnd count report source (.failed (.validation text))
  | closed {source : Option Nat} : WriteEnd count report source (.failed .handleClosed)
  | gone {source : Option Nat} {e : AccessError} : e.isDisconnect = true →
    WriteEnd count report source (.failed e)

theorem WriteEnd.mono {count count' : Nat} {report : Bytes} {source : Option Nat}
    {answer : Handle.Answer} (he : WriteEnd count report source answer) (hle : count ≤ count') :
    WriteEnd count' report source answer := by
  cases he with
  | accepted hi => exact .accepted (Nat.lt_of_lt_of_le hi hle)
  | refused text => exact .refused text
  | closed => exact .closed
  | gone he => exact .gone he

def ledger (d : VirtualDevice) : Option Nat × List Bytes := (d.spec.outputLimit, d.written)

theorem ignores_ledger {part : VirtualDevice.Part} (hp : part ≠ .output) :
    Ignores ledger part := by
  cases part with
  | output => exact absurd rfl hp
  | _ => exact fun _ _ => rfl

theorem step_not_write {s : Traffic} {a : Action}
    (hw : ∀ n report, a ≠ .operate n (.write report)) :
    (∀ i, (s.step a).1.accepted? i = none) ∧
      ∀ source report answer, (s.step a).1 ≠ .answered source (.write report) answer := by
  have hs := s.step_stepped a
  generalize (s.step a).1 = e, (s.step a).2 = s' at hs ⊢
  cases hs with
  | @operate n o =>
    cases o with
    | write report => exact absurd rfl (hw n report)
    | _ =>
      refine ⟨fun _ => rfl, fun _ _ _ he => ?_⟩
      cases he
  | _ =>
    refine ⟨fun _ => rfl, fun _ _ _ he => ?_⟩
    cases he

theorem touches_output {a : Action} (hw : ∀ n report, a ≠ .operate n (.write report)) :
    a.touches .output = false := by
  cases a with
  | operate n o =>
    cases o with
    | write report => exact absurd rfl (hw n report)
    | _ => rfl
  | control request => cases request <;> rfl
  | _ => rfl

theorem step_ledger {s : Traffic} {a : Action} (ha : ∀ spec, a ≠ .control (.attach spec))
    (hw : ∀ n report, a ≠ .operate n (.write report)) :
    (s.step a).2.world.state.devices.map ledger = s.world.state.devices.map ledger := by
  by_cases hu : ∃ unavailable, a = .control (.setUnavailable unavailable)
  · obtain ⟨unavailable, rfl⟩ := hu
    rfl
  · refine congrArg Prod.fst (surface_step ha (fun b he => hu ⟨b, he⟩) fun part hp => ?_)
    refine ignores_ledger ?_
    rintro rfl
    simp [touches_output hw] at hp

structure Logged (events : List Event) (bus : VirtualBus) : Prop where
  log : ∀ i, written i bus = accepted i events
  sizes : ∀ d ∈ bus.devices, ∀ report ∈ d.written, d.Takes report
  answers : ∀ source report answer, .answered source (.write report) answer ∈ events →
    WriteEnd bus.devices.length report source answer

namespace Logged
variable {events : List Event} {bus bus' : VirtualBus} {e : Event}

theorem initial : Logged [] {} where
  log _ := rfl
  sizes := by simp
  answers := by simp

theorem same (hl : Logged events bus)
    (hdevices : bus'.devices.map ledger = bus.devices.map ledger)
    (hn : ∀ i, e.accepted? i = none)
    (he : ∀ source report answer, e = .answered source (.write report) answer →
      WriteEnd bus.devices.length report source answer) : Logged (events ++ [e]) bus' := by
  have hlength : bus'.devices.length = bus.devices.length := by
    simpa using congrArg List.length hdevices
  constructor
  case log =>
    intro i
    have hi : (bus'.devices[i]?.map ledger).map Prod.snd =
        (bus.devices[i]?.map ledger).map Prod.snd := by
      simp only [← List.getElem?_map, hdevices]
    rw [accepted_append, hn, Option.toList_none, List.append_nil, ← hl.log]
    simp only [Option.map_map] at hi
    exact congrArg (·.getD []) hi
  case sizes =>
    intro d' hd' report hreport
    obtain ⟨d, hd, hledger⟩ : ∃ d ∈ bus.devices, ledger d = ledger d' :=
      List.mem_map.mp (hdevices ▸ List.mem_map_of_mem hd')
    obtain ⟨hlimit, hwritten⟩ := Prod.ext_iff.mp hledger
    have hbefore : report ∈ d.written := Eq.mpr (congrArg (report ∈ ·) hwritten) hreport
    obtain ⟨hcontent, hsize⟩ := hl.sizes d hd report hbefore
    exact ⟨hcontent, fun limit hm => hsize limit (hlimit.trans hm)⟩
  case answers =>
    intro source report answer hm
    rw [hlength]
    obtain hm | hm := List.mem_append.mp hm
    · exact hl.answers source report answer hm
    · exact he source report answer (List.mem_singleton.mp hm).symm

theorem failed (hl : Logged events bus)
    (hdevices : bus'.devices.map ledger = bus.devices.map ledger) {source : Option Nat}
    {report : Bytes} {error : AccessError}
    (hend : WriteEnd bus.devices.length report source (.failed error)) :
    Logged (events ++ [.answered source (.write report) (.failed error)]) bus' := by
  refine hl.same hdevices (fun _ => rfl) fun source' report' answer he => ?_
  cases he
  exact hend

theorem attach (hl : Logged events bus) (spec : VirtualSpec) :
    Logged (events ++ [.control (.attach spec) (.text (pathOf bus.devices.length))])
      (bus.attach spec) := by
  constructor
  case log =>
    intro i
    rw [accepted_append, ← hl.log, written_attach]
    exact (List.append_nil _).symm
  case sizes =>
    intro d hd report hreport
    obtain hd | hd := List.mem_append.mp hd
    · exact hl.sizes d hd report hreport
    · obtain rfl := List.mem_singleton.mp hd
      cases hreport
  case answers =>
    intro source report answer hm
    obtain hm | hm := List.mem_append.mp hm
    · exact (hl.answers source report answer hm).mono (by simp [VirtualBus.attach])
    · cases List.mem_singleton.mp hm

theorem accept (hl : Logged events bus) {i : Nat} {d : VirtualDevice} {report : Bytes}
    (hd : bus.devices[i]? = some d) (ht : d.Takes report) :
    Logged (events ++ [.answered (some i) (.write report) (.count report.length)])
      (bus.change i fun d => (d.accept report).2) := by
  constructor
  case log =>
    intro k
    rw [accepted_append, ← hl.log, written_accept hd]
    by_cases hk : i = k <;> simp [Event.accepted?, hk]
  case sizes =>
    intro d' hd' report' hreport
    obtain ⟨k, hk⟩ := List.mem_iff_getElem?.mp hd'
    rw [devices_change, Option.map_eq_some_iff] at hk
    obtain ⟨d₀, hk, rfl⟩ := hk
    have hbefore := hl.sizes d₀ (List.mem_of_getElem? hk)
    by_cases hik : i = k
    · subst hik
      obtain rfl : d = d₀ := Option.some.inj (hd.symm.trans hk)
      simp only [if_true] at hreport ⊢
      obtain hreport | rfl : report' ∈ d.written ∨ report' = report := by
        simpa [VirtualDevice.written, VirtualDevice.accept] using hreport
      · exact hbefore report' hreport
      · exact ht
    · simp only [if_neg hik] at hreport ⊢
      exact hbefore report' hreport
  case answers =>
    intro source report' answer hm
    obtain hm | hm := List.mem_append.mp hm
    · exact (hl.answers source report' answer hm).mono (by simp [change])
    · cases List.mem_singleton.mp hm
      exact .accepted (by simpa [change] using (List.getElem?_eq_some_iff.mp hd).1)

variable {s : Traffic}

theorem write (hl : Logged events s.world.state) (n : Nat) (report : Bytes) :
    Logged (events ++ [(s.step (.operate n (.write report))).1])
      (s.step (.operate n (.write report))).2.world.state := by
  simp only [Traffic.step, Traffic.withHandle]
  cases s.handles[n]? with
  | none =>
    refine hl.same rfl (fun _ => rfl) fun source report' answer he => ?_
    cases he
  | some h =>
    have hx := write_cases report h s.world
    simp only [Traffic.operate, Handle.perform]
    generalize h.write platform report s.world = x at hx
    cases hx with
    | refused text => exact hl.failed rfl (.refused text)
    | closed => exact hl.failed rfl .closed
    | @gone i d hdevice =>
      have hsame : surface ledger (s.world.state.change i fun d =>
          { d with openHandles := d.openHandles - 1 }) = surface ledger s.world.state :=
        surface_change fun _ => rfl
      exact hl.failed (congrArg Prod.fst hsame) (.gone rfl)
    | accepted hdevice hd _ ht =>
      simp only [hdevice]
      exact hl.accept hd ht

theorem step (hl : Logged events s.world.state) (a : Action) :
    Logged (events ++ [(s.step a).1]) (s.step a).2.world.state := by
  by_cases hwrite : ∃ n report, a = .operate n (.write report)
  · obtain ⟨n, report, rfl⟩ := hwrite
    exact hl.write n report
  by_cases hattach : ∃ spec, a = .control (.attach spec)
  · obtain ⟨spec, rfl⟩ := hattach
    exact hl.attach spec
  have hw (n : Nat) (report : Bytes) : a ≠ .operate n (.write report) := fun he =>
    hwrite ⟨n, report, he⟩
  have ha (spec : VirtualSpec) : a ≠ .control (.attach spec) := fun he => hattach ⟨spec, he⟩
  -- Whatever else is done tells of no write, and leaves the logs and the sizes alone.
  obtain ⟨hn, he⟩ := step_not_write hw
  exact hl.same (step_ledger ha hw) hn fun source report answer h =>
    absurd h (he source report answer)

end Logged

theorem logged_run (as : List Action) :
    Logged (Traffic.run {} as).1 (Traffic.run {} as).2.world.state := by
  simpa using Traffic.run_invariant (P := fun events s => Logged events s.world.state) (s := {})
    (fun _ _ a hl => hl.step a) Logged.initial as

/-- At every point of every run from an empty bus: what a device is asked for as written are the
reports of the writes that succeeded on it, in this order, none of them empty or longer than a fixed
output size. Every write either has its whole report taken by one device or fails: the report is
refused, there is no device any more, or it is gone. A write that fails changes no log. -/
theorem writes_logged (as : List Action) :
    let events := (Traffic.run {} as).1
    let s := (Traffic.run {} as).2
    (∀ i d, s.world.state.devices[i]? = some d →
      (s.step (.control (.written i))).1 =
        .control (.written i) (.reports (accepted i events)) ∧
      ∀ report ∈ accepted i events, d.Takes report) ∧
    (∀ source report answer, .answered source (.write report) answer ∈ events →
      WriteEnd s.world.state.devices.length report source answer) ∧
    (∀ n report source e,
      (s.step (.operate n (.write report))).1 = .answered source (.write report) (.failed e) →
        ∀ i, written i (s.step (.operate n (.write report))).2.world.state =
          written i s.world.state) := by
  intro events s
  have hl : Logged events s.world.state := logged_run as
  refine ⟨fun i d hd => ?logs, hl.answers, fun n report source e he i => ?failed⟩
  case logs =>
    have hlog : d.written = accepted i events := by
      rw [← hl.log, written, hd]
      rfl
    have hreply : (s.step (.control (.written i))).1 =
        .control (.written i) (.reports d.written) := by
      simp only [Traffic.step, control, about, hd]
      rfl
    rw [← hlog]
    exact ⟨hreply, hl.sizes d (List.mem_of_getElem? hd)⟩
  case failed =>
    have hafter := (hl.write n report).log i
    rw [he, accepted_append, ← hl.log] at hafter
    simpa [Event.accepted?] using hafter

end VirtualBus
end HidAccess
