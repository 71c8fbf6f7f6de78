import HidAccess.Proofs.Handle.Operation
import HidAccess.VirtualBus

/-! The reports that wait for a reader on a virtual bus, and what a device read does to them. Reads
alone take reports away. -/

namespace HidAccess

def ReadEnd.isNothing : ReadEnd → Bool
  | .returned (.ok .wouldBlock) | .returned (.ok .timedOut) => true
  | _ => false

namespace VirtualBus

def platformWith (now : Clocked VirtualBus → Instant × Clocked VirtualBus) :
    Platform (Clocked VirtualBus) Nat :=
  backend.clocked.toDeviceCalls.alone now

def platform : Platform (Clocked VirtualBus) Nat := platformWith Clocked.clock

def queue (device : Nat) (bus : VirtualBus) : List Bytes :=
  (bus.devices[device]?.map (·.input)).getD []

def withContent (reports : List Bytes) : List Bytes := reports.filter fun r => !r.isEmpty

@[simp] theorem withContent_nil : withContent [] = [] := rfl

@[simp] theorem withContent_append (rs rs' : List Bytes) :
    withContent (rs ++ rs') = withContent rs ++ withContent rs' := by
  simp [withContent]

def isAttached (device : Nat) (bus : VirtualBus) : Bool :=
  bus.devices[device]?.any (·.attached)

def setQueue (device : Nat) (reports : List Bytes) : VirtualBus → VirtualBus :=
  change device fun d => { d with input := reports }

variable {bus : VirtualBus} {i k : Nat} {d : VirtualDevice} {f : VirtualDevice → VirtualDevice}

theorem queue_of_some (hd : bus.devices[i]? = some d) : queue i bus = d.input := by
  simp [queue, hd]

theorem isAttached_iff :
    isAttached i bus = true ↔ ∃ d, bus.devices[i]? = some d ∧ d.attached = true := by
  simp [isAttached, Option.any_eq_true]

theorem devices_change (i k : Nat) (f : VirtualDevice → VirtualDevice) (bus : VirtualBus) :
    (bus.change i f).devices[k]? = bus.devices[k]?.map fun d => if i = k then f d else d := by
  simp [change, List.getElem?_modify]

theorem change_const (hd : bus.devices[i]? = some d) (f : VirtualDevice → VirtualDevice) :
    (bus.change i fun _ => f d) = bus.change i f := by
  simp only [change, VirtualBus.mk.injEq, and_true]
  refine List.ext_getElem? fun k => ?_
  by_cases hk : i = k
  · subst hk
    simp [hd]
  · simp [hk]

theorem change_id (i : Nat) (bus : VirtualBus) : bus.change i id = bus := by
  simp [change]

theorem withAttached_of_some {α : Type}
    {call : VirtualDevice → Except AccessError α × VirtualDevice}
    (hd : bus.devices[i]? = some d) : withAttached call i bus =
      if d.attached then ((call d).1, bus.change i fun d => (call d).2)
      else (.error d.unplugged, bus) := by
  simp only [withAttached, hd, ← change_const hd fun d => (call d).2]

theorem withAttached_of_none {α : Type}
    {call : VirtualDevice → Except AccessError α × VirtualDevice} (hd : bus.devices[i]? = none) :
    withAttached call i bus = (.error .handleClosed, bus) := by
  simp only [withAttached, hd]

theorem queue_change (hd : bus.devices[i]? = some d) :
    queue k (bus.change i f) = if i = k then (f d).input else queue k bus := by
  by_cases hk : i = k
  · subst hk
    simp [queue, devices_change, hd]
  · simp [queue, devices_change, hk]

theorem queue_change_of_input (hf : ∀ d, (f d).input = d.input) :
    queue k (bus.change i f) = queue k bus := by
  cases hd : bus.devices[k]? with
  | none => simp [queue, devices_change, hd]
  | some d => by_cases hk : i = k <;> simp [queue, devices_change, hd, hk, hf]

theorem queue_setQueue_self (ha : isAttached i bus = true) (reports : List Bytes) :
    queue i (bus.setQueue i reports) = reports := by
  obtain ⟨d, hd, -⟩ := isAttached_iff.mp ha
  simp [setQueue, queue_change hd]

theorem queue_setQueue_of_ne (hk : i ≠ k) (reports : List Bytes) :
    queue k (bus.setQueue i reports) = queue k bus := by
  simp [queue, setQueue, devices_change, hk]

@[simp] theorem isAttached_setQueue (i k : Nat) (reports : List Bytes) (bus : VirtualBus) :
    isAttached k (bus.setQueue i reports) = isAttached k bus := by
  cases hd : bus.devices[k]? with
  | none => simp [isAttached, setQueue, devices_change, hd]
  | some d => by_cases hk : i = k <;> simp [isAttached, setQueue, devices_change, hd, hk]

theorem queue_withAttached {α : Type} (call : VirtualDevice → Except AccessError α × VirtualDevice)
    (hc : ∀ d, (call d).2.input = d.input) :
    queue k (withAttached call i bus).2 = queue k bus := by
  cases hd : bus.devices[i]? with
  | none => rw [withAttached_of_none hd]
  | some d =>
    rw [withAttached_of_some hd]
    split
    · exact queue_change_of_input hc
    · rfl

theorem queue_attach (spec : VirtualSpec) : queue k (bus.attach spec) = queue k bus := by
  obtain hk | rfl | hk := Nat.lt_trichotomy k bus.devices.length
  · simp [queue, attach, List.getElem?_append_left hk]
  · simp [queue, attach]
  · simp [queue, attach, List.getElem?_eq_none (Nat.le_of_lt hk),
      List.getElem?_append_right (Nat.le_of_lt hk), Nat.sub_ne_zero_of_lt hk]

theorem opened_input {d' : VirtualDevice} (ho : d.opened = .ok d') : d'.input = d.input := by
  simp only [VirtualDevice.opened] at ho
  split at ho
  · cases ho
  · split at ho
    · cases ho
    · cases ho
      rfl

theorem queue_openPath (path : String) : queue k (openPath path bus).2 = queue k bus := by
  simp only [openPath]
  split
  · rfl
  next i _ =>
    split
    · rfl
    next d hd =>
      split
      · rfl
      next d' ho =>
        rw [queue_change hd, opened_input ho]
        split
        next hk => rw [← hk, queue_of_some hd]
        next => rfl

theorem fetchFeature_snd (buffer : Bytes) (d : VirtualDevice) :
    (d.fetchFeature buffer).2 = d := by
  simp only [VirtualDevice.fetchFeature]
  split <;> rfl

theorem onlyReadsChange_queue (k : Nat) :
    Handle.OnlyReadsChange backend.clocked.toDeviceCalls Clocked.clock
      fun w => queue k w.state where
  now _ := rfl
  release _ _ := queue_change_of_input fun _ => rfl
  write _ report _ := queue_withAttached (VirtualDevice.accept report) fun _ => rfl
  outputLimit _ _ := rfl
  sendFeature _ report _ :=
    queue_withAttached (VirtualDevice.acceptFeature report) fun _ => rfl
  getFeature _ buffer _ := queue_withAttached (VirtualDevice.fetchFeature buffer)
    fun d => congrArg VirtualDevice.input (fetchFeature_snd buffer d)
  text _ query _ := queue_withAttached (fun d => (.ok (d.textOf query), d)) fun _ => rfl

variable {w : Clocked VirtualBus} {buffer : Bytes} {patience : Duration}

@[simp] theorem state_wait (w : Clocked VirtualBus) (d : Duration) :
    (w.wait d).state = w.state := by
  simp only [Clocked.wait]
  split <;> rfl

theorem read_of_detached (buffer : Bytes) (patience : Duration)
    (ha : isAttached i w.state = false) :
    ∃ e, Clocked.read backend i buffer patience w = (.error e, w) := by
  cases hd : w.state.devices[i]? with
  | none => exact ⟨.handleClosed, by simp [Clocked.read, backend, withAttached, hd]⟩
  | some d =>
    have had : d.attached = false := by simpa [isAttached, hd] using ha
    exact ⟨d.unplugged, by simp [Clocked.read, backend, withAttached, hd, had]⟩

theorem read_of_empty (ha : isAttached i w.state = true) (hq : queue i w.state = []) :
    Clocked.read backend i buffer patience w = (.ok ⟨0, buffer⟩, w.wait patience) := by
  obtain ⟨d, hd, had⟩ := isAttached_iff.mp ha
  rw [queue_of_some hd] at hq
  have hsame : w.state.change i (fun _ => d) = w.state :=
    (change_const hd id).trans (change_id i w.state)
  simp [Clocked.read, backend, withAttached, hd, had, VirtualDevice.take, hq, hsame]

theorem read_of_queued {report : Bytes} {rest : List Bytes} (ha : isAttached i w.state = true)
    (hq : queue i w.state = report :: rest) :
    Clocked.read backend i buffer patience w =
      (.ok (.fill buffer report), { w with state := w.state.setQueue i rest }) := by
  obtain ⟨d, hd, had⟩ := isAttached_iff.mp ha
  rw [queue_of_some hd] at hq
  have hsame : w.state.change i (fun _ => { d with input := rest }) = w.state.setQueue i rest :=
    change_const hd fun d => { d with input := rest }
  simp only [Clocked.read, backend, withAttached, hd, if_pos had, VirtualDevice.take, hq,
    hsame]

variable {h : Handle Nat} {r : Reading}

theorem fill_nil (buffer : Bytes) : Received.fill buffer [] = ⟨0, buffer⟩ := by
  simp [Received.fill]

theorem after_fill {report : Bytes} (hr : report ≠ []) (hb : r.buffer.length ≠ 0)
    (now : Instant) : r.after (.fill r.buffer report) now =
      .error (.returned (.ok (.data (report.take r.buffer.length)))) := by
  have hpos : 0 < (Received.fill r.buffer report).count :=
    Nat.lt_min.mpr ⟨List.length_pos_iff.mpr hr, Nat.pos_of_ne_zero hb⟩
  simp only [Reading.after, Reading.outcome?, if_pos hpos, Received.report_fill]

theorem after_nothing_cases (r : Reading) (now : Instant) :
    (r.blocking = true ∧ r.isPast now = false ∧ r.after ⟨0, r.buffer⟩ now = .ok r) ∨
    (¬ (r.blocking = true ∧ r.isPast now = false) ∧
      ∃ ended, r.after ⟨0, r.buffer⟩ now = .error ended ∧ ended.isNothing = true) := by
  obtain ⟨blocking, deadline, buffer⟩ := r
  cases blocking with
  | false => exact .inr ⟨by simp, _, rfl, rfl⟩
  | true =>
    cases hp : Reading.isPast ⟨true, deadline, buffer⟩ now with
    | true => exact .inr ⟨by simp, .returned (.ok .timedOut),
        by simp [Reading.after, Reading.outcome?, hp], rfl⟩
    | false => exact .inl ⟨rfl, rfl, by simp [Reading.after, Reading.outcome?, hp]⟩

variable (now : Clocked VirtualBus → Instant × Clocked VirtualBus)

theorem readSlice_of_detached (hl : h.live? = some i)
    (ha : isAttached i (now w).2.state = false) :
    ∃ e, h.readSlice (platformWith now) r w = (.error (.returned (.error e)),
      if e.isDisconnect then h.retire (platformWith now) (now w).2 else (h, (now w).2)) := by
  obtain ⟨e, he⟩ := read_of_detached r.buffer (r.slice h.interval (now w).1) ha
  exact ⟨e, Handle.readSlice_of_failed _ now hl he⟩

theorem readSlice_of_empty (hl : h.live? = some i) (ha : isAttached i (now w).2.state = true)
    (hq : queue i (now w).2.state = []) :
    h.readSlice (platformWith now) r w =
      let w' := (now w).2.wait (r.slice h.interval (now w).1)
      (r.after ⟨0, r.buffer⟩ (now w').1, h, (now w').2) :=
  Handle.readSlice_of_received _ now hl (read_of_empty ha hq)

theorem readSlice_of_queued {report : Bytes} {rest : List Bytes} (hl : h.live? = some i)
    (ha : isAttached i (now w).2.state = true) (hq : queue i (now w).2.state = report :: rest) :
    h.readSlice (platformWith now) r w =
      let w' : Clocked VirtualBus := { (now w).2 with state := (now w).2.state.setQueue i rest }
      (r.after (.fill r.buffer report) (now w').1, h, (now w').2) :=
  Handle.readSlice_of_received _ now hl (read_of_queued ha hq)

end VirtualBus

end HidAccess
