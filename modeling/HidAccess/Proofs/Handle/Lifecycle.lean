import HidAccess.Proofs.Handle.CallLog
import HidAccess.VirtualBus

/-! The life of a handle from its opening on, as the turns that it has taken. A turn gives the
device up when a close succeeds, when the device turns out to be gone, and when the handle is
dropped. The first turn that gives the device up releases it, as its last call. -/

namespace HidAccess.Handle
variable {W D : Type}

structure Turn (D : Type) where
  operation : Operation
  answer : Answer
  calls : List (D × DeviceCall)
  before : Handle D
  after : Handle D

namespace Turn

def ends (t : Turn D) : Bool := t.operation.ends

def disconnects (t : Turn D) : Bool := t.answer.isDisconnect

def closes (t : Turn D) : Bool := t.operation == .close && t.answer == .done

def givesUp (t : Turn D) : Bool := t.closes || t.disconnects || t.operation == .drop

structure Regular (t : Turn D) : Prop where
  closed : t.after.closed = (t.before.closed || t.ends)
  device : t.after.device = if t.givesUp then none else t.before.device
  calls : ∃ used, (∀ call ∈ used, t.before.Reaches call) ∧
    t.calls = used ++ if t.givesUp then t.before.device.toList.map (·, .release) else []
  failed : ∀ e, t.answer = .failed e → e.isDisconnect = false → t.after = t.before
  close : t.operation = .close →
    t.answer = if t.before.closed then .failed .handleClosed else .done

end Turn

structure Life (W D : Type) where
  past : List (Turn D) := []
  handle : Handle D
  world : W

namespace Life

def opened (path : String) (d : D) (interval : Duration) (w : W) : Life W D where
  handle := .opened path d interval
  world := w

variable (c : DeviceCalls W D Received) (now : W → Instant × W)

def turn (life : Life W D) (o : Operation) : Turn D × W :=
  let (answer, after, l) := perform (recorded c now) o life.handle { world := life.world }
  (⟨o, answer, l.calls, life.handle, after⟩, l.world)

def next (life : Life W D) (o : Operation) : Life W D :=
  let (t, world) := life.turn c now o
  { past := life.past ++ [t], handle := t.after, world }

def run (life : Life W D) (os : List Operation) : Life W D := os.foldl (next c now) life

@[simp] theorem turn_before (life : Life W D) (o : Operation) :
    (life.turn c now o).1.before = life.handle := rfl

@[simp] theorem turn_operation (life : Life W D) (o : Operation) :
    (life.turn c now o).1.operation = o := rfl

@[simp] theorem next_past (life : Life W D) (o : Operation) :
    (life.next c now o).past = life.past ++ [(life.turn c now o).1] := rfl

@[simp] theorem next_handle (life : Life W D) (o : Operation) :
    (life.next c now o).handle = (life.turn c now o).1.after := rfl

end Life

variable (c : DeviceCalls W D Received) (now : W → Instant × W)

theorem givesUp_of_transfers {t : Turn D} (ho : t.operation.transfers = true) :
    t.givesUp = t.disconnects := by
  have hc : t.operation ≠ .close := fun he => by
    simp [he, Operation.transfers, Operation.ends] at ho
  have hd : t.operation ≠ .drop := fun he => by
    simp [he, Operation.transfers, Operation.ends] at ho
  simp [Turn.givesUp, Turn.closes, beq_false_of_ne hc, beq_false_of_ne hd]

theorem regular_of_transfer {o : Operation} (ho : o.transfers = true) {a : Answer}
    {h h' : Handle D} {w : W} {l' : Logged W D}
    (ht : Transfer h (⟨w, []⟩ : Logged W D) a.isDisconnect h' l') :
    Turn.Regular ⟨o, a, l'.calls, h, h'⟩ := by
  have he : o.ends = false := by
    simp only [Operation.transfers, Bool.and_eq_true, Bool.not_eq_true'] at ho
    exact ho.1
  have hg : Turn.givesUp ⟨o, a, l'.calls, h, h'⟩ = a.isDisconnect := givesUp_of_transfers ho
  have hclose : o = .close → a = if h.closed then .failed .handleClosed else .done := by
    rintro rfl
    cases ho
  generalize ha : a.isDisconnect = b at ht hg
  cases ht with
  | kept hu =>
    obtain ⟨used, hm, hr⟩ := hu
    exact {
      closed := by simp [Turn.ends, he]
      device := by simp [hg]
      calls := ⟨used, hr, by simpa [hg] using hm⟩
      failed := fun _ _ _ => rfl
      close := hclose }
  | lost hl hu hlog =>
    obtain ⟨used, hm, hr⟩ := hu
    exact {
      closed := by simp [Turn.ends, he]
      device := by simp [hg]
      calls := ⟨used, hr, by rw [hg]; simp [hlog, hm, (live?_eq_some.mp hl).2]⟩
      failed := fun e hf hk => by simp [show a = .failed e from hf, Answer.isDisconnect, hk] at ha
      close := hclose }

theorem calls_releaseDevice (h : Handle D) (l : Logged W D) :
    (h.releaseDevice (recorded c now) l).calls =
      l.calls ++ h.device.toList.map (·, .release) := by
  cases hd : h.device <;>
    simp [releaseDevice, hd, recorded, DeviceCalls.alone, DeviceCalls.logged]

def Turn.refused (o : Operation) (h : Handle D) : Turn D :=
  ⟨o, .failed .handleClosed, [], h, h⟩

def Turn.ended (o : Operation) (h : Handle D) : Turn D :=
  ⟨o, .done, h.device.toList.map (·, .release), h, { h with closed := true, device := none }⟩

theorem turn_setBlocking (life : Life W D) (blocking : Bool) :
    (life.turn c now (.setBlocking blocking)).1 =
      if life.handle.closed then .refused (.setBlocking blocking) life.handle
      else ⟨.setBlocking blocking, .done, [], life.handle, { life.handle with blocking }⟩ := by
  simp only [Life.turn, recorded, perform_setBlocking]
  split <;> rfl

theorem turn_close (life : Life W D) :
    (life.turn c now .close).1 =
      if life.handle.closed then .refused .close life.handle else .ended .close life.handle := by
  have hr := calls_releaseDevice c now life.handle { world := life.world }
  simp only [Life.turn, perform_close, recorded] at hr ⊢
  split
  · rfl
  · simp only [hr, List.nil_append, Turn.ended]

theorem turn_drop (life : Life W D) :
    (life.turn c now .drop).1 = .ended .drop life.handle := by
  have hr := calls_releaseDevice c now life.handle { world := life.world }
  simp only [Life.turn, perform, drop, hr, List.nil_append, Turn.ended]

theorem refused_regular {o : Operation} {h : Handle D} (hc : h.closed = true) (hd : o ≠ .drop) :
    (Turn.refused o h).Regular := by
  have hg : (Turn.refused o h).givesUp = false := by
    simp [Turn.refused, Turn.givesUp, Turn.closes, Turn.disconnects, Answer.isDisconnect,
      AccessError.isDisconnect, beq_false_of_ne hd]
  exact {
    closed := by simp [Turn.refused, hc]
    device := by rw [hg]; rfl
    calls := ⟨[], by simp, by rw [hg]; rfl⟩
    failed := fun _ _ _ => rfl
    close := fun _ => by simp [Turn.refused, hc] }

theorem ended_regular {o : Operation} {h : Handle D}
    (ho : o = .drop ∨ o = .close ∧ h.closed = false) : (Turn.ended o h).Regular := by
  have he : o.ends = true := by
    obtain rfl | ⟨rfl, -⟩ := ho <;> rfl
  have hg : (Turn.ended o h).givesUp = true := by
    obtain rfl | ⟨rfl, -⟩ := ho <;> rfl
  exact {
    closed := by simp [Turn.ended, Turn.ends, he]
    device := by rw [hg]; rfl
    calls := ⟨[], by simp, by rw [hg]; rfl⟩
    failed := nofun
    close := fun hclose => by
      obtain rfl | ⟨-, hc⟩ := ho
      · cases hclose
      · simp [Turn.ended, hc] }

theorem turn_regular (life : Life W D) (o : Operation) : (life.turn c now o).1.Regular := by
  obtain ho | ⟨blocking, rfl⟩ | rfl | rfl := o.transfers_or
  · exact regular_of_transfer ho (perform_transfer c now ho life.handle _)
  · rw [turn_setBlocking]
    cases hc : life.handle.closed with
    | true => exact refused_regular hc (by simp)
    | false => exact {
        closed := by simp [Turn.ends, Operation.ends]
        device := rfl
        calls := ⟨[], by simp, rfl⟩
        failed := nofun
        close := nofun }
  · rw [turn_close]
    cases hc : life.handle.closed with
    | true => exact refused_regular hc (by simp)
    | false => exact ended_regular (.inr ⟨rfl, hc⟩)
  · rw [turn_drop]
    exact ended_regular (.inl rfl)

theorem turn_crashed_iff (life : Life W D) (o : Operation) (crash : Crash) :
    (life.turn c now o).1.answer = .crashed crash ↔
      o.WellFormed ∧ o.crash? life.handle.closed (now life.world).1 = some crash :=
  perform_eq_crashed_iff c.logged (Logged.clock now)

theorem turn_of_crashed {life : Life W D} {o : Operation} {crash : Crash}
    (ha : (life.turn c now o).1.answer = .crashed crash) :
    (life.turn c now o).1.calls = [] ∧ (life.turn c now o).1.after = life.handle := by
  obtain ⟨hw, hcrash⟩ := (turn_crashed_iff c now life o crash).mp ha
  obtain ⟨l, hx, hl⟩ := perform_of_crash c.logged (Logged.clock now) (w := ⟨life.world, []⟩) hw hcrash
  have hcalls : l.calls = [] := by
    obtain rfl | rfl := hl <;> rfl
  simpa only [Life.turn, recorded, hx, and_true] using hcalls

def isRelease (call : D × DeviceCall) : Bool := call.2 == .release

/-- The flag and the device of a handle follow from its past, and so does the release. -/
structure Life.Settled (d : D) (life : Life W D) : Prop where
  closed : life.handle.closed = life.past.any Turn.ends
  device : life.handle.device = if life.past.any Turn.givesUp then none else some d
  releases : (life.past.flatMap Turn.calls).countP isRelease =
    if life.past.any Turn.givesUp then 1 else 0

theorem settled_opened (path : String) (d : D) (interval : Duration) (w : W) :
    (Life.opened path d interval w).Settled d :=
  ⟨rfl, rfl, rfl⟩

theorem calls_of_settled {d : D} {life : Life W D} (hs : life.Settled d) (o : Operation) :
    ∃ used, (∀ call ∈ used, call.1 = d ∧ call.2 ≠ .release) ∧
      (life.turn c now o).1.calls =
        if life.past.any Turn.givesUp then []
        else used ++ if (life.turn c now o).1.givesUp then [(d, .release)] else [] := by
  obtain ⟨used, hu, hcalls⟩ := (turn_regular c now life o).calls
  have hd := hs.device
  change ∀ call ∈ used, life.handle.Reaches call at hu
  change _ = used ++ if _ then life.handle.device.toList.map (·, .release) else [] at hcalls
  cases hg : life.past.any Turn.givesUp with
  | true =>
    rw [hg, if_pos rfl] at hd
    have hnil : used = [] := List.eq_nil_iff_forall_not_mem.mpr fun call hm => by
      have hl := (hu call hm).1
      simp [live?_of_device hd] at hl
    exact ⟨[], by simp, by simpa [hd, hnil] using hcalls⟩
  | false =>
    rw [hg, if_neg Bool.false_ne_true] at hd
    refine ⟨used, fun call hm => ⟨?_, (hu call hm).2⟩, by simpa [hd] using hcalls⟩
    have hl := (live?_eq_some.mp (hu call hm).1).2
    simpa [hd] using hl.symm

theorem settled_next {d : D} {life : Life W D} (hs : life.Settled d) (o : Operation) :
    (life.next c now o).Settled d := by
  have hr := turn_regular c now life o
  refine ⟨?_, ?_, ?_⟩
  · simpa [hs.closed] using hr.closed
  · have hd := hr.device
    rw [Life.turn_before, hs.device] at hd
    cases hg : life.past.any Turn.givesUp <;> simpa [hg] using hd
  · obtain ⟨used, hu, hcalls⟩ := calls_of_settled c now hs o
    have hnone : used.countP isRelease = 0 :=
      List.countP_eq_zero.mpr fun call hm => by simpa [isRelease] using (hu call hm).2
    have hp := hs.releases
    cases hg : life.past.any Turn.givesUp with
    | true => simpa [hcalls, hg] using hp
    | false =>
      cases ht : (life.turn c now o).1.givesUp <;>
        simpa [hcalls, hg, ht, hnone, isRelease] using hp

theorem settled_run {d : D} {life : Life W D} (hs : life.Settled d) (os : List Operation) :
    (life.run c now os).Settled d := by
  induction os generalizing life with
  | nil => exact hs
  | cons o os ih => exact ih (settled_next c now hs o)

theorem crash?_of_closed_eq_none_iff {o : Operation} {t : Instant} :
    o.crash? true t = none ↔ ∀ reportId length, o = .getFeature reportId length → length ≤ maxBuffer := by
  cases o with
  | getFeature reportId length => simp [Operation.crash?]
  | _ => simp [Operation.crash?]

/-- At every turn of every use of a handle: the device is released once, as the last call of the
first turn that gives it up, and no call is made after that; only the first close succeeds; and another
failure changes nothing. After a close that succeeded, a request that asks for something is refused exactly
if it is not one for a feature report longer than a buffer can be. Such a request crashes at all times, as a
read does that would begin with such a buffer or with a deadline that the clock cannot show; what crashes
has made no call, and leaves the handle as it was. -/
theorem handle_lifecycle (path : String) (d : D) (interval : Duration) (w : W)
    (past : List Operation) (o : Operation) :
    let life := (Life.opened path d interval w).run c now past
    let turn := (life.turn c now o).1
    ((life.past.flatMap Turn.calls).countP isRelease =
      if life.past.any Turn.givesUp then 1 else 0) ∧
    (∃ used, (∀ call ∈ used, call.1 = d ∧ call.2 ≠ .release) ∧
      turn.calls = if life.past.any Turn.givesUp then []
        else used ++ if turn.givesUp then [(d, .release)] else []) ∧
    (o = .close →
      turn.answer = if life.past.any Turn.ends then .failed .handleClosed else .done) ∧
    (life.past.any Turn.closes = true → o.WellFormed → o ≠ .drop →
      (turn.answer = .failed .handleClosed ↔
        ∀ reportId length, o = .getFeature reportId length → length ≤ maxBuffer)) ∧
    (∀ e, turn.answer = .failed e → e.isDisconnect = false → turn.after = turn.before) ∧
    (∀ crash, turn.answer = .crashed crash ↔
      o.WellFormed ∧ o.crash? (life.past.any Turn.ends) (now life.world).1 = some crash) ∧
    (∀ crash, turn.answer = .crashed crash → turn.calls = [] ∧ turn.after = turn.before) := by
  intro life turn
  have hs : life.Settled d := settled_run c now (settled_opened path d interval w) past
  have hr : turn.Regular := turn_regular c now life o
  have hcrashed (crash : Crash) : turn.answer = .crashed crash ↔
      o.WellFormed ∧ o.crash? (life.past.any Turn.ends) (now life.world).1 = some crash := by
    rw [← hs.closed]
    exact turn_crashed_iff c now life o crash
  refine ⟨hs.releases, calls_of_settled c now hs o, fun ho => ?close, fun hc hw hd => ?refused, hr.failed,
    hcrashed, fun crash ha => turn_of_crashed c now ha⟩
  case close => rw [hr.close ho, Life.turn_before, hs.closed]
  case refused =>
    have hended : life.past.any Turn.ends = true := by
      obtain ⟨t, hm, ht⟩ := List.any_eq_true.mp hc
      refine List.any_eq_true.mpr ⟨t, hm, ?_⟩
      simp only [Turn.closes, Bool.and_eq_true, beq_iff_eq] at ht
      simp [Turn.ends, ht.1, Operation.ends]
    rw [← crash?_of_closed_eq_none_iff (t := (now life.world).1)]
    constructor
    · intro ha
      refine Option.eq_none_iff_forall_ne_some.mpr fun crash hcrash => ?_
      have hx := (hcrashed crash).mpr ⟨hw, hended.symm ▸ hcrash⟩
      rw [ha] at hx
      cases hx
    · exact perform_of_closed c.logged (Logged.clock now) hd hw (hs.closed.trans hended)

def pluggedBus : Clocked VirtualBus where
  state := VirtualBus.attach { vendorId := 1, productId := 2 } {}

def closedLife : Life (Clocked VirtualBus) Nat :=
  (Life.opened "virtual:0" 0 (Duration.millis 20) pluggedBus).run
    VirtualBus.backend.clocked.toDeviceCalls Clocked.clock [.close]

def closedTurn (o : Operation) : Turn Nat :=
  (closedLife.turn VirtualBus.backend.clocked.toDeviceCalls Clocked.clock o).1

/-- A read of this length looks at the flag first. -/
theorem closed_fetch_crashes :
    closedLife.past.any Turn.closes = true ∧ (Operation.getFeature 1 (maxBuffer + 1)).WellFormed ∧
      (closedTurn (.getFeature 1 (maxBuffer + 1))).answer = .crashed .beyondMemory ∧
      (closedTurn (.read 0 (maxBuffer + 1) none)).answer = .failed .handleClosed :=
  ⟨by decide, Nat.succ_ne_zero _, rfl, rfl⟩

end HidAccess.Handle
