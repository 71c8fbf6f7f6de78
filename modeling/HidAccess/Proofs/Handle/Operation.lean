import HidAccess.Handle.Read

/-! The operations of a handle as data, with one answer for each. On a platform where nothing else
goes on, an operation reaches the handle's device or is refused with the handle as it was. -/

namespace HidAccess.Handle
variable {W D α : Type}

inductive Operation where
  /-- A read that makes at most `more` device reads after its first. -/
  | read (more length : Nat) (timeout : Option Duration)
  | write (report : Bytes)
  | sendFeature (report : Bytes)
  | getFeature (id : UInt8) (length : Nat)
  | text (query : StringQuery)
  | setBlocking (blocking : Bool)
  | close
  | drop
  deriving DecidableEq

inductive Answer where
  | done
  | outcome (o : ReadOutcome)
  | count (n : Nat)
  | report (bytes : Bytes)
  | text (s : Option String)
  | failed (e : AccessError)
  | crashed (crash : Crash)
  | waiting
  deriving DecidableEq

def isLost : Except AccessError α → Bool
  | .ok _ => false
  | .error e => e.isDisconnect

namespace Answer

def ofExcept (f : α → Answer) : Except AccessError α → Answer
  | .ok a => f a
  | .error e => .failed e

def ofCall (f : α → Answer) : CallResult α → Answer
  | .returned r => ofExcept f r
  | .crashed crash => .crashed crash

def ofRead : ReadEnd → Answer
  | .returned r => ofExcept .outcome r
  | .crashed crash => .crashed crash
  | .waiting => .waiting

def ofSlice : Except ReadEnd Reading → Answer
  | .error ended => ofRead ended
  | .ok _ => .waiting

def isDisconnect : Answer → Bool
  | .failed e => e.isDisconnect
  | _ => false

theorem isDisconnect_ofExcept {f : α → Answer} (hf : ∀ a, (f a).isDisconnect = false)
    (r : Except AccessError α) : (ofExcept f r).isDisconnect = isLost r := by
  cases r with
  | error e => rfl
  | ok a => exact hf a

theorem isDisconnect_ofReport (r : Except AccessError Received) :
    (ofCall .report (.returned (r.map Received.report))).isDisconnect = isLost r := by
  cases r <;> rfl

theorem ofExcept_ne_crashed {f : α → Answer} {crash : Crash} (hf : ∀ a, f a ≠ .crashed crash)
    (r : Except AccessError α) : ofExcept f r ≠ .crashed crash := by
  cases r with
  | error e => exact nofun
  | ok a => exact hf a

theorem ofRead_eq_crashed_iff {ended : ReadEnd} {crash : Crash} :
    ofRead ended = .crashed crash ↔ ended = .crashed crash := by
  cases ended with
  | returned r => exact iff_of_false (ofExcept_ne_crashed (by simp) r) nofun
  | crashed crash' => simp [ofRead]
  | waiting => exact iff_of_false nofun nofun

theorem ofCall_report_eq_crashed_iff {r : CallResult Bytes} {crash : Crash} :
    ofCall .report r = .crashed crash ↔ r = .crashed crash := by
  cases r with
  | returned r => exact iff_of_false (ofExcept_ne_crashed (by simp) r) nofun
  | crashed crash' => simp [ofCall]

end Answer

def perform (p : Platform W D) : Operation → Handle D → W → Answer × Handle D × W
  | .read more length timeout, h, w => Prod.map .ofRead id (h.read p (more + 1) length timeout w)
  | .write report, h, w => Prod.map (.ofExcept .count) id (h.write p report w)
  | .sendFeature report, h, w => Prod.map (.ofExcept .count) id (h.sendFeature p report w)
  | .getFeature reportId length, h, w =>
    Prod.map (.ofCall .report) id (h.getFeature p reportId length w)
  | .text query, h, w => Prod.map (.ofExcept .text) id (h.text p query w)
  | .setBlocking blocking, h, w =>
    Prod.map (.ofExcept fun _ => .done) id (h.setBlocking p blocking w)
  | .close, h, w => Prod.map (.ofExcept fun _ => .done) id (h.close p w)
  | .drop, h, w => (.done, h.drop p w)

namespace Operation

/-- Nothing is asked for with an empty report or a length of 0. -/
def WellFormed : Operation → Prop
  | .read _ length _ => length ≠ 0
  | .write report => report ≠ []
  | .sendFeature report => report ≠ []
  | .getFeature _ length => length ≠ 0
  | .text _ | .setBlocking _ | .close | .drop => True

/-- What a request for something crashes with. The buffer for a feature report is made before the handle
looks at its flag, that of a read once the flag has turned out to be down. -/
def crash? (closed : Bool) (now : Instant) : Operation → Option Crash
  | .read _ length timeout => if closed then none else readCrash? length timeout now
  | .getFeature _ length => bufferCrash? length
  | _ => none

def ends (o : Operation) : Bool := o == .close || o == .drop

def switchesMode : Operation → Bool
  | .setBlocking _ => true
  | _ => false

def transfers (o : Operation) : Bool := !o.ends && !o.switchesMode

theorem transfers_or (o : Operation) :
    o.transfers = true ∨ (∃ blocking, o = .setBlocking blocking) ∨ o = .close ∨ o = .drop := by
  cases o <;> simp [transfers, ends, switchesMode]

end Operation

def live? (h : Handle D) : Option D := if h.closed then none else h.device

theorem live?_eq_some {h : Handle D} {d : D} :
    h.live? = some d ↔ h.closed = false ∧ h.device = some d := by
  cases hc : h.closed <;> simp [live?, hc]

theorem live?_of_closed {h : Handle D} (hc : h.closed = true) : h.live? = none := by
  simp [live?, hc]

theorem live?_of_device {h : Handle D} (hd : h.device = none) : h.live? = none := by
  simp [live?, hd]

section Alone
variable (c : DeviceCalls W D Received) (now : W → Instant × W)

def settle (p : Platform W D) (h : Handle D) : Outcome W α → Except AccessError α × Handle D × W
  | (.ok a, w) => (.ok a, h, w)
  | (.error e, w) => (.error e, if e.isDisconnect then h.retire p w else (h, w))

theorem fst_settle (p : Platform W D) (h : Handle D) (x : Outcome W α) :
    (settle p h x).1 = x.1 := by
  obtain ⟨_ | _, _⟩ := x <;> rfl

theorem withDevice_of_live {h : Handle D} {d : D} (hl : h.live? = some d)
    (call : D → W → Outcome W α) (w : W) :
    withDevice (c.alone now) call h w = settle (c.alone now) h (call d w) := by
  obtain ⟨hc, hd⟩ := live?_eq_some.mp hl
  simp only [withDevice, DeviceCalls.alone, hc, hd]
  rfl

theorem withDevice_of_not_live {h : Handle D} (hl : h.live? = none)
    (call : D → W → Outcome W α) (w : W) :
    withDevice (c.alone now) call h w = (.error .handleClosed, h, w) := by
  cases hc : h.closed with
  | true => simp [withDevice, DeviceCalls.alone, hc]
  | false =>
    have hd : h.device = none := by simpa [live?, hc] using hl
    simp [withDevice, DeviceCalls.alone, hc, hd]

section Write
variable {p : Platform W D} {report : Bytes} {d : D} {w : W}

theorem writeDevice_within
    (hlimit : ∀ limit ∈ (p.outputLimit d w).1, report.length ≤ limit) :
    writeDevice p report d w = p.write d report (p.outputLimit d w).2 := by
  simp only [writeDevice]
  split
  next limit w' hx =>
    have hsize : report.length ≤ limit := hlimit limit (by simp [hx])
    simp only [if_neg (Nat.not_lt.mpr hsize), hx]
  next w' hx => simp only [hx]

theorem writeDevice_beyond
    (hlimit : ¬ ∀ limit ∈ (p.outputLimit d w).1, report.length ≤ limit) :
    ∃ text, writeDevice p report d w = (.error (.validation text), (p.outputLimit d w).2) := by
  simp only [writeDevice]
  split
  next limit w' hx =>
    have hsize : limit < report.length := by simpa [hx] using hlimit
    rw [if_pos hsize, hx]
    exact ⟨_, rfl⟩
  next w' hx => simp [hx] at hlimit

theorem write_of_live {h : Handle D} (hl : h.live? = some d) (hr : report ≠ []) :
    h.write (c.alone now) report w =
      settle (c.alone now) h (writeDevice (c.alone now) report d w) := by
  have he : report.isEmpty = false := List.isEmpty_eq_false_iff.mpr hr
  simp only [write, refuseEmpty, he, refusing, withDevice_of_live c now hl, Bool.false_eq_true,
    if_false]

end Write

section Feature
variable {report : Bytes} {h : Handle D} {d : D}

theorem sendFeature_of_live (hl : h.live? = some d) (hr : report ≠ []) (w : W) :
    h.sendFeature (c.alone now) report w =
      settle (c.alone now) h (c.sendFeature d report w) := by
  have he : report.isEmpty = false := List.isEmpty_eq_false_iff.mpr hr
  simp only [sendFeature, refuseEmpty, he, refusing, withDevice_of_live c now hl, Bool.false_eq_true,
    if_false]
  rfl

theorem getFeature_of_fits (p : Platform W D) {length : Nat} (hz : length ≠ 0) (hfits : length ≤ maxBuffer)
    (reportId : UInt8) (h : Handle D) (w : W) : h.getFeature p reportId length w =
      Prod.map (fun r => .returned (r.map Received.report)) id
        (withDevice p (fun d w => p.getFeature d (featureBuffer reportId length) w) h w) := by
  simp only [getFeature, if_neg hz, bufferCrash?_eq_none_iff.mpr hfits]
  rfl

theorem getFeature_of_crash (p : Platform W D) {length : Nat} (hz : length ≠ 0) {crash : Crash}
    (hcrash : bufferCrash? length = some crash) (reportId : UInt8) (h : Handle D) (w : W) :
    h.getFeature p reportId length w = (.crashed crash, h, w) := by
  simp only [getFeature, if_neg hz, hcrash]

theorem getFeature_cases (p : Platform W D) (reportId : UInt8) (length : Nat) (h : Handle D) (w : W) :
    (∃ r, h.getFeature p reportId length w = (r, h, w) ∧ (Answer.ofCall .report r).isDisconnect = false) ∨
      h.getFeature p reportId length w = Prod.map (fun r => .returned (r.map Received.report)) id
        (withDevice p (fun d w => p.getFeature d (featureBuffer reportId length) w) h w) := by
  by_cases hz : length = 0
  · subst hz
    exact .inl ⟨_, rfl, rfl⟩
  cases hcrash : bufferCrash? length with
  | some crash => exact .inl ⟨_, getFeature_of_crash p hz hcrash reportId h w, rfl⟩
  | none => exact .inr (getFeature_of_fits p hz (bufferCrash?_eq_none_iff.mp hcrash) reportId h w)

theorem getFeature_eq_crashed_iff (p : Platform W D) {reportId : UInt8} {length : Nat} {h : Handle D} {w : W}
    {crash : Crash} : (h.getFeature p reportId length w).1 = .crashed crash ↔
      length ≠ 0 ∧ bufferCrash? length = some crash := by
  by_cases hz : length = 0
  · subst hz
    exact iff_of_false nofun fun h => h.1 rfl
  cases hcrash : bufferCrash? length with
  | some crash' => simp [getFeature_of_crash p hz hcrash, hz]
  | none =>
    rw [getFeature_of_fits p hz (bufferCrash?_eq_none_iff.mp hcrash)]
    exact iff_of_false nofun nofun

theorem getFeature_of_live {length : Nat} (hl : h.live? = some d) (hz : length ≠ 0)
    (hfits : length ≤ maxBuffer) (reportId : UInt8) (w : W) : h.getFeature (c.alone now) reportId length w =
      Prod.map (fun r => .returned (r.map Received.report)) id
        (settle (c.alone now) h (c.getFeature d (featureBuffer reportId length) w)) := by
  rw [getFeature_of_fits _ hz hfits, withDevice_of_live c now hl]
  rfl

end Feature

section Slice
variable {h : Handle D} {d : D} {r : Reading} {w w' : W}

theorem readSlice_of_not_live (hl : h.live? = none) :
    h.readSlice (c.alone now) r w =
      (.error (.returned (.error .handleClosed)), h, (now w).2) := by
  simp only [readSlice, withDevice_of_not_live c now hl]
  rfl

theorem readSlice_of_failed {e : AccessError} (hl : h.live? = some d)
    (hr : c.read d r.buffer (r.slice h.interval (now w).1) (now w).2 = (.error e, w')) :
    h.readSlice (c.alone now) r w =
      (.error (.returned (.error e)),
        if e.isDisconnect then h.retire (c.alone now) w' else (h, w')) := by
  have hw : withDevice (c.alone now) (fun d w' =>
      (c.alone now).read d r.buffer (r.slice h.interval (now w).1) w') h (now w).2 =
      (.error e, if e.isDisconnect then h.retire (c.alone now) w' else (h, w')) := by
    rw [withDevice_of_live c now hl, show (c.alone now).read = c.read from rfl, hr]
    rfl
  simp only [readSlice, show (c.alone now).now = now from rfl, hw]

theorem readSlice_of_received {received : Received} (hl : h.live? = some d)
    (hr : c.read d r.buffer (r.slice h.interval (now w).1) (now w).2 = (.ok received, w')) :
    h.readSlice (c.alone now) r w = (r.after received (now w').1, h, (now w').2) := by
  have hw : withDevice (c.alone now) (fun d w' =>
      (c.alone now).read d r.buffer (r.slice h.interval (now w).1) w') h (now w).2 =
      (.ok received, h, w') := by
    rw [withDevice_of_live c now hl, show (c.alone now).read = c.read from rfl, hr]
    rfl
  simp only [readSlice, show (c.alone now).now = now from rfl, hw]

end Slice

theorem startRead_of_closed {length : Nat} (hz : length ≠ 0) {h : Handle D}
    (hc : h.closed = true) (timeout : Option Duration) (t : Instant) :
    h.startRead length timeout t = .error (.returned (.error .handleClosed)) := by
  simp [startRead, hz, ensureOpen, hc]

theorem startRead_of_open {length : Nat} (hz : length ≠ 0) {h : Handle D} (hc : h.closed = false)
    (timeout : Option Duration) (t : Instant) :
    h.startRead length timeout t = match readCrash? length timeout t with
      | some crash => .error (.crashed crash)
      | none => .ok (h.reading length (timeout.bind t.after?)) := by
  simp only [startRead, if_neg hz, ensureOpen, hc]
  rfl

section Crash
variable {length : Nat} {timeout : Option Duration} {t : Instant}

theorem readCrash?_of_timely (ht : ∀ d ∈ timeout, t + d < Instant.limit) :
    readCrash? length timeout t = bufferCrash? length := by
  cases timeout with
  | none => simp [readCrash?]
  | some d =>
    have hd : t + d < Instant.limit := ht d rfl
    simp [readCrash?, Instant.after?, hd]

theorem readCrash?_of_late (ht : ∃ d ∈ timeout, Instant.limit ≤ t + d) :
    readCrash? length timeout t = some .beyondClock := by
  obtain ⟨d, rfl, hd⟩ := ht
  have hd : ¬ t + d < Instant.limit := Nat.not_lt.mpr hd
  simp [readCrash?, Instant.after?, hd]

theorem readCrash?_eq_none_iff : readCrash? length timeout t = none ↔
    (∀ d ∈ timeout, t + d < Instant.limit) ∧ length ≤ maxBuffer := by
  by_cases ht : ∀ d ∈ timeout, t + d < Instant.limit
  · rw [readCrash?_of_timely ht, bufferCrash?_eq_none_iff]
    exact (and_iff_right ht).symm
  · have hlate : ∃ d ∈ timeout, Instant.limit ≤ t + d := by simpa using ht
    rw [readCrash?_of_late hlate]
    exact iff_of_false nofun fun h => ht h.1

theorem bind_after?_of_timely (ht : ∀ d ∈ timeout, t + d < Instant.limit) :
    timeout.bind t.after? = timeout.map (t + ·) := by
  cases timeout with
  | none => rfl
  | some d =>
    have hd : t + d < Instant.limit := ht d rfl
    simp [Instant.after?, hd]

end Crash

theorem startRead_eq_crashed_iff {length : Nat} {timeout : Option Duration} {t : Instant} {h : Handle D}
    {crash : Crash} : h.startRead length timeout t = .error (.crashed crash) ↔
      length ≠ 0 ∧ h.closed = false ∧ readCrash? length timeout t = some crash := by
  by_cases hz : length = 0
  · simp [startRead, hz]
  cases hc : h.closed with
  | true => simp [startRead_of_closed hz hc]
  | false =>
    rw [startRead_of_open hz hc]
    cases readCrash? length timeout t <;> simp [hz]

inductive ReadRefusal : ReadEnd → Prop
  | empty : ReadRefusal (.returned (.error emptyRead))
  | closed : ReadRefusal (.returned (.error .handleClosed))
  | crashed (crash : Crash) : ReadRefusal (.crashed crash)

theorem ReadRefusal.not_disconnect {ended : ReadEnd} (hr : ReadRefusal ended) :
    (Answer.ofRead ended).isDisconnect = false := by
  cases hr <;> rfl

theorem startRead_cases (length : Nat) (timeout : Option Duration) (t : Instant) (h : Handle D) :
    (∃ ended, h.startRead length timeout t = .error ended ∧ ReadRefusal ended) ∨
    (h.startRead length timeout t = .ok (h.reading length (timeout.bind t.after?)) ∧
      length ≠ 0 ∧ readCrash? length timeout t = none) := by
  by_cases hz : length = 0
  · exact .inl ⟨_, by simp only [startRead, hz, if_true], .empty⟩
  cases hc : h.closed with
  | true => exact .inl ⟨_, startRead_of_closed hz hc timeout t, .closed⟩
  | false =>
    have hs := startRead_of_open hz hc timeout t
    cases hcrash : readCrash? length timeout t with
    | some crash => exact .inl ⟨_, by rw [hs, hcrash], .crashed crash⟩
    | none => exact .inr ⟨by rw [hs, hcrash], hz, rfl⟩

theorem read_of_refused {length slices : Nat} {timeout : Option Duration} {h : Handle D} {w : W}
    {ended : ReadEnd} (hs : h.startRead length timeout (now w).1 = .error ended) :
    h.read (c.alone now) slices length timeout w = (ended, h, (now w).2) := by
  simp only [read, DeviceCalls.alone, hs]

theorem read_of_started {length slices : Nat} {timeout : Option Duration} {h : Handle D} {w : W}
    {r : Reading} (hs : h.startRead length timeout (now w).1 = .ok r) :
    h.read (c.alone now) slices length timeout w =
      h.readSlices (c.alone now) slices r (now w).2 := by
  simp only [read, DeviceCalls.alone, hs]

theorem readSlice_returned {p : Platform W D} {r : Reading} {h : Handle D} {w : W} {ended : ReadEnd}
    {x : Handle D × W} (hx : h.readSlice p r w = (.error ended, x)) :
    ∃ result, ended = .returned result := by
  simp only [readSlice] at hx
  split at hx
  · cases hx
    exact ⟨_, rfl⟩
  · simp only [Reading.after, Prod.mk.injEq] at hx
    split at hx
    · cases hx.1
      exact ⟨_, rfl⟩
    · cases hx.1

theorem readSlices_ne_crashed (p : Platform W D) (slices : Nat) (r : Reading) (h : Handle D) (w : W)
    (crash : Crash) : (h.readSlices p slices r w).1 ≠ .crashed crash := by
  induction slices generalizing r h w with
  | zero => exact nofun
  | succ slices ih =>
    simp only [readSlices]
    rcases hx : h.readSlice p r w with ⟨ended | r', h', w'⟩
    · obtain ⟨result, rfl⟩ := readSlice_returned hx
      exact nofun
    · exact ih r' h' w'

theorem read_eq (p : Platform W D) (slices length : Nat) (timeout : Option Duration) (h : Handle D) (w : W) :
    h.read p slices length timeout w =
      match (p.meanwhile h w).1.startRead length timeout (p.now (p.meanwhile h w).2).1 with
      | .error ended => (ended, (p.meanwhile h w).1, (p.now (p.meanwhile h w).2).2)
      | .ok r => (p.meanwhile h w).1.readSlices p slices r (p.now (p.meanwhile h w).2).2 := rfl

/-- A read crashes where it starts, if it does. -/
theorem read_eq_crashed_iff (p : Platform W D) {slices length : Nat} {timeout : Option Duration} {h : Handle D}
    {w : W} {crash : Crash} : (h.read p slices length timeout w).1 = .crashed crash ↔
      length ≠ 0 ∧ (p.meanwhile h w).1.closed = false ∧
        readCrash? length timeout (p.now (p.meanwhile h w).2).1 = some crash := by
  rw [← startRead_eq_crashed_iff, read_eq]
  cases (p.meanwhile h w).1.startRead length timeout (p.now (p.meanwhile h w).2).1 with
  | error ended => simp
  | ok r => simp [readSlices_ne_crashed]

theorem read_of_not_live {more length : Nat} (hz : length ≠ 0) {h : Handle D}
    (hl : h.live? = none) {timeout : Option Duration} {w : W}
    (hcrash : (Operation.read more length timeout).crash? h.closed (now w).1 = none) :
    (h.read (c.alone now) (more + 1) length timeout w).1 = .returned (.error .handleClosed) := by
  cases hc : h.closed with
  | true => rw [read_of_refused c now (startRead_of_closed hz hc timeout _)]
  | false =>
    rw [hc, Operation.crash?, if_neg Bool.false_ne_true] at hcrash
    have hs := startRead_of_open hz hc timeout (now w).1
    rw [hcrash] at hs
    simp only [read_of_started c now hs, readSlices, readSlice_of_not_live c now hl]

theorem perform_of_crash {o : Operation} (hw : o.WellFormed) {h : Handle D} {w : W} {crash : Crash}
    (hcrash : o.crash? h.closed (now w).1 = some crash) :
    ∃ w', perform (c.alone now) o h w = (.crashed crash, h, w') ∧ (w' = w ∨ w' = (now w).2) := by
  cases o with
  | read more length timeout =>
    cases hc : h.closed with
    | true => simp [Operation.crash?, hc] at hcrash
    | false =>
      rw [hc, Operation.crash?, if_neg Bool.false_ne_true] at hcrash
      have hs := startRead_of_open hw hc timeout (now w).1
      rw [hcrash] at hs
      rw [perform, read_of_refused c now hs]
      exact ⟨_, rfl, .inr rfl⟩
  | getFeature reportId length =>
    rw [perform, getFeature_of_crash _ hw hcrash]
    exact ⟨_, rfl, .inl rfl⟩
  | _ => cases hcrash

theorem perform_eq_crashed_iff {o : Operation} {h : Handle D} {w : W} {crash : Crash} :
    (perform (c.alone now) o h w).1 = .crashed crash ↔
      o.WellFormed ∧ o.crash? h.closed (now w).1 = some crash := by
  cases o with
  | read more length timeout =>
    rw [perform, Prod.map_fst, Answer.ofRead_eq_crashed_iff, read_eq_crashed_iff]
    simp [Operation.WellFormed, Operation.crash?, DeviceCalls.alone]
  | getFeature reportId length =>
    rw [perform, Prod.map_fst, Answer.ofCall_report_eq_crashed_iff, getFeature_eq_crashed_iff]
    rfl
  | drop => exact iff_of_false nofun fun h => nomatch h.2
  | _ => exact iff_of_false (Answer.ofExcept_ne_crashed (by simp) _) fun h => nomatch h.2

theorem perform_of_not_live {o : Operation} (ho : o.transfers = true) (hw : o.WellFormed)
    {h : Handle D} (hl : h.live? = none) {w : W} (hcrash : o.crash? h.closed (now w).1 = none) :
    (perform (c.alone now) o h w).1 = .failed .handleClosed := by
  cases o with
  | read more length timeout =>
    exact congrArg Answer.ofRead (read_of_not_live c now hw hl hcrash)
  | write report =>
    have he : report.isEmpty = false := List.isEmpty_eq_false_iff.mpr hw
    simp [perform, write, refuseEmpty, he, refusing, withDevice_of_not_live c now hl,
      Answer.ofExcept]
  | sendFeature report =>
    have he : report.isEmpty = false := List.isEmpty_eq_false_iff.mpr hw
    simp [perform, sendFeature, refuseEmpty, he, refusing, withDevice_of_not_live c now hl,
      Answer.ofExcept]
  | getFeature reportId length =>
    have hfits : length ≤ maxBuffer := bufferCrash?_eq_none_iff.mp hcrash
    rw [perform, getFeature_of_fits _ hw hfits, withDevice_of_not_live c now hl]
    rfl
  | text query =>
    simp [perform, text, withDevice_of_not_live c now hl, Answer.ofExcept]
  | setBlocking blocking => cases ho
  | close => cases ho
  | drop => cases ho

theorem perform_setBlocking (blocking : Bool) (h : Handle D) (w : W) :
    perform (c.alone now) (.setBlocking blocking) h w =
      if h.closed then (.failed .handleClosed, h, w) else (.done, { h with blocking }, w) := by
  cases hc : h.closed <;>
    simp [perform, setBlocking, DeviceCalls.alone, ensureOpen, hc, Answer.ofExcept]

theorem perform_close (h : Handle D) (w : W) :
    perform (c.alone now) .close h w =
      if h.closed then (.failed .handleClosed, h, w)
      else (.done, { h with closed := true, device := none }, h.releaseDevice (c.alone now) w) := by
  cases hc : h.closed <;>
    simp [perform, close, DeviceCalls.alone, ensureOpen, hc, Answer.ofExcept]

theorem perform_of_closed {o : Operation} (hd : o ≠ .drop) (hw : o.WellFormed) {h : Handle D}
    (hc : h.closed = true) {w : W} (hcrash : o.crash? true (now w).1 = none) :
    (perform (c.alone now) o h w).1 = .failed .handleClosed := by
  cases o with
  | setBlocking blocking => simp [perform_setBlocking, hc]
  | close => simp [perform_close, hc]
  | drop => exact absurd rfl hd
  | _ => exact perform_of_not_live c now rfl hw (live?_of_closed hc) (hc ▸ hcrash)

end Alone

section Frame
variable {c : DeviceCalls W D Received} {now : W → Instant × W} {β : Type} {view : W → β}

structure OnlyReadsChange (c : DeviceCalls W D Received) (now : W → Instant × W)
    (view : W → β) : Prop where
  now : ∀ w, view (now w).2 = view w
  release : ∀ d w, view (c.release d w) = view w
  write : ∀ d report w, view (c.write d report w).2 = view w
  outputLimit : ∀ d w, view (c.outputLimit d w).2 = view w
  sendFeature : ∀ d report w, view (c.sendFeature d report w).2 = view w
  getFeature : ∀ d buffer w, view (c.getFeature d buffer w).2 = view w
  text : ∀ d query w, view (c.text d query w).2 = view w

theorem refusing_unchanged {refusal : Option AccessError}
    {act : Handle D → W → Except AccessError α × Handle D × W} {h : Handle D} {w : W}
    (ha : view (act h w).2.2 = view w) : view (refusing refusal act h w).2.2 = view w := by
  cases refusal with
  | none => exact ha
  | some e => rfl

namespace OnlyReadsChange
variable (hv : OnlyReadsChange c now view)
include hv

theorem releaseDevice (h : Handle D) (w : W) :
    view (h.releaseDevice (c.alone now) w) = view w := by
  cases hd : h.device with
  | none => simp [Handle.releaseDevice, hd]
  | some d => simpa [Handle.releaseDevice, hd, DeviceCalls.alone] using hv.release d w

theorem withDevice (call : D → W → Outcome W α) (hcall : ∀ d w, view (call d w).2 = view w)
    (h : Handle D) (w : W) : view (withDevice (c.alone now) call h w).2.2 = view w := by
  cases hl : h.live? with
  | none => rw [withDevice_of_not_live c now hl]
  | some d =>
    have hc := hcall d w
    rw [withDevice_of_live c now hl]
    generalize call d w = r at hc
    obtain ⟨e | a, w'⟩ := r
    · cases he : e.isDisconnect with
      | false => simpa [settle, he] using hc
      | true => simpa [settle, he, retire, hv.releaseDevice] using hc
    · exact hc

theorem writeDevice (report : Bytes) (d : D) (w : W) :
    view (writeDevice (c.alone now) report d w).2 = view w := by
  have hq := hv.outputLimit d w
  simp only [Handle.writeDevice, DeviceCalls.alone]
  generalize c.outputLimit d w = x at hq
  obtain ⟨_ | limit, w'⟩ := x
  · exact (hv.write d report w').trans hq
  · by_cases hs : limit < report.length
    · simpa only [hs, if_true] using hq
    · simpa only [hs, if_false] using (hv.write d report w').trans hq

theorem perform {o : Operation} (ho : ∀ more length timeout, o ≠ .read more length timeout)
    (h : Handle D) (w : W) : view (perform (c.alone now) o h w).2.2 = view w := by
  cases o with
  | read more length timeout => exact absurd rfl (ho more length timeout)
  | write report => exact refusing_unchanged (hv.withDevice _ (hv.writeDevice report) h w)
  | sendFeature report =>
    exact refusing_unchanged (hv.withDevice _ (fun d w => hv.sendFeature d report w) h w)
  | getFeature reportId length =>
    rw [Handle.perform]
    obtain ⟨r, hx, -⟩ | hx := getFeature_cases (c.alone now) reportId length h w
    · rw [hx]
      rfl
    · rw [hx]
      exact hv.withDevice _ (fun d w => hv.getFeature d _ w) h w
  | text query => exact hv.withDevice _ (fun d w => hv.text d query w) h w
  | setBlocking blocking =>
    rw [perform_setBlocking]
    split <;> rfl
  | close =>
    rw [perform_close]
    split
    · rfl
    · exact hv.releaseDevice h w
  | drop => exact hv.releaseDevice h w

end OnlyReadsChange

end Frame

end HidAccess.Handle
