import HidAccess.Manager
import HidAccess.Proofs.VirtualBus.Queue
import HidAccess.VirtualBus.Control

/-! Any number of handles on one virtual bus, used in any order. A read is carried out at once, or
it begins and then goes on by single device reads, between which anything else may be done. A wait
that a feed or an unplugging cuts short is a device read that ends early; the next one finds what
has changed. A read that is given up makes no more device reads. The clock may show anything
between two actions. -/

namespace HidAccess.VirtualBus

structure Ongoing where
  handle : Nat
  length : Nat
  reading : Reading

structure Traffic where
  world : Clocked VirtualBus := { state := {} }
  handles : List (Handle Nat) := []
  reads : List Ongoing := []

inductive Action where
  | control (request : BusRequest)
  | openPath (path : String) (interval : Duration)
  | openIds (vendorId productId : UInt16) (serial : Option String) (interval : Duration)
  | operate (handle : Nat) (o : Handle.Operation)
  | begin (handle length : Nat) (timeout : Option Duration)
  | slice (read : Nat)
  /-- The clock shows another time, and waits may end before their time is over. -/
  | tick (now : Instant) (due : Option Instant)

inductive Event where
  | control (request : BusRequest) (reply : BusReply)
  | opened (result : Except AccessError Nat)
  | answered (device : Option Nat) (o : Handle.Operation) (answer : Handle.Answer)
  | read (device : Option Nat) (length : Nat) (progress : Except ReadEnd Reading)
  | nothing

namespace Traffic

def keep (s : Traffic) : Outcome (Clocked VirtualBus) (Handle Nat) → Event × Traffic
  | (.ok h, world) =>
    (.opened (.ok s.handles.length), { s with world, handles := s.handles ++ [h] })
  | (.error e, world) => (.opened (.error e), { s with world })

def manager (interval : Duration) : Manager (Clocked VirtualBus) Nat where
  backend := backend.clocked
  interval

def handled (path : String) (interval : Duration) (w : Clocked VirtualBus)
    (x : Outcome VirtualBus Nat) : Outcome (Clocked VirtualBus) (Handle Nat) :=
  (x.1.map fun i => Handle.opened path i interval, { w with state := x.2 })

theorem openPath_eq (interval : Duration) (path : String) (w : Clocked VirtualBus) :
    (manager interval).openPath path w =
      handled path interval w (VirtualBus.openPath path w.state) := rfl

theorem openIds_cases (interval : Duration) (vendorId productId : UInt16) (serial : Option String)
    (w : Clocked VirtualBus) :
    (∃ e, (manager interval).openIds vendorId productId serial w = (.error e, w)) ∨
      ∃ path, (manager interval).openIds vendorId productId serial w =
        (manager interval).openPath path w := by
  have he : ((manager interval).enumerate vendorId productId w).2 = w := rfl
  simp only [Manager.openIds]
  generalize (manager interval).enumerate vendorId productId w = x at he
  obtain ⟨e | devices, w'⟩ := x
  · cases he
    exact .inl ⟨e, rfl⟩
  · cases he
    cases hf : List.find? (Manager.isWanted vendorId productId serial) devices with
    | none => exact .inl ⟨Manager.unmatched vendorId productId serial, by simp only [hf]⟩
    | some entry => exact .inr ⟨entry.path, by simp only [hf]⟩

def withHandle (s : Traffic) (handle : Nat) (act : Handle Nat → Event × Traffic) :
    Event × Traffic :=
  match s.handles[handle]? with
  | some h => act h
  | none => (.nothing, s)

def operate (s : Traffic) (handle : Nat) (o : Handle.Operation) (h : Handle Nat) :
    Event × Traffic :=
  let (answer, h', world) := Handle.perform platform o h s.world
  (.answered h.device o answer, { s with world, handles := s.handles.set handle h' })

def begin (s : Traffic) (handle length : Nat) (timeout : Option Duration) (h : Handle Nat) :
    Event × Traffic :=
  match h.startRead length timeout s.world.now with
  | .error ended => (.read h.device length (.error ended), s)
  | .ok reading =>
    (.read h.device length (.ok reading),
      { s with reads := s.reads ++ [⟨handle, length, reading⟩] })

def slice (s : Traffic) (index : Nat) (r : Ongoing) (h : Handle Nat) : Event × Traffic :=
  let (progress, h', world) := Handle.readSlice platform r.reading h s.world
  let reads := match progress with
    | .error _ => s.reads.eraseIdx index
    | .ok reading => s.reads.set index { r with reading }
  (.read h.device r.length progress, { world, handles := s.handles.set r.handle h', reads })

def step (s : Traffic) : Action → Event × Traffic
  | .control request =>
    let (reply, state) := control request s.world.state
    (.control request reply, { s with world := { s.world with state } })
  | .openPath path interval => s.keep ((manager interval).openPath path s.world)
  | .openIds vendorId productId serial interval =>
    s.keep ((manager interval).openIds vendorId productId serial s.world)
  | .operate handle o => s.withHandle handle (s.operate handle o)
  | .begin handle length timeout => s.withHandle handle (s.begin handle length timeout)
  | .slice index =>
    match s.reads[index]? with
    | some r => s.withHandle r.handle (s.slice index r)
    | none => (.nothing, s)
  | .tick now due => (.nothing, { s with world := { s.world with now, due } })

def run (s : Traffic) : List Action → List Event × Traffic
  | [] => ([], s)
  | a :: as =>
    let (e, s) := s.step a
    let (es, s) := s.run as
    (e :: es, s)

inductive Stepped (s : Traffic) : Action → Event → Traffic → Prop
  | control (request : BusRequest) :
    Stepped s (.control request) (.control request (control request s.world.state).1)
      { s with world := { s.world with state := (control request s.world.state).2 } }
  | openPath {path : String} {interval : Duration} {r : Except AccessError Nat} {s' : Traffic} :
    s.keep ((manager interval).openPath path s.world) = (.opened r, s') →
    Stepped s (.openPath path interval) (.opened r) s'
  | openIds {vendorId productId : UInt16} {serial : Option String} {interval : Duration}
    {r : Except AccessError Nat} {s' : Traffic} :
    s.keep ((manager interval).openIds vendorId productId serial s.world) = (.opened r, s') →
    Stepped s (.openIds vendorId productId serial interval) (.opened r) s'
  | operate {n : Nat} {o : Handle.Operation} {h h' : Handle Nat} {answer : Handle.Answer}
    {world : Clocked VirtualBus} : s.handles[n]? = some h →
    Handle.perform platform o h s.world = (answer, h', world) →
    Stepped s (.operate n o) (.answered h.device o answer)
      { s with world, handles := s.handles.set n h' }
  | refuse {n length : Nat} {timeout : Option Duration} {h : Handle Nat} {ended : ReadEnd} :
    s.handles[n]? = some h → h.startRead length timeout s.world.now = .error ended →
    Stepped s (.begin n length timeout) (.read h.device length (.error ended)) s
  | begin {n length : Nat} {timeout : Option Duration} {h : Handle Nat} {reading : Reading} :
    s.handles[n]? = some h → h.startRead length timeout s.world.now = .ok reading →
    Stepped s (.begin n length timeout) (.read h.device length (.ok reading))
      { s with reads := s.reads ++ [⟨n, length, reading⟩] }
  | slice {index : Nat} {r : Ongoing} {h h' : Handle Nat} {progress : Except ReadEnd Reading}
    {world : Clocked VirtualBus} : s.reads[index]? = some r → s.handles[r.handle]? = some h →
    Handle.readSlice platform r.reading h s.world = (progress, h', world) →
    Stepped s (.slice index) (.read h.device r.length progress)
      { world, handles := s.handles.set r.handle h',
        reads := match progress with
          | .error _ => s.reads.eraseIdx index
          | .ok reading => s.reads.set index { r with reading } }
  | tick (now : Instant) (due : Option Instant) :
    Stepped s (.tick now due) .nothing { s with world := { s.world with now, due } }
  | nothing (a : Action) : Stepped s a .nothing s

theorem keep_opened (s : Traffic) (x : Outcome (Clocked VirtualBus) (Handle Nat)) :
    ∃ r s', s.keep x = (.opened r, s') := by
  obtain ⟨e | h, w⟩ := x
  · exact ⟨_, _, rfl⟩
  · exact ⟨_, _, rfl⟩

theorem step_stepped (s : Traffic) (a : Action) : Stepped s a (s.step a).1 (s.step a).2 := by
  cases a with
  | control request => exact .control request
  | openPath path interval =>
    obtain ⟨r, s', hx⟩ := s.keep_opened ((manager interval).openPath path s.world)
    simp only [step, hx]
    exact .openPath hx
  | openIds vendorId productId serial interval =>
    obtain ⟨r, s', hx⟩ := s.keep_opened ((manager interval).openIds vendorId productId serial s.world)
    simp only [step, hx]
    exact .openIds hx
  | operate n o =>
    simp only [step, withHandle]
    cases hn : s.handles[n]? with
    | none => exact .nothing _
    | some h => exact .operate hn rfl
  | begin n length timeout =>
    simp only [step, withHandle]
    cases hn : s.handles[n]? with
    | none => exact .nothing _
    | some h =>
      simp only [begin]
      cases hs : h.startRead length timeout s.world.now with
      | error ended => exact .refuse hn hs
      | ok reading => exact .begin hn hs
  | slice index =>
    simp only [step]
    cases hr : s.reads[index]? with
    | none => exact .nothing _
    | some r =>
      simp only [withHandle]
      cases hn : s.handles[r.handle]? with
      | none => exact .nothing _
      | some h => exact .slice hr hn rfl
  | tick now due => exact .tick now due

theorem run_append (s : Traffic) (as bs : List Action) :
    s.run (as ++ bs) = ((s.run as).1 ++ ((s.run as).2.run bs).1, ((s.run as).2.run bs).2) := by
  induction as generalizing s with
  | nil => rfl
  | cons a as ih => simp [run, ih]

theorem run_invariant {P : List Event → Traffic → Prop}
    (hstep : ∀ events s a, P events s → P (events ++ [(s.step a).1]) (s.step a).2)
    {events : List Event} {s : Traffic} (hp : P events s) (as : List Action) :
    P (events ++ (s.run as).1) (s.run as).2 := by
  induction as generalizing s events with
  | nil => simpa [run] using hp
  | cons a as ih =>
    have h := ih (hstep events s a hp)
    rwa [List.append_assoc] at h

end Traffic

theorem filterMap_concat {α β : Type} (f : α → Option β) (xs : List α) (x : α) :
    (xs ++ [x]).filterMap f = xs.filterMap f ++ (f x).toList := by
  cases h : f x <;> simp [h]

end HidAccess.VirtualBus
