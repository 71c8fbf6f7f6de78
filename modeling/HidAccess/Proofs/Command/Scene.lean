import HidAccess.Command

/-! Runs of the commands as they are watched. A scene says how the devices behave and when an interrupt comes,
and it does so in any way: its world may count and remember what it likes. The handler raises the flag when the
interrupt comes. It closes the handle when it gets to it, at a point where others may act. What a command does
is noted, so a run can be judged by its notes. -/

namespace HidAccess
variable {W D α : Type}

inductive Note where
  | began
  | asked (patience : Duration) (result : Except AccessError Received)
  | wrote (report : Bytes)
  | printed (text : String)

namespace Note

def isBegin : Note → Bool
  | began => true
  | _ => false

def isExchange : Note → Bool
  | asked _ _ | wrote _ => true
  | _ => false

def text? : Note → Option String
  | printed text => some text
  | _ => none

def report? : Note → Option Bytes
  | asked _ (.ok received) => if 0 < received.count then some received.report else none
  | _ => none

theorem isBegin_of_isExchange {n : Note} (h : n.isExchange = true) : n.isBegin = false := by
  cases n <;> first | rfl | cases h

theorem text?_of_isExchange {n : Note} (h : n.isExchange = true) : n.text? = none := by
  cases n <;> first | rfl | cases h

end Note

structure Watched (W : Type) where
  world : W
  installed : Bool := false
  stop : Bool := false
  notes : List Note := []
  shuts : Nat := 0
  releases : Nat := 0

namespace Watched

def note (notes : List Note) (s : Watched W) : Watched W := { s with notes := s.notes ++ notes }

def begins (s : Watched W) : Nat := s.notes.countP Note.isBegin
def exchanges (s : Watched W) : List Note := s.notes.filter Note.isExchange
def texts (s : Watched W) : List String := s.notes.filterMap Note.text?
def reports (s : Watched W) : List Bytes := s.notes.filterMap Note.report?

end Watched

structure Scene (W D : Type) where
  backend : Backend W D Received
  now : W → Instant × W
  sleep : Duration → W → W
  /-- What goes on beside the command, at each point where others may act. -/
  between : W → W
  interrupted : W → Bool
  /-- The handler gets to its close. -/
  closes : W → Bool

namespace Scene
variable (o : Scene W D)

/-- Changes the world. An interrupt raises the flag as soon as there is a handler. -/
def become (world : W) (s : Watched W) : Watched W :=
  { s with world, stop := s.stop || (s.installed && o.interrupted world) }

def seen (notes : α → List Note) (call : W → α × W) (s : Watched W) : α × Watched W :=
  let (a, world) := call s.world
  (a, (o.become world s).note (notes a))

def silently (call : W → α × W) : Watched W → α × Watched W := o.seen (fun _ => []) call

def calls : DeviceCalls (Watched W) D Received where
  read d buffer patience := o.seen (fun r => [.asked patience r]) (o.backend.read d buffer patience)
  write d report := o.seen (fun _ => [.wrote report]) (o.backend.write d report)
  sendFeature d report := o.silently (o.backend.sendFeature d report)
  getFeature d buffer := o.silently (o.backend.getFeature d buffer)
  text d query := o.silently (o.backend.text d query)
  outputLimit d := o.silently (o.backend.outputLimit d)
  release d s := { o.become (o.backend.release d s.world) s with releases := s.releases + 1 }

/-- A point where others may act. The handler has its own calls, and nobody acts during them. -/
def others (h : Handle D) (s : Watched W) : Handle D × Watched W :=
  let s := o.become (o.between s.world) s
  if s.stop && o.closes s.world then
    match h.close (o.calls.alone (o.silently o.now)) s with
    | (.ok (), h, s) => (h, { s with shuts := s.shuts + 1 })
    | (.error _, h, s) => (h, s)
  else (h, s)

def platform : Platform (Watched W) D where
  toDeviceCalls := o.calls
  now := o.silently o.now
  meanwhile h s := o.others h (s.note [.began])
  acquire := o.others

def console : Console (Watched W) D where
  toPlatform := o.platform
  print text s := s.note [.printed text]
  stopped := Watched.stop
  installHandler s := o.become s.world { s with installed := true }
  sleep d s := o.become (o.sleep d s.world) s

def manager (interval : Duration) : Manager (Watched W) D where
  backend := { o.calls with
    kind := o.backend.kind
    enumerate := o.silently o.backend.enumerate
    openPath := fun path => o.silently (o.backend.openPath path) }
  interval

end Scene

structure Watched.GrowsBy (s : Watched W) (notes : List Note) (t : Watched W) : Prop where
  notes : t.notes = s.notes ++ notes
  stop : s.stop = true → t.stop = true
  shuts : t.shuts = s.shuts
  releases : t.releases = s.releases

/-- What holds of a handle from the installation of the handler on: nobody else has closed it, and its device is
released when the handle loses it. -/
structure Held (blocking : Bool) (x : Handle D × Watched W) : Prop where
  blocking : x.1.blocking = blocking
  stop : x.1.closed = true → x.2.stop = true
  device : x.1.closed = true → x.1.device = none
  shuts : x.2.shuts = if x.1.closed then 1 else 0
  releases : x.2.releases = if x.1.device.isNone then 1 else 0

structure Runs (x : Handle D × Watched W) (notes : List Note) (y : Handle D × Watched W) : Prop where
  notes : y.2.notes = x.2.notes ++ notes
  stop : x.2.stop = true → y.2.stop = true
  held : ∀ {blocking}, Held blocking x → Held blocking y

namespace Watched

theorem growsBy_note (s : Watched W) (notes : List Note) : s.GrowsBy notes (s.note notes) := ⟨rfl, id, rfl, rfl⟩

theorem GrowsBy.trans {s t u : Watched W} {notes notes' : List Note} (h : s.GrowsBy notes t)
    (h' : t.GrowsBy notes' u) : s.GrowsBy (notes ++ notes') u where
  notes := by rw [h'.notes, h.notes, List.append_assoc]
  stop := h'.stop ∘ h.stop
  shuts := h'.shuts.trans h.shuts
  releases := h'.releases.trans h.releases

end Watched

namespace Runs
variable {x y z : Handle D × Watched W} {h : Handle D} {s t : Watched W} {notes notes' : List Note}

theorem refl (x : Handle D × Watched W) : Runs x [] x := ⟨(List.append_nil _).symm, id, id⟩

theorem trans (h : Runs x notes y) (h' : Runs y notes' z) : Runs x (notes ++ notes') z where
  notes := by rw [h'.notes, h.notes, List.append_assoc]
  stop := h'.stop ∘ h.stop
  held hx := h'.held (h.held hx)

theorem of_growsBy (hgrows : s.GrowsBy notes t) : Runs (h, s) notes (h, t) where
  notes := hgrows.notes
  stop := hgrows.stop
  held hx :=
    { blocking := hx.blocking
      stop := fun hc => hgrows.stop (hx.stop hc)
      device := hx.device
      shuts := hgrows.shuts.trans hx.shuts
      releases := hgrows.releases.trans hx.releases }

theorem begins (h : Runs x notes y) : y.2.begins = x.2.begins + notes.countP Note.isBegin := by
  rw [Watched.begins, h.notes, List.countP_append, Watched.begins]

theorem texts (h : Runs x notes y) : y.2.texts = x.2.texts ++ notes.filterMap Note.text? := by
  rw [Watched.texts, h.notes, List.filterMap_append, Watched.texts]

theorem reports (h : Runs x notes y) : y.2.reports = x.2.reports ++ notes.filterMap Note.report? := by
  rw [Watched.reports, h.notes, List.filterMap_append, Watched.reports]

end Runs

namespace Scene
variable (o : Scene W D) {h : Handle D} {s : Watched W}

theorem growsBy_become (world : W) (s : Watched W) : s.GrowsBy [] (o.become world s) where
  notes := (List.append_nil _).symm
  stop hs := by simp [become, hs]
  shuts := rfl
  releases := rfl

theorem growsBy_seen (notes : α → List Note) (call : W → α × W) (s : Watched W) :
    s.GrowsBy (notes (o.seen notes call s).1) (o.seen notes call s).2 :=
  (o.growsBy_become _ s).trans (Watched.growsBy_note _ _)

theorem growsBy_silently (call : W → α × W) (s : Watched W) : s.GrowsBy [] (o.silently call s).2 :=
  o.growsBy_seen (fun _ => []) call s

theorem runs_retire {p : Platform (Watched W) D} (hp : p.release = o.calls.release) (h : Handle D)
    (s : Watched W) : Runs (h, s) [] (h.retire p s) := by
  cases hd : h.device with
  | none =>
    have heq : h.retire p s = (h, s) := by
      obtain ⟨path, device, interval, closed, blocking⟩ := h
      obtain rfl : device = none := hd
      rfl
    rw [heq]
    exact .refl _
  | some d =>
    have heq : h.retire p s = ({ h with device := none }, o.calls.release d s) := by
      simp [Handle.retire, Handle.releaseDevice, hd, hp]
    have hgrows := o.growsBy_become (o.backend.release d s.world) s
    rw [heq]
    exact
      { notes := hgrows.notes
        stop := hgrows.stop
        held := fun hx =>
          { blocking := hx.blocking
            stop := fun hc => hgrows.stop (hx.stop hc)
            device := fun _ => rfl
            shuts := hx.shuts
            releases := by
              have hzero : s.releases = 0 := by simpa [hd] using hx.releases
              exact congrArg (· + 1) hzero } }

theorem close_of_open {p : Platform (Watched W) D} (hopen : (p.acquire h s).1.closed = false) :
    h.close p s = (.ok (), { ((p.acquire h s).1.retire p (p.acquire h s).2).1 with closed := true },
      ((p.acquire h s).1.retire p (p.acquire h s).2).2) := by
  simp only [Handle.close, Handle.ensureOpen, hopen, Bool.false_eq_true, if_false]
  rfl

theorem close_of_closed {p : Platform (Watched W) D} (hclosed : (p.acquire h s).1.closed = true) :
    h.close p s = (.error .handleClosed, p.acquire h s) := by
  simp only [Handle.close, Handle.ensureOpen, hclosed, if_true]

theorem runs_shut {p : Platform (Watched W) D} (hp : p.release = o.calls.release) (hstop : s.stop = true)
    (hopen : h.closed = false) :
    Runs (h, s) [] ({ (h.retire p s).1 with closed := true },
      { (h.retire p s).2 with shuts := (h.retire p s).2.shuts + 1 }) := by
  have hretire := o.runs_retire hp h s
  refine ⟨hretire.notes, hretire.stop, fun hx => ?_⟩
  have hy := hretire.held hx
  have hzero : (h.retire p s).2.shuts = 0 := hy.shuts.trans (if_neg (by simp [Handle.retire, hopen]))
  exact
    { blocking := hy.blocking
      stop := fun _ => hretire.stop hstop
      device := fun _ => rfl
      shuts := congrArg (· + 1) hzero
      releases := hy.releases }

theorem runs_others (h : Handle D) (s : Watched W) : Runs (h, s) [] (o.others h s) := by
  have hbetween : Runs (h, s) [] (h, o.become (o.between s.world) s) := .of_growsBy (o.growsBy_become _ s)
  simp only [others]
  split
  next hcond =>
    obtain ⟨hstop, -⟩ := Bool.and_eq_true_iff.mp hcond
    cases hopen : h.closed with
    | false =>
      rw [close_of_open hopen]
      exact hbetween.trans (o.runs_shut (p := o.calls.alone (o.silently o.now)) rfl hstop hopen)
    | true =>
      rw [close_of_closed hopen]
      exact hbetween
  next => exact hbetween

theorem runs_meanwhile (h : Handle D) (s : Watched W) : Runs (h, s) [.began] (o.platform.meanwhile h s) :=
  (Runs.of_growsBy (s.growsBy_note [.began])).trans (o.runs_others h _)

end Scene

end HidAccess
