import HidAccess.Proofs.VirtualBus.Neighbours

/-! A virtual bus that many share, each handle known by the path that it was opened at and its place
among those of this path. What is done for other devices makes no difference to a device; only their
attaching counts, for the numbers of those that follow. -/

namespace HidAccess.VirtualBus

structure Users where
  handles : List (Handle Nat) := []
  reads : List Ongoing := []

structure Shared where
  bus : VirtualBus := {}
  users : String → Users := fun _ => {}

inductive Use where
  | openPath (interval : Duration)
  | operate (handle : Nat) (o : Handle.Operation)
  | begin (handle length : Nat) (timeout : Option Duration)
  | slice (read : Nat)

def Use.action (path : String) : Use → Action
  | .openPath interval => .openPath path interval
  | .operate handle o => .operate handle o
  | .begin handle length timeout => .begin handle length timeout
  | .slice read => .slice read

inductive Call where
  | control (request : BusRequest)
  | use (path : String) (u : Use)
  | list (vendorId productId : UInt16)

structure Timed where
  now : Instant
  due : Option Instant
  call : Call

inductive Result where
  | event (e : Event)
  | listed (devices : Except AccessError DeviceList)

namespace Shared

def traffic (s : Shared) (path : String) (now : Instant) (due : Option Instant) : Traffic where
  world := { now, due, state := s.bus }
  handles := (s.users path).handles
  reads := (s.users path).reads

def put (s : Shared) (path : String) (t : Traffic) : Shared where
  bus := t.world.state
  users p := if p = path then ⟨t.handles, t.reads⟩ else s.users p

def step (s : Shared) (c : Timed) : Result × Shared :=
  match c.call with
  | .control request =>
    let (reply, bus) := VirtualBus.control request s.bus
    (.event (.control request reply), { s with bus })
  | .use path u =>
    let (e, t) := (s.traffic path c.now c.due).step (u.action path)
    (.event e, s.put path t)
  | .list vendorId productId =>
    (.listed (s.bus.enumerate.map fun devices => devices.matching vendorId productId), s)

def history (s : Shared) : List Timed → List (Timed × Result)
  | [] => []
  | c :: cs =>
    let (r, s) := s.step c
    (c, r) :: s.history cs

end Shared

namespace Call

def path? : Call → Option String
  | .control request => request.device?.map pathOf
  | .use path _ => some path
  | .list _ _ => none

def concerns (device : Nat) (c : Call) : Bool := c.path? == some (pathOf device)

def isCommon : Call → Bool
  | .control (.attach _) | .list _ _ => true
  | _ => false

/-- All but the calls for other devices, and those that make the bus unavailable or available. -/
def remains (device : Nat) (c : Call) : Bool := c.concerns device || c.isCommon

end Call

def paths (bus : VirtualBus) : List String := bus.devices.map (·.path)

variable {path : String} {b bus bus' : VirtualBus} {i k : Nat} {t t' : Traffic}

theorem ignores_path (part : VirtualDevice.Part) : Ignores VirtualDevice.path part := by
  cases part <;> exact fun _ _ => rfl

theorem Pathed.of_paths (hp : bus.Pathed) (hs : paths bus' = paths bus) : bus'.Pathed := by
  intro k seat hk
  obtain ⟨d', hd', rfl⟩ := Option.map_eq_some_iff.mp hk
  have hsame : some d'.path = bus.devices[k]?.map (·.path) := by
    rw [← List.getElem?_map, ← paths, ← hs, paths, List.getElem?_map, hd', Option.map_some]
  obtain ⟨d, hd, hpath⟩ := Option.map_eq_some_iff.mp hsame.symm
  exact hpath.symm.trans (hp.path hd)

theorem Pathed.attach (hp : bus.Pathed) (spec : VirtualSpec) : (bus.attach spec).Pathed := by
  intro k seat hk
  rw [seats_attach] at hk
  by_cases hlast : k = bus.devices.length
  · simp only [hlast, if_true, Option.some.injEq] at hk ⊢
    rw [← hk]
  · simp only [hlast, if_false] at hk
    exact hp k seat hk

theorem paths_control {request : BusRequest} (ha : ∀ spec, request ≠ .attach spec) :
    paths (control request bus).2 = paths bus := by
  by_cases hu : ∃ unavailable, request = .setUnavailable unavailable
  · obtain ⟨unavailable, rfl⟩ := hu
    rfl
  · exact congrArg Prod.fst
      (surface_control ha (fun b he => hu ⟨b, he⟩) fun part _ => ignores_path part)

theorem Use.action_ne_control (u : Use) (path : String) (request : BusRequest) :
    u.action path ≠ .control request := by
  intro he
  cases u <;> cases he

theorem paths_use (t : Traffic) (u : Use) :
    paths (t.step (u.action path)).2.world.state = paths t.world.state := by
  have hs := surface_step (s := t) (fun _ => u.action_ne_control path _)
    (fun _ => u.action_ne_control path _) fun part _ => ignores_path part
  exact congrArg Prod.fst hs

structure Paired (path : String) (b : VirtualBus) (t t' : Traffic) : Prop where
  world : SameClock (AgreeAt path b) t.world t'.world
  handles : t.handles = t'.handles
  reads : t.reads = t'.reads
  serves : ∀ h ∈ t.handles, h.Serves (IsAtPath path)

namespace Paired
variable (hp : Paired path b t t')
include hp

theorem keep {interval : Duration} {x x' : Outcome VirtualBus Nat}
    (hx : Handle.Agreed (AgreeAt path b) x x') (hk : ∀ k, x.1 = .ok k → IsAtPath path k) :
    Handle.Agreed (Paired path b) (t.keep (Traffic.handled path interval t.world x))
      (t'.keep (Traffic.handled path interval t'.world x')) := by
  have hw := hp.world.settled hx
  obtain ⟨r, bus⟩ := x
  obtain ⟨r', bus'⟩ := x'
  obtain ⟨rfl, -⟩ := hx
  rcases r with e | k
  · exact ⟨rfl, hw.world, hp.handles, hp.reads, hp.serves⟩
  · refine ⟨?_, hw.world, ?_, hp.reads, ?_⟩
    · simp only [Traffic.handled, Except.map, Traffic.keep, hp.handles]
    · simp only [Traffic.handled, Except.map, Traffic.keep, hp.handles]
    · intro h hmem d hd
      obtain hmem | rfl := List.mem_append.mp hmem |>.imp_right List.mem_singleton.mp
      · exact hp.serves h hmem d hd
      · cases hd
        exact hk k rfl

theorem set {w w' : Clocked VirtualBus} (hw : SameClock (AgreeAt path b) w w') (n : Nat)
    {h : Handle Nat} (hs : h.Serves (IsAtPath path)) {reads reads' : List Ongoing} (hr : reads = reads') :
    Paired path b ⟨w, t.handles.set n h, reads⟩ ⟨w', t'.handles.set n h, reads'⟩ := by
  refine ⟨hw, by rw [hp.handles], hr, fun h' hmem => ?_⟩
  obtain hmem | rfl := List.mem_or_eq_of_mem_set hmem
  · exact hp.serves h' hmem
  · exact hs

theorem withHandle (n : Nat) {act act' : Handle Nat → Event × Traffic}
    (hact : ∀ h, h.Serves (IsAtPath path) → Handle.Agreed (Paired path b) (act h) (act' h)) :
    Handle.Agreed (Paired path b) (t.withHandle n act) (t'.withHandle n act') := by
  simp only [Traffic.withHandle, ← hp.handles]
  cases hn : t.handles[n]? with
  | none => exact ⟨rfl, hp⟩
  | some h => exact hact h (hp.serves h (List.mem_of_getElem? hn))

theorem operate (n : Nat) (o : Handle.Operation) {h : Handle Nat} (hs : h.Serves (IsAtPath path)) :
    Handle.Agreed (Paired path b) (t.operate n o h) (t'.operate n o h) := by
  obtain ⟨ha, hh, hserves, hw⟩ := (simulated_within path b).perform o hs hp.world
  refine ⟨congrArg (Event.answered h.device o) ha, ?_⟩
  simp only [Traffic.operate, platform, platformWith, ← hh]
  exact hp.set hw n hserves hp.reads

theorem begin (n length : Nat) (timeout : Option Duration) (h : Handle Nat) :
    Handle.Agreed (Paired path b) (t.begin n length timeout h) (t'.begin n length timeout h) := by
  simp only [Traffic.begin, ← hp.world.now]
  cases h.startRead length timeout t.world.now with
  | error ended => exact ⟨rfl, hp⟩
  | ok reading =>
    exact ⟨rfl, hp.world, hp.handles, congrArg (· ++ [⟨n, length, reading⟩]) hp.reads, hp.serves⟩

theorem slice (index : Nat) (r : Ongoing) {h : Handle Nat} (hs : h.Serves (IsAtPath path)) :
    Handle.Agreed (Paired path b) (t.slice index r h) (t'.slice index r h) := by
  obtain ⟨ha, hh, hserves, hw⟩ := (simulated_within path b).readSlice r.reading hs hp.world
  refine ⟨congrArg (Event.read h.device r.length) ha, ?_⟩
  simp only [Traffic.slice, platform, platformWith, ← hh, ← ha, ← hp.reads]
  exact hp.set hw r.handle hserves rfl

theorem step (hb : t.world.state.Pathed) (hb' : t'.world.state.Pathed) (u : Use) :
    Handle.Agreed (Paired path b) (t.step (u.action path)) (t'.step (u.action path)) := by
  cases u with
  | openPath interval =>
    exact hp.keep (hp.world.state.openPath hb hb') fun k ho => isAtPath_of_openPath hb ho
  | operate n o => exact hp.withHandle n fun h hs => hp.operate n o hs
  | begin n length timeout => exact hp.withHandle n fun h _ => hp.begin n length timeout h
  | slice index =>
    simp only [Use.action, Traffic.step, ← hp.reads]
    cases t.reads[index]? with
    | none => exact ⟨rfl, hp⟩
    | some r => exact hp.withHandle r.handle fun h hs => hp.slice index r hs

end Paired

/-- Two shared buses that agree on the device at the path and on its users. Of all else the first
is as `s₀` is. -/
structure Confined (path : String) (s₀ s s' : Shared) : Prop where
  bus : AgreeAt path s₀.bus s.bus s'.bus
  users : s.users path = s'.users path
  elsewhere : ∀ p, p ≠ path → s.users p = s₀.users p
  serves : ∀ h ∈ (s.users path).handles, h.Serves (IsAtPath path)

structure Placed (s : Shared) : Prop where
  pathed : s.bus.Pathed
  serves : ∀ path, ∀ h ∈ (s.users path).handles, h.Serves (IsAtPath path)

/-- The same device of this number with the same users, and the same paths. -/
structure Mirrors (i : Nat) (s s' : Shared) : Prop where
  device : s.bus.devices[i]? = s'.bus.devices[i]?
  paths : paths s.bus = paths s'.bus
  users : s.users (pathOf i) = s'.users (pathOf i)

variable {s₀ s s' : Shared} {c : Timed}

theorem paths_step (hc : c.call.path? = some path) : paths (s.step c).2.bus = paths s.bus := by
  obtain ⟨now, due, call⟩ := c
  cases call with
  | control request => exact paths_control fun spec he => by cases he; cases hc
  | use p u => exact paths_use (s.traffic p now due) u
  | list => cases hc

namespace Confined
variable (hs : Confined path s₀ s s')
include hs

theorem use (hp : s.bus.Pathed) (hp' : s'.bus.Pathed) (now : Instant) (due : Option Instant)
    (u : Use) : Handle.Agreed (Confined path s₀) (s.step ⟨now, due, .use path u⟩)
      (s'.step ⟨now, due, .use path u⟩) := by
  have hpaired : Paired path s₀.bus (s.traffic path now due) (s'.traffic path now due) :=
    ⟨⟨rfl, rfl, hs.bus⟩, congrArg Users.handles hs.users, congrArg Users.reads hs.users, hs.serves⟩
  obtain ⟨he, hw, hh, hr, hserves⟩ := hpaired.step hp hp' u
  refine ⟨congrArg Result.event he, hw.state, ?_, fun p hne => ?_, ?_⟩
  · simp [Shared.step, Shared.put, hh, hr]
  · simpa [Shared.step, Shared.put, hne] using hs.elsewhere p hne
  · simpa [Shared.step, Shared.put] using hserves

/-- A call for the path has one result on both, and changes nothing else. -/
theorem step (hp : s.bus.Pathed) (hp' : s'.bus.Pathed) (hc : c.call.path? = some path) :
    Handle.Agreed (Confined path s₀) (s.step c) (s'.step c) := by
  obtain ⟨now, due, call⟩ := c
  cases call with
  | control request =>
    obtain ⟨k, hk, rfl⟩ := Option.map_eq_some_iff.mp hc
    obtain ⟨hr, hb⟩ := hs.bus.control hk rfl
    exact ⟨congrArg (fun reply => Result.event (.control request reply)) hr, hb, hs.users,
      hs.elsewhere, hs.serves⟩
  | use p u =>
    cases hc
    exact hs.use hp hp' now due u
  | list => cases hc

end Confined

theorem Placed.initial : Placed {} where
  pathed k seat hk := by simp [seats] at hk
  serves path h hmem := by cases hmem

namespace Placed
variable (hs : Placed s)
include hs

theorem confined (path : String) : Confined path s s s :=
  ⟨⟨fun _ _ => rfl, fun _ _ => rfl⟩, rfl, fun _ _ => rfl, hs.serves path⟩

theorem step (c : Timed) : Placed (s.step c).2 := by
  cases hc : c.call.path? with
  | some path =>
    have hx := ((hs.confined path).step hs.pathed hs.pathed hc).world
    refine ⟨hs.pathed.of_paths (paths_step hc), fun p => ?_⟩
    by_cases hne : p = path
    · subst hne
      exact hx.serves
    · rw [hx.elsewhere p hne]
      exact hs.serves p
  | none =>
    obtain ⟨now, due, call⟩ := c
    cases call with
    | control request =>
      cases request with
      | attach spec => exact ⟨hs.pathed.attach spec, hs.serves⟩
      | setUnavailable => exact ⟨hs.pathed, hs.serves⟩
      | _ => cases hc
    | use => cases hc
    | list => exact hs

end Placed

namespace Mirrors
variable (hm : Mirrors i s s')
include hm

theorem confined (hs : Placed s) : Confined (pathOf i) s s s' where
  bus := ⟨fun _ hk => pathOf_injective hk ▸ hm.device, fun _ _ => rfl⟩
  users := hm.users
  elsewhere _ _ := rfl
  serves := hs.serves (pathOf i)

theorem concerning (hs : Placed s) (hc : c.call.concerns i = true) :
    Handle.Agreed (Mirrors i) (s.step c) (s'.step c) := by
  have hpath : c.call.path? = some (pathOf i) := beq_iff_eq.mp hc
  obtain ⟨hr, hx⟩ := (hm.confined hs).step hs.pathed (hs.pathed.of_paths hm.paths.symm) hpath
  exact ⟨hr, hx.bus.inside i rfl, by rw [paths_step hpath, paths_step hpath, hm.paths], hx.users⟩

theorem common (hc : c.call.isCommon = true) : Mirrors i (s.step c).2 (s'.step c).2 := by
  obtain ⟨now, due, call⟩ := c
  cases call with
  | control request =>
    cases request with
    | attach spec =>
      have hlength : s.bus.devices.length = s'.bus.devices.length := by
        simpa [VirtualBus.paths] using congrArg List.length hm.paths
      refine ⟨?_, ?_, hm.users⟩
      · simp only [Shared.step, VirtualBus.control, attach, List.getElem?_append, hlength, hm.device]
      · have hpaths := hm.paths
        simp only [VirtualBus.paths] at hpaths
        simp only [Shared.step, VirtualBus.control, attach, VirtualBus.paths, List.map_append,
          hlength, hpaths]
    | _ => cases hc
  | use => cases hc
  | list => exact hm

theorem skip (hs : Placed s) (hc : c.call.remains i = false) : Mirrors i (s.step c).2 s' := by
  obtain ⟨hother, hcommon⟩ := Bool.or_eq_false_iff.mp hc
  cases hpath : c.call.path? with
  | some path =>
    have hne : pathOf i ≠ path := by
      rintro rfl
      simp [Call.concerns, hpath] at hother
    have hx := ((hs.confined path).step hs.pathed hs.pathed hpath).world
    refine ⟨(hx.bus.outside i fun he => hne he.symm).trans hm.device, ?_, ?_⟩
    · rw [paths_step hpath, hm.paths]
    · rw [hx.elsewhere _ hne, hm.users]
  | none =>
    obtain ⟨now, due, call⟩ := c
    cases call with
    | control request =>
      cases request with
      | setUnavailable => exact ⟨hm.device, hm.paths, hm.users⟩
      | attach => cases hcommon
      | _ => cases hpath
    | use => cases hpath
    | list => cases hcommon

theorem history (hs : Placed s) (calls : List Timed) :
    (s.history calls).filter (fun x => x.1.call.concerns i) =
      (s'.history (calls.filter fun c => c.call.remains i)).filter
        fun x => x.1.call.concerns i := by
  induction calls generalizing s s' with
  | nil => rfl
  | cons c calls ih =>
    have hplaced := hs.step c
    -- A call that remains is made in both runs, any other in the first alone.
    cases hr : c.call.remains i with
    | false =>
      have hother := (Bool.or_eq_false_iff.mp hr).1
      simpa [Shared.history, hr, hother] using ih (hm.skip hs hr) hplaced
    | true =>
      cases hc : c.call.concerns i with
      | true =>
        obtain ⟨hresult, hnext⟩ := hm.concerning hs hc
        simpa [Shared.history, hr, hc, hresult] using ih hnext hplaced
      | false =>
        have hcommon : c.call.isCommon = true := by simpa [Call.remains, hc] using hr
        simpa [Shared.history, hr, hc] using ih (hm.common hcommon) hplaced

end Mirrors

/-- In every run on a bus, the calls that concern a device come to the same as in the run without the
calls for other devices, of which only the attachings stay, and without those that make the bus
unavailable or available. -/
theorem devices_independent (i : Nat) (calls : List Timed) :
    (Shared.history {} calls).filter (fun x => x.1.call.concerns i) =
      (Shared.history {} (calls.filter fun c => c.call.remains i)).filter
        fun x => x.1.call.concerns i :=
  Mirrors.history ⟨rfl, rfl, rfl⟩ .initial calls

end HidAccess.VirtualBus
