import HidAccess.Proofs.VirtualBus.Seats

/-! The open handles of every device are counted: a device has as many as were opened on it and not
given up since, by a close, a drop or a call that found it gone. -/

namespace HidAccess.VirtualBus

namespace Traffic

def gaveUp? (s : Traffic) (a : Action) : Option Nat :=
  match a, (s.step a).1 with
  | .operate handle o, .answered _ _ answer => if o.givesUp answer then some handle else none
  | .slice index, .read _ _ progress =>
    if (Handle.Answer.ofSlice progress).isDisconnect then s.reads[index]?.map (·.handle) else none
  | _, _ => none

def givenUp (s : Traffic) : List Action → List Nat
  | [] => []
  | a :: as => (s.gaveUp? a).toList ++ givenUp (s.step a).2 as

/-- How many handles were opened at a path, apart from those given up. -/
def openAt (s : Traffic) (gone : List Nat) (path : String) : Nat :=
  (List.range s.handles.length).countP fun n =>
    s.handles[n]?.any (·.path == path) && !gone.contains n

end Traffic

def holders (i : Nat) (hs : List (Handle Nat)) : Nat := hs.countP (·.device == some i)

theorem holders_append (i : Nat) (hs : List (Handle Nat)) (h : Handle Nat) :
    holders i (hs ++ [h]) = holders i hs + if h.device = some i then 1 else 0 := by
  simp [holders, List.countP_append, List.countP_singleton]

theorem holders_set {hs : List (Handle Nat)} {n : Nat} {h : Handle Nat} (hn : hs[n]? = some h)
    (i : Nat) (h' : Handle Nat) :
    holders i (hs.set n h') = holders i hs - (if h.device = some i then 1 else 0) +
      if h'.device = some i then 1 else 0 := by
  obtain ⟨hlt, hx⟩ := List.getElem?_eq_some_iff.mp hn
  simp [holders, List.countP_set hlt, hx]

/-- What holds of the handles when those in `gone` have been given up. -/
structure Accounted (gone : List Nat) (hs : List (Handle Nat)) (ss : Nat → Option Seat) : Prop where
  paths : ∀ i seat, ss i = some seat → seat.path = pathOf i
  numbers : ∀ n ∈ gone, n < hs.length
  held : ∀ n h, hs[n]? = some h → ∀ i, h.device = some i ↔ h.path = pathOf i ∧ n ∉ gone
  seated : ∀ h ∈ hs, ∀ i, h.device = some i → (ss i).isSome
  count : ∀ i seat, ss i = some seat → seat.openHandles = holders i hs
  exclusive : ∀ i seat, ss i = some seat → seat.spec.exclusive = true → seat.openHandles ≤ 1

namespace Accounted
variable {gone : List Nat} {hs : List (Handle Nat)} {ss : Nat → Option Seat}

theorem nil : Accounted [] [] (seats {}) where
  paths := by simp [seats]
  numbers := by simp
  held := by simp
  seated := by simp
  count := by simp [seats]
  exclusive := by simp [seats]

theorem attach {bus : VirtualBus} (ha : Accounted gone hs (seats bus)) (spec : VirtualSpec) :
    Accounted gone hs (seats (bus.attach spec)) := by
  have hnew : holders bus.devices.length hs = 0 := by
    refine List.countP_eq_zero.mpr fun h hm hd => ?_
    have h := ha.seated h hm _ (by simpa using hd)
    simp [seats] at h
  have hcases (i : Nat) (seat : Seat) (hi : seats (bus.attach spec) i = some seat) :
      i = bus.devices.length ∧ seat = ⟨pathOf i, spec, 0⟩ ∨ seats bus i = some seat := by
    rw [seats_attach] at hi
    by_cases h : i = bus.devices.length
    · exact .inl ⟨h, by simpa [h] using hi.symm⟩
    · exact .inr (by simpa [h] using hi)
  constructor
  case paths =>
    intro i seat hi
    obtain ⟨-, rfl⟩ | hi := hcases i seat hi
    · rfl
    · exact ha.paths i seat hi
  case numbers => exact ha.numbers
  case held => exact ha.held
  case seated =>
    intro h hm i hd
    have hs := ha.seated h hm i hd
    simp only [seats_attach]
    split
    · rfl
    · exact hs
  case count =>
    intro i seat hi
    obtain ⟨rfl, rfl⟩ | hi := hcases i seat hi
    · exact hnew.symm
    · exact ha.count i seat hi
  case exclusive =>
    intro i seat hi hx
    obtain ⟨-, rfl⟩ | hi := hcases i seat hi
    · exact Nat.zero_le 1
    · exact ha.exclusive i seat hi hx

theorem at?_some {i k : Nat} {f : Seat → Seat} {seat : Seat} (h : at? i f ss k = some seat) :
    ∃ seat₀, ss k = some seat₀ ∧ seat = if i = k then f seat₀ else seat₀ := by
  simp only [at?] at h
  split at h
  next hk =>
    obtain ⟨seat₀, hs, rfl⟩ := Option.map_eq_some_iff.mp h
    exact ⟨seat₀, hs, by simp [hk]⟩
  next hk => exact ⟨seat, h, by simp [hk]⟩

theorem isSome_at? {i k : Nat} {f : Seat → Seat} : (at? i f ss k).isSome = (ss k).isSome := by
  simp only [at?]
  split <;> simp

theorem opened (ha : Accounted gone hs ss) {i : Nat} {h : Handle Nat} {seat : Seat}
    (hi : ss i = some seat) (hfree : seat.spec.exclusive = false ∨ seat.openHandles = 0)
    (hd : h.device = some i) (hp : h.path = pathOf i) :
    Accounted gone (hs ++ [h]) (at? i Seat.taken ss) := by
  constructor
  case paths =>
    intro k seat' hk
    obtain ⟨seat₀, hs₀, rfl⟩ := at?_some hk
    have hpath := ha.paths k seat₀ hs₀
    split
    · exact hpath
    · exact hpath
  case numbers =>
    intro n hn
    rw [List.length_append]
    exact Nat.lt_add_right 1 (ha.numbers n hn)
  case held =>
    intro n h' hn k
    obtain hlt | rfl | hlt := Nat.lt_trichotomy n hs.length
    · rw [List.getElem?_append_left hlt] at hn
      exact ha.held n h' hn k
    · have hfresh : hs.length ∉ gone := by
        intro hm
        exact Nat.lt_irrefl _ (ha.numbers _ hm)
      simp only [List.getElem?_concat_length, Option.some.injEq] at hn
      subst hn
      rw [hd, hp, Option.some.injEq]
      constructor
      · intro hik
        exact ⟨congrArg pathOf hik, hfresh⟩
      · intro hpath
        exact pathOf_injective hpath.1
    · rw [List.getElem?_eq_none (by simp; omega)] at hn
      cases hn
  case seated =>
    intro h' hm k hd'
    rw [isSome_at?]
    obtain hm | hm := List.mem_append.mp hm
    · exact ha.seated h' hm k hd'
    · rw [List.mem_singleton.mp hm, hd] at hd'
      cases hd'
      simp [hi]
  case count =>
    intro k seat' hk
    obtain ⟨seat₀, hs₀, rfl⟩ := at?_some hk
    have hcount := ha.count k seat₀ hs₀
    rw [holders_append, hd]
    by_cases h : i = k <;> simp [h, Seat.taken, hcount]
  case exclusive =>
    intro k seat' hk hx
    obtain ⟨seat₀, hs₀, rfl⟩ := at?_some hk
    by_cases h : i = k
    · subst h
      rw [hi] at hs₀
      cases hs₀
      obtain hfree | hfree := hfree
      · simp [Seat.taken, hfree] at hx
      · simp [Seat.taken, hfree]
    · simp only [h, if_false] at hx ⊢
      exact ha.exclusive k seat₀ hs₀ hx

section Act
variable {n : Nat} {h h' : Handle Nat} (hn : hs[n]? = some h)
include hn

theorem getElem?_set_cases {m : Nat} {h₁ : Handle Nat} (hm : (hs.set n h')[m]? = some h₁) :
    m = n ∧ h₁ = h' ∨ m ≠ n ∧ hs[m]? = some h₁ := by
  by_cases hmn : m = n
  · subst hmn
    rw [List.getElem?_set_self (List.getElem?_eq_some_iff.mp hn).1] at hm
    exact .inl ⟨rfl, (Option.some.inj hm).symm⟩
  · rw [List.getElem?_set_ne (Ne.symm hmn)] at hm
    exact .inr ⟨hmn, hm⟩

theorem kept (ha : Accounted gone hs ss) (hp : h'.path = h.path) (hd : h'.device = h.device) :
    Accounted gone (hs.set n h') ss := by
  constructor
  case paths => exact ha.paths
  case numbers => simpa using ha.numbers
  case held =>
    intro m h₁ hm k
    obtain ⟨rfl, rfl⟩ | ⟨-, hm⟩ := getElem?_set_cases hn hm
    · rw [hd, hp]
      exact ha.held m h hn k
    · exact ha.held m h₁ hm k
  case seated =>
    intro h₁ hm k hd₁
    obtain hm | rfl := List.mem_or_eq_of_mem_set hm
    · exact ha.seated h₁ hm k hd₁
    · exact ha.seated h (List.mem_of_getElem? hn) k (hd ▸ hd₁)
  case count =>
    intro k seat hk
    rw [ha.count k seat hk, holders_set hn, hd]
    split
    next hdk =>
      have hpos : 0 < holders k hs :=
        List.countP_pos_iff.mpr ⟨h, List.mem_of_getElem? hn, by simp [hdk]⟩
      omega
    next => omega
  case exclusive => exact ha.exclusive

theorem released (ha : Accounted gone hs ss) (hp : h'.path = h.path) (hd : h'.device = none) :
    Accounted (gone ++ [n]) (hs.set n h') (h.device.elim ss fun i => at? i Seat.left ss) := by
  have hback (k : Nat) (seat : Seat)
      (hk : (h.device.elim ss fun i => at? i Seat.left ss) k = some seat) :
      ∃ seat₀, ss k = some seat₀ ∧ seat = if h.device = some k then seat₀.left else seat₀ := by
    cases hdev : h.device with
    | none => exact ⟨seat, by simpa [hdev] using hk, by simp⟩
    | some i =>
      rw [hdev] at hk
      obtain ⟨seat₀, hs₀, rfl⟩ := at?_some hk
      exact ⟨seat₀, hs₀, by simp⟩
  have hlt : n < hs.length := (List.getElem?_eq_some_iff.mp hn).1
  constructor
  case paths =>
    intro k seat hk
    obtain ⟨seat₀, hs₀, rfl⟩ := hback k seat hk
    have hpath := ha.paths k seat₀ hs₀
    split
    · exact hpath
    · exact hpath
  case numbers =>
    intro m hm
    rw [List.length_set]
    obtain hm | hm := List.mem_append.mp hm
    · exact ha.numbers m hm
    · exact List.mem_singleton.mp hm ▸ hlt
  case held =>
    intro m h₁ hm k
    obtain ⟨rfl, rfl⟩ | ⟨hmn, hm⟩ := getElem?_set_cases hn hm
    · simp [hd]
    · simpa [hmn] using ha.held m h₁ hm k
  case seated =>
    intro h₁ hm k hd₁
    have hs₁ : (ss k).isSome := by
      obtain hm | rfl := List.mem_or_eq_of_mem_set hm
      · exact ha.seated h₁ hm k hd₁
      · rw [hd] at hd₁
        cases hd₁
    cases h.device with
    | none => exact hs₁
    | some i => rwa [Option.elim_some, isSome_at?]
  case count =>
    intro k seat hk
    obtain ⟨seat₀, hs₀, rfl⟩ := hback k seat hk
    have hcount := ha.count k seat₀ hs₀
    rw [holders_set hn, hd]
    split <;> simp [Seat.left, hcount]
  case exclusive =>
    intro k seat hk hx
    obtain ⟨seat₀, hs₀, rfl⟩ := hback k seat hk
    split at hx
    next hdk =>
      have h1 := ha.exclusive k seat₀ hs₀ hx
      rw [if_pos hdk]
      exact Nat.le_trans (Nat.sub_le _ _) h1
    next hdk =>
      rw [if_neg hdk]
      exact ha.exclusive k seat₀ hs₀ hx

end Act

end Accounted

inductive Opening (w : Clocked VirtualBus) : Outcome (Clocked VirtualBus) (Handle Nat) → Prop
  | failed (e : AccessError) : Opening w (.error e, w)
  | opened {h : Handle Nat} {i : Nat} {d : VirtualDevice} {w' : Clocked VirtualBus} :
    w.state.devices[i]? = some d → d.IsFree → h.device = some i → h.path = d.path →
    seats w'.state = at? i Seat.taken (seats w.state) → Opening w (.ok h, w')

theorem opening_openPath (interval : Duration) (path : String) (w : Clocked VirtualBus) :
    Opening w ((Traffic.manager interval).openPath path w) := by
  rw [Traffic.openPath_eq]
  obtain hx | ⟨i, d, hd, hpath, hx⟩ := openPath_cases path w.state
  · rw [hx]
    exact .failed _
  · generalize openPath path w.state = x at hx
    cases hx with
    | reached _ hfree => exact .opened hd hfree rfl hpath.symm (seats_change fun _ => rfl)
    | denied => exact .failed _
    | taken => exact .failed _

theorem opening_openIds (interval : Duration) (vendorId productId : UInt16)
    (serial : Option String) (w : Clocked VirtualBus) :
    Opening w ((Traffic.manager interval).openIds vendorId productId serial w) := by
  obtain ⟨e, hx⟩ | ⟨path, hx⟩ := Traffic.openIds_cases interval vendorId productId serial w
  · rw [hx]
    exact .failed e
  · rw [hx]
    exact opening_openPath interval path w

section Step
variable {s : Traffic} {gone : List Nat}
  (ha : Accounted gone s.handles (seats s.world.state))
include ha

theorem keep_accounted {x : Outcome (Clocked VirtualBus) (Handle Nat)}
    (hx : Opening s.world x) :
    Accounted gone (s.keep x).2.handles (seats (s.keep x).2.world.state) := by
  cases hx with
  | failed e => exact ha
  | opened hd hfree hdev hp hs =>
    simp only [Traffic.keep, hs]
    exact ha.opened (seats_of_some hd) hfree hdev (hp.trans (Pathed.path ha.paths hd))

theorem custody_accounted {n : Nat} {h h' : Handle Nat} {w' : Clocked VirtualBus} {lost : Bool}
    (hn : s.handles[n]? = some h)
    (hc : Handle.Custody (fun w : Clocked VirtualBus => seats w.state) (fun i => at? i Seat.left) h
      s.world lost h' w') :
    Accounted (gone ++ if lost then [n] else []) (s.handles.set n h') (seats w'.state) := by
  have hv := hc.view
  have hd := hc.device
  cases lost with
  | false =>
    simp only [Bool.false_eq_true, if_false, List.append_nil] at hv hd ⊢
    rw [hv]
    exact Accounted.kept hn ha hc.path hd
  | true =>
    simp only [if_true] at hv hd ⊢
    rw [hv]
    exact Accounted.released hn ha hc.path hd

def StepAccounted (gone : List Nat) (s : Traffic) (a : Action) : Prop :=
  Accounted (gone ++ (s.gaveUp? a).toList) (s.step a).2.handles (seats (s.step a).2.world.state)

theorem control_accounted (request : BusRequest) :
    Accounted gone s.handles (seats (control request s.world.state).2) := by
  by_cases hr : ∃ spec, request = .attach spec
  · obtain ⟨spec, rfl⟩ := hr
    exact ha.attach spec
  · rwa [seats_control fun spec he => hr ⟨spec, he⟩]

theorem step_accounted (a : Action) : StepAccounted gone s a := by
  have hs := s.step_stepped a
  simp only [StepAccounted, Traffic.gaveUp?]
  generalize (s.step a).1 = e, (s.step a).2 = s' at hs ⊢
  cases hs with
  | control request => simpa using control_accounted ha request
  | @openPath path interval r s' hx =>
    have hk := keep_accounted ha (opening_openPath interval path s.world)
    simpa [hx] using hk
  | @openIds vendorId productId serial interval r s' hx =>
    have hk := keep_accounted ha (opening_openIds interval vendorId productId serial s.world)
    simpa [hx] using hk
  | @operate n o h h' answer world hn hx =>
    have hp : Handle.perform (backend.clocked.toDeviceCalls.alone Clocked.clock) o h s.world =
      (answer, h', world) := hx
    have hc := custody_accounted ha hn (onlyReleasesChange_seats.perform o h s.world)
    simpa only [hp, apply_ite Option.toList, Option.toList_some, Option.toList_none] using hc
  | @slice index r h h' progress world hr hn hx =>
    have hp : h.readSlice (backend.clocked.toDeviceCalls.alone Clocked.clock) r.reading s.world =
      (progress, h', world) := hx
    have hc := custody_accounted ha hn (onlyReleasesChange_seats.readSlice r.reading h s.world)
    simpa only [hp, hr, Option.map_some, apply_ite Option.toList, Option.toList_some,
      Option.toList_none] using hc
  | _ => simpa using ha

theorem run_accounted (as : List Action) :
    Accounted (gone ++ s.givenUp as) (s.run as).2.handles (seats (s.run as).2.world.state) := by
  induction as generalizing s gone with
  | nil => simpa [Traffic.givenUp, Traffic.run] using ha
  | cons a as ih =>
    have h := ih (step_accounted ha a)
    rwa [List.append_assoc] at h

end Step

theorem countP_range_getElem? {α : Type} (xs : List α) (p : α → Bool) :
    (List.range xs.length).countP (fun n => xs[n]?.any p) = xs.countP p := by
  induction xs with
  | nil => rfl
  | cons x xs ih =>
    simp [List.range_succ_eq_map, List.countP_cons, List.countP_map, Function.comp_def, ih]

theorem openAt_eq {s : Traffic} {gone : List Nat} {i : Nat} {seat : Seat}
    (ha : Accounted gone s.handles (seats s.world.state))
    (hi : seats s.world.state i = some seat) :
    s.openAt gone seat.path = seat.openHandles := by
  rw [ha.count i seat hi, holders, ← countP_range_getElem?]
  refine List.countP_congr fun n _ => ?_
  cases hn : s.handles[n]? with
  | none => simp
  | some h => simpa [ha.paths i seat hi] using (ha.held n h hn i).symm

theorem openPath_event {s : Traffic} {i : Nat} {d : VirtualDevice} (hp : s.world.state.Pathed)
    (hd : s.world.state.devices[i]? = some d) (ha : d.attached = true) (hn : d.spec.denied = false)
    (interval : Duration) :
    (∃ n, (s.step (.openPath d.path interval)).1 = .opened (.ok n)) ↔ d.IsFree := by
  have hx : (s.step (.openPath d.path interval)).1 =
      .opened ((openPath d.path s.world.state).1.map fun _ => s.handles.length) := by
    simp only [Traffic.step, Traffic.manager, Manager.openPath, Backend.clocked, Backend.withRead,
      Backend.lift, backend]
    cases (openPath d.path s.world.state).1 <;> rfl
  rw [hx]
  obtain ⟨ho, hfree⟩ | ⟨ho, hfree⟩ := openPath_of_attached hp hd ha hn
  · simp [ho, hfree, Except.map]
  · simp [ho, hfree, Except.map]

theorem keep_failed {s s' : Traffic} {x : Outcome (Clocked VirtualBus) (Handle Nat)}
    (hx : Opening s.world x) {e : AccessError} (hk : s.keep x = (.opened (.error e), s')) :
    s' = s := by
  cases hx with
  | failed e' =>
    cases hk
    rfl
  | opened => cases hk

theorem step_failed {s : Traffic} {a : Action} {e : AccessError}
    (he : (s.step a).1 = .opened (.error e)) : (s.step a).2 = s := by
  have hs := s.step_stepped a
  rw [he] at hs
  generalize (s.step a).2 = s' at hs ⊢
  cases hs with
  | openPath hx => exact keep_failed (opening_openPath _ _ s.world) hx
  | openIds hx => exact keep_failed (opening_openIds _ _ _ _ s.world) hx

/-- At every point of every run from an empty bus: a device has as many open handles as were opened
at its path and not given up, so every handle that still has a device is counted there; a device for
one user has at most one; an opening that fails changes nothing; and a device that is attached and
does not deny access can be opened if and only if it is free. -/
theorem open_handles_accounted (as : List Action) :
    let s := (Traffic.run {} as).2
    (∀ (i : Nat) d, s.world.state.devices[i]? = some d →
      d.openHandles = s.openAt (Traffic.givenUp {} as) d.path ∧
      (d.spec.exclusive = true → d.openHandles ≤ 1) ∧
      (d.attached = true → d.spec.denied = false → ∀ interval,
        ((∃ n, (s.step (.openPath d.path interval)).1 = .opened (.ok n)) ↔
          d.spec.exclusive = false ∨ d.openHandles = 0))) ∧
    (∀ h ∈ s.handles, ∀ i : Nat, h.device = some i →
      ∃ d, s.world.state.devices[i]? = some d ∧ 0 < d.openHandles) ∧
    (∀ a e, (s.step a).1 = .opened (.error e) → (s.step a).2 = s) := by
  intro s
  have ha : Accounted (Traffic.givenUp {} as) s.handles (seats s.world.state) := by
    simpa using run_accounted (s := {}) Accounted.nil as
  refine ⟨?counts, ?holders, fun a e => step_failed⟩
  case counts =>
    intro i d hd
    have hseat := seats_of_some hd
    refine ⟨(openAt_eq ha hseat).symm, ha.exclusive i d.seat hseat, ?_⟩
    intro hattached hdenied interval
    exact openPath_event ha.paths hd hattached hdenied interval
  case holders =>
    intro h hm i hdev
    obtain ⟨d, hd⟩ : ∃ d, s.world.state.devices[i]? = some d :=
      Option.isSome_iff_exists.mp (by simpa [seats] using ha.seated h hm i hdev)
    have hcount := ha.count i d.seat (seats_of_some hd)
    have hpos : 0 < holders i s.handles := List.countP_pos_iff.mpr ⟨h, hm, by simp [hdev]⟩
    exact ⟨d, hd, Nat.lt_of_lt_of_eq hpos hcount.symm⟩

end HidAccess.VirtualBus
