import HidAccess.Proofs.Handle.Custody

/-! Two worlds that calls of a handle's device cannot tell apart: an operation gives the same answer
on both, leaves the handle the same, and leaves worlds that cannot be told apart either. -/

namespace HidAccess.Handle
variable {W W' D α : Type}

structure Agreed (R : W → W' → Prop) (x : α × W) (x' : α × W') : Prop where
  result : x.1 = x'.1
  world : R x.2 x'.2

/-- The calls for devices that satisfy `P` give the same on related worlds, and keep them related. -/
structure Simulated (c : DeviceCalls W D Received) (c' : DeviceCalls W' D Received)
    (now : W → Instant × W) (now' : W' → Instant × W') (P : D → Prop) (R : W → W' → Prop) :
    Prop where
  now : ∀ {w w'}, R w w' → Agreed R (now w) (now' w')
  release : ∀ {d w w'}, P d → R w w' → R (c.release d w) (c'.release d w')
  read : ∀ {d w w'} buffer patience, P d → R w w' →
    Agreed R (c.read d buffer patience w) (c'.read d buffer patience w')
  write : ∀ {d w w'} report, P d → R w w' → Agreed R (c.write d report w) (c'.write d report w')
  outputLimit : ∀ {d w w'}, P d → R w w' → Agreed R (c.outputLimit d w) (c'.outputLimit d w')
  sendFeature : ∀ {d w w'} report, P d → R w w' →
    Agreed R (c.sendFeature d report w) (c'.sendFeature d report w')
  getFeature : ∀ {d w w'} buffer, P d → R w w' →
    Agreed R (c.getFeature d buffer w) (c'.getFeature d buffer w')
  text : ∀ {d w w'} query, P d → R w w' → Agreed R (c.text d query w) (c'.text d query w')

def Serves (P : D → Prop) (h : Handle D) : Prop := ∀ d ∈ h.device, P d

theorem serves_of_none {P : D → Prop} {h : Handle D} (hd : h.device = none) : Serves P h := by
  intro d hmem
  rw [hd] at hmem
  cases hmem

structure Matched (P : D → Prop) (R : W → W' → Prop) (x : α × Handle D × W)
    (x' : α × Handle D × W') : Prop where
  answer : x.1 = x'.1
  handle : x.2.1 = x'.2.1
  serves : Serves P x.2.1
  world : R x.2.2 x'.2.2

section Simulation
variable {c : DeviceCalls W D Received} {c' : DeviceCalls W' D Received} {now : W → Instant × W}
  {now' : W' → Instant × W'} {P : D → Prop} {R : W → W' → Prop} {h : Handle D} {w : W} {w' : W'}

theorem Matched.same {a : α} (hs : Serves P h) (hw : R w w') :
    Matched P R (a, h, w) (a, h, w') :=
  ⟨rfl, rfl, hs, hw⟩

theorem Matched.map {β : Type} {x : α × Handle D × W} {x' : α × Handle D × W'} (f : α → β)
    (hx : Matched P R x x') : Matched P R (Prod.map f id x) (Prod.map f id x') :=
  ⟨congrArg f hx.answer, hx.handle, hx.serves, hx.world⟩

namespace Simulated
variable (hsim : Simulated c c' now now' P R)
include hsim

theorem releaseDevice (hs : Serves P h) (hw : R w w') :
    R (h.releaseDevice (c.alone now) w) (h.releaseDevice (c'.alone now') w') := by
  cases hd : h.device with
  | none => simpa [Handle.releaseDevice, hd] using hw
  | some d => simpa [Handle.releaseDevice, hd, DeviceCalls.alone] using hsim.release (hs d hd) hw

theorem withDevice {call : D → W → Outcome W α} {call' : D → W' → Outcome W' α}
    (hcall : ∀ {d w w'}, P d → R w w' → Agreed R (call d w) (call' d w')) (hs : Serves P h)
    (hw : R w w') : Matched P R (withDevice (c.alone now) call h w)
      (Handle.withDevice (c'.alone now') call' h w') := by
  cases hl : h.live? with
  | none =>
    rw [withDevice_of_not_live c now hl, withDevice_of_not_live c' now' hl]
    exact .same hs hw
  | some d =>
    have hd := hs d (live?_eq_some.mp hl).2
    obtain ⟨hresult, hworld⟩ := hcall hd hw
    rw [withDevice_of_live c now hl, withDevice_of_live c' now' hl]
    generalize call d w = x, call' d w' = x' at hresult hworld
    obtain ⟨r, w₁⟩ := x
    obtain ⟨r', w₁'⟩ := x'
    obtain rfl : r = r' := hresult
    rcases r with e | a
    · by_cases he : e.isDisconnect = true
      · simp only [settle, he, if_true]
        exact ⟨rfl, rfl, serves_of_none rfl, hsim.releaseDevice hs hworld⟩
      · simp only [settle, he]
        exact .same hs hworld
    · exact .same hs hworld

theorem readSlice (r : Reading) (hs : Serves P h) (hw : R w w') :
    Matched P R (h.readSlice (c.alone now) r w) (h.readSlice (c'.alone now') r w') := by
  obtain ⟨hnow, hclock⟩ := hsim.now hw
  have hx := hsim.withDevice (hsim.read r.buffer (r.slice h.interval (now w).1)) hs hclock
  simp only [Handle.readSlice, DeviceCalls.alone, hnow] at hx ⊢
  generalize Handle.withDevice _ _ h (now w).2 = x, Handle.withDevice _ _ h (now' w').2 = x' at hx
  obtain ⟨r₁, h₁, w₁⟩ := x
  obtain ⟨r₁', h₁', w₁'⟩ := x'
  obtain ⟨rfl, rfl, hs₁, hw₁⟩ := hx
  rcases r₁ with e | received
  · exact .same hs₁ hw₁
  · obtain ⟨hnow₁, hclock₁⟩ := hsim.now hw₁
    simp only [hnow₁]
    exact .same hs₁ hclock₁

theorem readSlices (slices : Nat) (r : Reading) (hs : Serves P h) (hw : R w w') :
    Matched P R (h.readSlices (c.alone now) slices r w) (h.readSlices (c'.alone now') slices r w') := by
  induction slices generalizing r h w w' with
  | zero => exact .same hs hw
  | succ slices ih =>
    have hx := hsim.readSlice r hs hw
    simp only [Handle.readSlices]
    generalize h.readSlice (c.alone now) r w = x, h.readSlice (c'.alone now') r w' = x' at hx
    obtain ⟨progress, h₁, w₁⟩ := x
    obtain ⟨progress', h₁', w₁'⟩ := x'
    obtain ⟨rfl, rfl, hs₁, hw₁⟩ := hx
    rcases progress with ended | r'
    · exact .same hs₁ hw₁
    · exact ih r' hs₁ hw₁

theorem wholeRead (slices length : Nat) (timeout : Option Duration) (hs : Serves P h) (hw : R w w') :
    Matched P R (h.read (c.alone now) slices length timeout w)
      (h.read (c'.alone now') slices length timeout w') := by
  obtain ⟨hnow, hclock⟩ := hsim.now hw
  cases hstart : h.startRead length timeout (now w).1 with
  | error ended =>
    have hstart' := hstart
    rw [hnow] at hstart'
    rw [read_of_refused c now hstart, read_of_refused c' now' hstart']
    exact .same hs hclock
  | ok r =>
    have hstart' := hstart
    rw [hnow] at hstart'
    rw [read_of_started c now hstart, read_of_started c' now' hstart']
    exact hsim.readSlices slices r hs hclock

theorem writeDevice (report : Bytes) {d : D} (hd : P d) (hw : R w w') :
    Agreed R (Handle.writeDevice (c.alone now) report d w)
      (Handle.writeDevice (c'.alone now') report d w') := by
  obtain ⟨hlimit, hworld⟩ := hsim.outputLimit hd hw
  simp only [Handle.writeDevice, DeviceCalls.alone]
  generalize c.outputLimit d w = x, c'.outputLimit d w' = x' at hlimit hworld
  obtain ⟨limit, w₁⟩ := x
  obtain ⟨limit', w₁'⟩ := x'
  obtain rfl : limit = limit' := hlimit
  rcases limit with _ | limit
  · exact hsim.write report hd hworld
  · by_cases hsize : limit < report.length
    · simp only [hsize, if_true]
      exact ⟨rfl, hworld⟩
    · simp only [hsize, if_false]
      exact hsim.write report hd hworld

theorem refusing (refusal : Option AccessError) {call : D → W → Outcome W α}
    {call' : D → W' → Outcome W' α}
    (hcall : ∀ {d w w'}, P d → R w w' → Agreed R (call d w) (call' d w')) (hs : Serves P h)
    (hw : R w w') : Matched P R (Handle.refusing refusal (Handle.withDevice (c.alone now) call) h w)
      (Handle.refusing refusal (Handle.withDevice (c'.alone now') call') h w') := by
  rcases refusal with _ | e
  · exact hsim.withDevice hcall hs hw
  · exact .same hs hw

theorem fetchFeature (reportId : UInt8) (length : Nat) (hs : Serves P h) (hw : R w w') :
    Matched P R (h.getFeature (c.alone now) reportId length w)
      (h.getFeature (c'.alone now') reportId length w') := by
  by_cases hz : length = 0
  · subst hz
    exact .same hs hw
  cases hcrash : bufferCrash? length with
  | some crash =>
    rw [getFeature_of_crash _ hz hcrash, getFeature_of_crash _ hz hcrash]
    exact .same hs hw
  | none =>
    have hfits := bufferCrash?_eq_none_iff.mp hcrash
    rw [getFeature_of_fits _ hz hfits, getFeature_of_fits _ hz hfits]
    exact (hsim.withDevice (hsim.getFeature (featureBuffer reportId length)) hs hw).map _

/-- An operation cannot tell the two worlds apart. -/
theorem perform (o : Operation) (hs : Serves P h) (hw : R w w') :
    Matched P R (perform (c.alone now) o h w) (Handle.perform (c'.alone now') o h w') := by
  cases o with
  | read more length timeout => exact (hsim.wholeRead (more + 1) length timeout hs hw).map _
  | write report => exact (hsim.refusing _ (hsim.writeDevice report) hs hw).map _
  | sendFeature report => exact (hsim.refusing _ (hsim.sendFeature report) hs hw).map _
  | getFeature reportId length => exact (hsim.fetchFeature reportId length hs hw).map _
  | text query => exact (hsim.withDevice (hsim.text query) hs hw).map _
  | setBlocking blocking =>
    rw [perform_setBlocking, perform_setBlocking]
    split
    · exact .same hs hw
    · exact ⟨rfl, rfl, hs, hw⟩
  | close =>
    rw [perform_close, perform_close]
    split
    · exact .same hs hw
    · exact ⟨rfl, rfl, serves_of_none rfl, hsim.releaseDevice hs hw⟩
  | drop => exact ⟨rfl, rfl, serves_of_none rfl, hsim.releaseDevice hs hw⟩

end Simulated
end Simulation

end HidAccess.Handle
