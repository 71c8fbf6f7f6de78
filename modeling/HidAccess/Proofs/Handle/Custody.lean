import HidAccess.Proofs.Handle.CallLog

/-! What operations do to a part of the world that only the release of a device changes. A handle
keeps its device until an operation gives it up, and then the device is released. -/

namespace HidAccess.Handle
variable {W D α β : Type}

/-- A close that succeeds, a drop, or a call that finds the device gone. -/
def Operation.givesUp (o : Operation) (a : Answer) : Bool :=
  o == .close && a == .done || o == .drop || a.isDisconnect

structure OnlyReleasesChange (c : DeviceCalls W D Received) (now : W → Instant × W)
    (view : W → β) (released : D → β → β) : Prop where
  now : ∀ w, view (now w).2 = view w
  release : ∀ d w, view (c.release d w) = released d (view w)
  read : ∀ d buffer patience w, view (c.read d buffer patience w).2 = view w
  write : ∀ d report w, view (c.write d report w).2 = view w
  outputLimit : ∀ d w, view (c.outputLimit d w).2 = view w
  sendFeature : ∀ d report w, view (c.sendFeature d report w).2 = view w
  getFeature : ∀ d buffer w, view (c.getFeature d buffer w).2 = view w
  text : ∀ d query w, view (c.text d query w).2 = view w

/-- The handle has kept its device, or has given it up and it is released. -/
structure Custody (view : W → β) (released : D → β → β) (h : Handle D) (w : W) (lost : Bool)
    (h' : Handle D) (w' : W) : Prop where
  path : h'.path = h.path
  device : h'.device = if lost then none else h.device
  view : view w' = if lost then h.device.elim (view w) fun d => released d (view w) else view w

section Custody
variable {c : DeviceCalls W D Received} {now : W → Instant × W} {view : W → β}
  {released : D → β → β} {h h₁ h' : Handle D} {w w₁ w' : W} {lost : Bool}

theorem Custody.kept (hw : view w' = view w) : Custody view released h w false h w' :=
  ⟨rfl, rfl, hw⟩

theorem Custody.after (hf : Custody view released h w false h₁ w₁)
    (hs : Custody view released h₁ w₁ lost h' w') : Custody view released h w lost h' w' := by
  obtain ⟨hp, hd, hv⟩ := hf
  simp only [Bool.false_eq_true, if_false] at hd hv
  exact ⟨hs.path.trans hp, by rw [hs.device, hd], by rw [hs.view, hv, hd]⟩

theorem Custody.unchanged (hc : Custody view (fun _ shown => shown) h w lost h' w') :
    view w' = view w := by
  rw [hc.view]
  cases lost with
  | false => rfl
  | true => cases h.device <;> rfl

theorem Custody.refusing {refusal : Option AccessError}
    (hr : ∀ e ∈ refusal, e.isDisconnect = false)
    {act : Handle D → W → Except AccessError α × Handle D × W}
    (ha : Custody view released h w (isLost (act h w).1) (act h w).2.1 (act h w).2.2) :
    let x := Handle.refusing refusal act h w
    Custody view released h w (isLost x.1) x.2.1 x.2.2 := by
  cases refusal with
  | none => exact ha
  | some e =>
    simp only [Handle.refusing, isLost, hr e rfl]
    exact .kept rfl

theorem Custody.answered {answer : α → Answer} (hf : ∀ a, (answer a).isDisconnect = false)
    {x : Except AccessError α × Handle D × W}
    (hx : Custody view released h w (isLost x.1) x.2.1 x.2.2) :
    Custody view released h w (Answer.ofExcept answer x.1).isDisconnect x.2.1 x.2.2 := by
  rwa [Answer.isDisconnect_ofExcept hf]

namespace OnlyReleasesChange
variable (hv : OnlyReleasesChange c now view released)
include hv

theorem releaseDevice (h : Handle D) (w : W) :
    view (h.releaseDevice (c.alone now) w) = h.device.elim (view w) fun d => released d (view w) := by
  cases hd : h.device with
  | none => simp [Handle.releaseDevice, hd]
  | some d => simpa [Handle.releaseDevice, hd, DeviceCalls.alone] using hv.release d w

theorem withDevice (call : D → W → Outcome W α) (hcall : ∀ d w, view (call d w).2 = view w)
    (h : Handle D) (w : W) :
    let x := withDevice (c.alone now) call h w
    Custody view released h w (isLost x.1) x.2.1 x.2.2 := by
  cases hl : h.live? with
  | none =>
    rw [withDevice_of_not_live c now hl]
    exact .kept rfl
  | some d =>
    have hw := hcall d w
    rw [withDevice_of_live c now hl]
    generalize call d w = r at hw
    obtain ⟨e | a, w₁⟩ := r
    · cases he : e.isDisconnect with
      | false => simpa [settle, isLost, he] using Custody.kept hw
      | true =>
        have hr := hv.releaseDevice h w₁
        rw [hw] at hr
        simp only [settle, isLost, he, if_true]
        exact ⟨rfl, rfl, hr⟩
    · exact .kept hw

theorem readSlice (r : Reading) (h : Handle D) (w : W) :
    let x := h.readSlice (c.alone now) r w
    Custody view released h w (Answer.ofSlice x.1).isDisconnect x.2.1 x.2.2 := by
  have hclock : Custody view released h w false h (now w).2 := .kept (hv.now w)
  have hx := hv.withDevice
    (fun d w' => (c.alone now).read d r.buffer (r.slice h.interval (now w).1) w')
    (fun d w' => hv.read d _ _ w') h (now w).2
  simp only [Handle.readSlice, show (c.alone now).now = now from rfl]
  generalize Handle.withDevice (c.alone now) _ h (now w).2 = x at hx
  obtain ⟨e | received, h₁, w₁⟩ := x
  · exact hclock.after hx
  · have ha : (Answer.ofSlice (r.after received (now w₁).1)).isDisconnect = false := by
      simp only [Reading.after]
      split <;> rfl
    rw [ha]
    exact hclock.after (.after hx (.kept (hv.now w₁)))

theorem readSlices (slices : Nat) (r : Reading) (h : Handle D) (w : W) :
    let x := h.readSlices (c.alone now) slices r w
    Custody view released h w (Answer.ofRead x.1).isDisconnect x.2.1 x.2.2 := by
  induction slices generalizing r h w with
  | zero => exact .kept rfl
  | succ slices ih =>
    have hs := hv.readSlice r h w
    simp only [Handle.readSlices]
    generalize h.readSlice (c.alone now) r w = x at hs
    obtain ⟨ended | r', h₁, w₁⟩ := x
    · exact hs
    · exact .after hs (ih r' h₁ w₁)

theorem wholeRead (slices length : Nat) (timeout : Option Duration) (h : Handle D) (w : W) :
    let x := h.read (c.alone now) slices length timeout w
    Custody view released h w (Answer.ofRead x.1).isDisconnect x.2.1 x.2.2 := by
  obtain ⟨ended, hs, hr⟩ | ⟨hs, -⟩ := h.startRead_cases length timeout (now w).1
  · simp only [read_of_refused c now hs, hr.not_disconnect]
    exact .kept (hv.now w)
  · simp only [read_of_started c now hs]
    exact .after (.kept (hv.now w)) (hv.readSlices slices _ h _)

theorem writeDevice (report : Bytes) (d : D) (w : W) :
    view (Handle.writeDevice (c.alone now) report d w).2 = view w := by
  have hq := hv.outputLimit d w
  simp only [Handle.writeDevice, DeviceCalls.alone]
  generalize c.outputLimit d w = x at hq
  obtain ⟨_ | limit, w'⟩ := x
  · exact (hv.write d report w').trans hq
  · by_cases hs : limit < report.length
    · simpa only [hs, if_true] using hq
    · simpa only [hs, if_false] using (hv.write d report w').trans hq

theorem perform (o : Operation) (h : Handle D) (w : W) :
    let x := perform (c.alone now) o h w
    Custody view released h w (o.givesUp x.1) x.2.1 x.2.2 := by
  cases o with
  | read more length timeout => exact hv.wholeRead (more + 1) length timeout h w
  | write report =>
    exact .answered (fun _ => rfl)
      (.refusing refuseEmpty_not_disconnect (hv.withDevice _ (hv.writeDevice report) h w))
  | sendFeature report =>
    exact .answered (fun _ => rfl) (.refusing refuseEmpty_not_disconnect
      (hv.withDevice _ (fun d w => hv.sendFeature d report w) h w))
  | getFeature reportId length =>
    have hx := hv.withDevice
      (fun d w => (c.alone now).getFeature d (featureBuffer reportId length) w)
      (fun d w => hv.getFeature d _ w) h w
    rw [Handle.perform]
    obtain ⟨r, hf, hr⟩ | hf := getFeature_cases (c.alone now) reportId length h w
    · rw [hf]
      change Custody view released h w (Answer.ofCall .report r).isDisconnect h w
      rw [hr]
      exact .kept rfl
    · rw [hf]
      change Custody view released h w (Answer.ofCall .report (.returned (Except.map _ _))).isDisconnect _ _
      rw [Answer.isDisconnect_ofReport]
      exact hx
  | text query => exact .answered (fun _ => rfl) (hv.withDevice _ (fun d w => hv.text d query w) h w)
  | setBlocking blocking =>
    simp only [perform_setBlocking]
    split
    · exact .kept rfl
    · exact ⟨rfl, rfl, rfl⟩
  | close =>
    simp only [perform_close]
    split
    · exact .kept rfl
    · exact ⟨rfl, rfl, hv.releaseDevice h w⟩
  | drop => exact ⟨rfl, rfl, hv.releaseDevice h w⟩

end OnlyReleasesChange
end Custody

end HidAccess.Handle
