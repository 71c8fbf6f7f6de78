import HidAccess.Proofs.Handle.Operation

/-! Which calls reach a device. Every call of the devices of a world is noted, so that an operation
of a handle can be judged by the calls that it makes. -/

namespace HidAccess

inductive DeviceCall where
  | read (length : Nat) (patience : Duration)
  | write (report : Bytes)
  | sendFeature (report : Bytes)
  | getFeature (buffer : Bytes)
  | text (query : StringQuery)
  | outputLimit
  | release
  deriving DecidableEq

structure Logged (W D : Type) where
  world : W
  calls : List (D × DeviceCall) := []

namespace Logged
variable {W D α : Type}

def noting (d : D) (call : DeviceCall) (act : W → α × W) (l : Logged W D) : α × Logged W D :=
  ((act l.world).1, ⟨(act l.world).2, l.calls ++ [(d, call)]⟩)

def clock (now : W → Instant × W) (l : Logged W D) : Instant × Logged W D :=
  ((now l.world).1, { l with world := (now l.world).2 })

def Extends (kind : D × DeviceCall → Prop) (l l' : Logged W D) : Prop :=
  ∃ more, l'.calls = l.calls ++ more ∧ ∀ call ∈ more, kind call

variable {kind : D × DeviceCall → Prop} {l l' l'' : Logged W D}

theorem Extends.of_calls_eq (h : l'.calls = l.calls) : Extends kind l l' :=
  ⟨[], by simp [h], by simp⟩

theorem Extends.trans (h : Extends kind l l') (h' : Extends kind l' l'') : Extends kind l l'' := by
  obtain ⟨more, hm, hk⟩ := h
  obtain ⟨more', hm', hk'⟩ := h'
  refine ⟨more ++ more', by rw [hm', hm, List.append_assoc], fun call hc => ?_⟩
  exact (List.mem_append.mp hc).elim (hk call) (hk' call)

theorem extends_noting {d : D} {call : DeviceCall} (hk : kind (d, call)) (act : W → α × W) :
    Extends kind l (noting d call act l).2 :=
  ⟨[(d, call)], rfl, by simpa using hk⟩

end Logged

def DeviceCalls.logged {W D R : Type} (c : DeviceCalls W D R) : DeviceCalls (Logged W D) D R where
  read d buffer patience :=
    Logged.noting d (.read buffer.length patience) (c.read d buffer patience)
  write d report := Logged.noting d (.write report) (c.write d report)
  sendFeature d report := Logged.noting d (.sendFeature report) (c.sendFeature d report)
  getFeature d buffer := Logged.noting d (.getFeature buffer) (c.getFeature d buffer)
  text d query := Logged.noting d (.text query) (c.text d query)
  outputLimit d := Logged.noting d .outputLimit (c.outputLimit d)
  release d l := ⟨c.release d l.world, l.calls ++ [(d, .release)]⟩

namespace Handle
variable {W D α : Type}

def recorded (c : DeviceCalls W D Received) (now : W → Instant × W) : Platform (Logged W D) D :=
  c.logged.alone (Logged.clock now)

def Reaches (h : Handle D) (call : D × DeviceCall) : Prop :=
  h.live? = some call.1 ∧ call.2 ≠ .release

/-- What a transfer may do: use the device, and release it as its last call if it is lost. -/
inductive Transfer (h : Handle D) (l : Logged W D) : Bool → Handle D → Logged W D → Prop
  | kept {l' : Logged W D} : l.Extends h.Reaches l' → Transfer h l false h l'
  | lost {d : D} {l' l'' : Logged W D} : h.live? = some d → l.Extends h.Reaches l' →
      l''.calls = l'.calls ++ [(d, .release)] → Transfer h l true { h with device := none } l''

theorem Transfer.after_uses {h h' : Handle D} {l l' l'' : Logged W D} {b : Bool}
    (hu : l.Extends h.Reaches l') (ht : Transfer h l' b h' l'') : Transfer h l b h' l'' := by
  cases ht with
  | kept hk => exact .kept (hu.trans hk)
  | lost hl hk hr => exact .lost hl (hu.trans hk) hr

def IsTransfer (h : Handle D) (l : Logged W D) (lost : α → Bool)
    (r : α × Handle D × Logged W D) : Prop :=
  Transfer h l (lost r.1) r.2.1 r.2.2

theorem IsTransfer.map {β : Type} {h : Handle D} {l : Logged W D} {lost : α → Bool}
    {lost' : β → Bool} {f : α → β} {r : α × Handle D × Logged W D} (ht : IsTransfer h l lost r)
    (hf : ∀ a, lost' (f a) = lost a) : IsTransfer h l lost' (Prod.map f id r) := by
  simpa only [IsTransfer, Prod.map_fst, Prod.map_snd, id, hf] using ht

theorem isTransfer_kept (h : Handle D) (l : Logged W D) {lost : α → Bool} {a : α}
    (ha : lost a = false) : IsTransfer h l lost (a, h, l) := by
  simpa only [IsTransfer, ha] using Transfer.kept (.of_calls_eq rfl)

variable (c : DeviceCalls W D Received) (now : W → Instant × W)

theorem withDevice_transfer (h : Handle D) (l : Logged W D)
    (call : D → Logged W D → Outcome (Logged W D) α)
    (hcall : ∀ d l, h.live? = some d → Logged.Extends h.Reaches l (call d l).2) :
    IsTransfer h l isLost (withDevice (recorded c now) call h l) := by
  cases hl : h.live? with
  | none =>
    rw [recorded, withDevice_of_not_live _ _ hl]
    exact isTransfer_kept h l rfl
  | some d =>
    have hu := hcall d l hl
    rw [recorded, withDevice_of_live _ _ hl]
    generalize call d l = r at hu
    obtain ⟨e | a, l'⟩ := r
    · cases he : e.isDisconnect with
      | false => simpa [IsTransfer, settle, isLost, he] using Transfer.kept hu
      | true =>
        have hd := (live?_eq_some.mp hl).2
        have hr : (h.releaseDevice (recorded c now) l').calls = l'.calls ++ [(d, .release)] := by
          simp [releaseDevice, hd, recorded, DeviceCalls.alone, DeviceCalls.logged]
        simpa [IsTransfer, settle, isLost, he, retire, recorded] using Transfer.lost hl hu hr
    · exact .kept hu

theorem read_reaches {h : Handle D} {d : D} (hl : h.live? = some d) (buffer : Bytes)
    (patience : Duration) (l : Logged W D) :
    l.Extends h.Reaches ((recorded c now).read d buffer patience l).2 :=
  Logged.extends_noting ⟨hl, by simp⟩ _

theorem readSlice_transfer (r : Reading) (h : Handle D) (l : Logged W D) :
    IsTransfer h l (fun x => (Answer.ofSlice x).isDisconnect)
      (readSlice (recorded c now) r h l) := by
  have hw := withDevice_transfer c now h (Logged.clock now l).2 _
    fun d l' hl => read_reaches c now hl r.buffer (r.slice h.interval (Logged.clock now l).1) l'
  have hl : l.Extends h.Reaches (Logged.clock now l).2 := .of_calls_eq rfl
  simp only [readSlice, show (recorded c now).now = Logged.clock now from rfl]
  generalize withDevice (recorded c now) _ h (Logged.clock now l).2 = x at hw
  obtain ⟨e | received, h', l'⟩ := x
  · exact .after_uses hl hw
  · cases hw with
    | kept hk =>
      have ha (t : Instant) : (Answer.ofSlice (r.after received t)).isDisconnect = false := by
        simp only [Reading.after]
        split <;> rfl
      have hclock : l'.Extends h'.Reaches (Logged.clock now l').2 := .of_calls_eq rfl
      exact .after_uses (hl.trans (hk.trans hclock)) (isTransfer_kept h' _ (ha _))

theorem readSlices_transfer (slices : Nat) (r : Reading) (h : Handle D) (l : Logged W D) :
    IsTransfer h l (fun x => (Answer.ofRead x).isDisconnect)
      (readSlices (recorded c now) slices r h l) := by
  induction slices generalizing r l with
  | zero => exact isTransfer_kept h l rfl
  | succ slices ih =>
    have hs := readSlice_transfer c now r h l
    simp only [readSlices]
    generalize readSlice (recorded c now) r h l = x at hs
    obtain ⟨ended | r', h', l'⟩ := x
    · exact hs
    · cases hs with
      | kept hk => exact .after_uses hk (ih r' l')

theorem read_transfer (slices length : Nat) (timeout : Option Duration) (h : Handle D)
    (l : Logged W D) : IsTransfer h l (fun x => (Answer.ofRead x).isDisconnect)
      (read (recorded c now) slices length timeout h l) := by
  have hl : l.Extends h.Reaches (Logged.clock now l).2 := .of_calls_eq rfl
  obtain ⟨ended, hs, hr⟩ | ⟨hs, -⟩ :=
    h.startRead_cases length timeout (Logged.clock now l).1
  · rw [recorded, read_of_refused _ _ hs]
    exact .after_uses hl (isTransfer_kept h _ hr.not_disconnect)
  · rw [recorded, read_of_started _ _ hs]
    exact .after_uses hl (readSlices_transfer c now slices _ h _)

theorem refusing_transfer {refusal : Option AccessError}
    (hr : ∀ e ∈ refusal, e.isDisconnect = false) (h : Handle D) (l : Logged W D)
    {act : Handle D → Logged W D → Except AccessError α × Handle D × Logged W D}
    (ha : IsTransfer h l isLost (act h l)) : IsTransfer h l isLost (refusing refusal act h l) := by
  cases refusal with
  | none => exact ha
  | some e => exact isTransfer_kept h l (hr e rfl)

theorem refuseEmpty_not_disconnect {report : Bytes} {text : String} :
    ∀ e ∈ refuseEmpty report text, e.isDisconnect = false := by
  intro e he
  simp only [refuseEmpty] at he
  split at he
  · cases he; rfl
  · cases he

theorem writeDevice_reaches {h : Handle D} {d : D} (hl : h.live? = some d) (report : Bytes)
    (l : Logged W D) : l.Extends h.Reaches (writeDevice (recorded c now) report d l).2 := by
  have hq : l.Extends h.Reaches ((recorded c now).outputLimit d l).2 :=
    Logged.extends_noting ⟨hl, by simp⟩ _
  have hw (l' : Logged W D) : l'.Extends h.Reaches ((recorded c now).write d report l').2 :=
    Logged.extends_noting ⟨hl, by simp⟩ _
  simp only [writeDevice]
  generalize (recorded c now).outputLimit d l = x at hq
  obtain ⟨_ | limit, l'⟩ := x
  · exact hq.trans (hw l')
  · by_cases hs : limit < report.length
    · simpa only [hs, if_true] using hq
    · simpa only [hs, if_false] using hq.trans (hw l')

theorem perform_transfer {o : Operation} (ho : o.transfers = true) (h : Handle D)
    (l : Logged W D) :
    IsTransfer h l Answer.isDisconnect (perform (recorded c now) o h l) := by
  cases o with
  | read more length timeout =>
    exact (read_transfer c now (more + 1) length timeout h l).map fun _ => rfl
  | write report =>
    have hw := withDevice_transfer c now h l _ fun d l hl => writeDevice_reaches c now hl report l
    exact (refusing_transfer refuseEmpty_not_disconnect h l hw).map
      (Answer.isDisconnect_ofExcept fun _ => rfl)
  | sendFeature report =>
    have hw := withDevice_transfer c now h l
      (fun d l => (recorded c now).sendFeature d report l)
      fun d l hl => Logged.extends_noting ⟨hl, by simp⟩ _
    exact (refusing_transfer refuseEmpty_not_disconnect h l hw).map
      (Answer.isDisconnect_ofExcept fun _ => rfl)
  | getFeature reportId length =>
    have hw := withDevice_transfer c now h l
      (fun d l => (recorded c now).getFeature d (featureBuffer reportId length) l)
      fun d l hl => Logged.extends_noting ⟨hl, by simp⟩ _
    rw [perform]
    obtain ⟨r, hx, hr⟩ | hx := getFeature_cases (recorded c now) reportId length h l
    · rw [hx]
      exact isTransfer_kept h l hr
    · rw [hx]
      exact hw.map Answer.isDisconnect_ofReport
  | text query =>
    have hw := withDevice_transfer c now h l (fun d l => (recorded c now).text d query l)
      fun d l hl => Logged.extends_noting ⟨hl, by simp⟩ _
    exact hw.map (Answer.isDisconnect_ofExcept fun _ => rfl)
  | setBlocking blocking => cases ho
  | close => cases ho
  | drop => cases ho

end Handle

end HidAccess
