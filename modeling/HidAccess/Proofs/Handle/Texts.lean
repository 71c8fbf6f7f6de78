import HidAccess.Clocked
import HidAccess.DeviceTexts
import HidAccess.Manager
import HidAccess.Proofs.Handle.Operation

/-! The strings that a handle gives of the device that it was opened on, asked for one after another, beside
those of an entry. -/

namespace HidAccess

def DeviceEntry.texts (e : DeviceEntry) : DeviceTexts where
  manufacturer := e.manufacturer
  product := e.product
  serial := e.serialNumber

namespace Manager
variable {S D : Type} {b : Backend S D Arrival} {interval : Duration} {path : String} {w w' : Clocked S}

theorem openPath_clocked (b : Backend S D Arrival) (interval : Duration) (path : String) (w : Clocked S) :
    openPath { backend := b.clocked, interval } path w =
      ((b.openPath path w.state).1.map fun d => Handle.opened path d interval,
        { w with state := (b.openPath path w.state).2 }) := rfl

theorem opened_of_openPath {h : Handle D}
    (ho : openPath { backend := b.clocked, interval } path w = (.ok h, w')) :
    ∃ d, b.openPath path w.state = (.ok d, w'.state) ∧ h.live? = some d := by
  rw [openPath_clocked] at ho
  generalize b.openPath path w.state = x at ho
  rcases x with ⟨_ | d, s⟩
  · simp [Except.map] at ho
  · rcases Prod.mk.inj ho with ⟨hh, rfl⟩
    rcases Except.ok.inj hh
    exact ⟨d, rfl, rfl⟩

end Manager

namespace Handle
variable {W D : Type} (c : DeviceCalls W D Received) (now : W → Instant × W)

theorem perform_text_of_live {h : Handle D} {d : D} (hl : h.live? = some d) (query : StringQuery) (w : W) :
    perform (c.alone now) (.text query) h w =
      Prod.map (.ofExcept .text) id (settle (c.alone now) h (c.text d query w)) := by
  rw [perform, text, withDevice_of_live c now hl]
  rfl

def askAll (p : Platform W D) : List StringQuery → Handle D → W → List Answer × Handle D × W
  | [], h, w => ([], h, w)
  | query :: queries, h, w =>
    let (answer, h, w) := perform p (.text query) h w
    let (answers, h, w) := askAll p queries h w
    (answer :: answers, h, w)

end Handle

end HidAccess
