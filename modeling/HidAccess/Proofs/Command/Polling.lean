import HidAccess.Proofs.Command.Reading
import HidAccess.Proofs.PollLoop.Endings

/-! Polling from the command line. Each attempt is a write of the whole report and then a read that does not
wait, so writes and reads of the device alternate. The first attempt that is not in vain ends polling, as does
the flag when it is looked at between two attempts, or the last attempt that there may be. -/

namespace HidAccess
variable {W D : Type}

namespace PollLoop
variable {S α : Type} (p : PollLoop) (a : Attempts S α) (s : S)

variable {p a s}

end PollLoop

namespace Scene
variable (o : Scene W D) (slices : Nat) (q : PollRequest)

abbrev attempts : Attempts (Handle D × Watched W) Command.Response :=
  Command.attempts o.console (slices + 1) q

def OnlyExchanges (notes exchanges : List Note) : Prop :=
  notes.filter Note.isExchange = exchanges ∧ notes.filterMap Note.text? = []

theorem OnlyExchanges.append {notes notes' exchanges exchanges' : List Note} (h : OnlyExchanges notes exchanges)
    (h' : OnlyExchanges notes' exchanges') : OnlyExchanges (notes ++ notes') (exchanges ++ exchanges') :=
  ⟨by rw [List.filter_append, h.1, h'.1], by rw [List.filterMap_append, h.2, h'.2]; rfl⟩

variable {o slices q} {x : Handle D × Watched W} {p : PollLoop} {n : Nat}

end Scene

end HidAccess
