import HidAccess.Proofs.Text.Numeral
import HidAccess.Usb.Path

/-! The text of a path is read back as this path, so no two paths have one text. -/

namespace HidAccess.UsbPath

theorem colon_not_mem_hex (width n : Nat) : ':' ∉ (Text.Numeral.hex width n).toList := by
  refine Text.Numeral.not_mem_of_digits? ?_ (Text.Numeral.digits?_hex width n)
  decide

theorem readPart?_hex (width : Nat) (n : UInt8) :
    readPart? (Text.Numeral.hex width n.toNat).toList = some n := by
  have hn : n.toNat ≤ 255 := by
    have h := n.toNat_lt
    omega
  rw [readPart?, Text.Numeral.read?_of_digits? (Text.Numeral.digits?_hex width n.toNat) hn]
  simp

theorem read?_text (p : UsbPath) : read? p.text = some p := by
  have hparts : Text.splitAt ':' p.text.toList =
      [(Text.Numeral.hex 4 p.bus.toNat).toList, (Text.Numeral.hex 4 p.address.toNat).toList,
        (Text.Numeral.hex 2 p.interface.toNat).toList] := by
    simp only [text, String.toList_append, List.append_assoc,
      show ":".toList = [':'] from rfl, List.cons_append, List.nil_append]
    rw [Text.splitAt_append_cons (colon_not_mem_hex 4 _), Text.splitAt_append_cons (colon_not_mem_hex 4 _),
      Text.splitAt_of_not_mem (colon_not_mem_hex 2 _)]
  simp only [read?, hparts, readPart?_hex]
  rfl

theorem text_injective {p q : UsbPath} (h : p.text = q.text) : p = q := by
  have hread : some p = some q := by rw [← read?_text p, h, read?_text q]
  exact Option.some.inj hread

/-- The reader takes more than the texts of paths. -/
example : read? "1:04:+0" = some ⟨1, 4, 0⟩ ∧ text ⟨1, 4, 0⟩ = "0001:0004:00" := by decide

end HidAccess.UsbPath
