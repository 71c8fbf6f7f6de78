import HidAccess.Proofs.Hidraw.HandleTexts
import HidAccess.Proofs.Text.NumeralForm
import HidAccess.Proofs.Text.Split
import HidAccess.Proofs.Usb.Path
import HidAccess.VirtualBus

/-! The form of the paths of USB interfaces. A path is three hexadecimal numbers below 256 with colons
between them, and the text of a path is one way to spell it. The paths of the other backends have letters
that are no digits, so none of them leads to a USB interface. -/

namespace HidAccess.UsbPath
open Text.Numeral (Denotes)
variable {s : String} {p : UsbPath} {n : UInt8} {c : Char} {cs bus address interface : List Char}

/-- Three numerals with colons between them. -/
def Spells (s : String) (p : UsbPath) : Prop :=
  ∃ bus address interface, s.toList = bus ++ ':' :: (address ++ ':' :: interface) ∧
    Denotes 16 bus p.bus.toNat ∧ Denotes 16 address p.address.toNat ∧ Denotes 16 interface p.interface.toNat

theorem readPart?_eq_some_iff : readPart? cs = some n ↔ Denotes 16 cs n.toNat := by
  simp only [readPart?, Option.map_eq_some_iff, Text.Numeral.read?_eq_some_iff (Nat.le_refl 16)]
  constructor
  · rintro ⟨v, ⟨hv, hle⟩, rfl⟩
    rwa [UInt8.toNat_ofNat_of_lt' (Nat.lt_succ_of_le hle)]
  · intro h
    exact ⟨n.toNat, ⟨h, Nat.le_of_lt_succ n.toNat_lt⟩, UInt8.ofNat_toNat⟩

theorem splitAt_eq_parts_iff : Text.splitAt ':' cs = [bus, address, interface] ↔
    (':' ∉ bus ∧ ':' ∉ address ∧ ':' ∉ interface) ∧ cs = bus ++ ':' :: (address ++ ':' :: interface) := by
  constructor
  · intro h
    obtain ⟨hbus, ⟨-, hnil⟩ | ⟨rest, rfl, h₁⟩⟩ := Text.splitAt_eq_cons_iff.mp h
    · cases hnil
    obtain ⟨haddress, ⟨-, hnil⟩ | ⟨rest₁, rfl, h₂⟩⟩ := Text.splitAt_eq_cons_iff.mp h₁
    · cases hnil
    obtain ⟨hinterface, ⟨rfl, -⟩ | ⟨rest₂, -, h₃⟩⟩ := Text.splitAt_eq_cons_iff.mp h₂
    · exact ⟨⟨hbus, haddress, hinterface⟩, rfl⟩
    · exact absurd h₃ (Text.splitBy_ne_nil _ _)
  · rintro ⟨⟨hbus, haddress, hinterface⟩, rfl⟩
    rw [Text.splitAt_append_cons hbus, Text.splitAt_append_cons haddress, Text.splitAt_of_not_mem hinterface]

theorem read?_eq_some_iff_parts : read? s = some p ↔
    ∃ bus address interface, Text.splitAt ':' s.toList = [bus, address, interface] ∧
      readPart? bus = some p.bus ∧ readPart? address = some p.address ∧
      readPart? interface = some p.interface := by
  unfold read?
  split
  next bus address interface hsplit =>
    simp only [hsplit, Option.bind_eq_bind, Option.bind_eq_some_iff, Option.pure_def, Option.some.injEq]
    constructor
    · rintro ⟨b, hbus, a, haddress, i, hinterface, rfl⟩
      exact ⟨bus, address, interface, rfl, hbus, haddress, hinterface⟩
    · rintro ⟨_, _, _, heq, hbus, haddress, hinterface⟩
      obtain ⟨rfl, rfl, rfl⟩ : bus = _ ∧ address = _ ∧ interface = _ := by simpa using heq
      exact ⟨p.bus, hbus, p.address, haddress, p.interface, hinterface, rfl⟩
  next hother =>
    constructor
    · intro h
      cases h
    · rintro ⟨bus, address, interface, hsplit, -⟩
      exact absurd hsplit (hother bus address interface)

theorem colon_not_mem (h : Denotes 16 cs n.toNat) : ':' ∉ cs :=
  Text.Numeral.not_mem_of_denotes (Nat.le_refl 16) (by decide) (by decide) h

theorem read?_eq_some_iff : read? s = some p ↔ Spells s p := by
  simp only [read?_eq_some_iff_parts, splitAt_eq_parts_iff, readPart?_eq_some_iff, Spells]
  constructor
  · rintro ⟨bus, address, interface, ⟨-, hs⟩, hbus, haddress, hinterface⟩
    exact ⟨bus, address, interface, hs, hbus, haddress, hinterface⟩
  · rintro ⟨bus, address, interface, hs, hbus, haddress, hinterface⟩
    exact ⟨bus, address, interface, ⟨⟨colon_not_mem hbus, colon_not_mem haddress, colon_not_mem hinterface⟩, hs⟩,
      hbus, haddress, hinterface⟩

section OtherBackends

theorem read?_eq_none_of_mem (hmem : c ∈ s.toList) (hcolon : c ≠ ':') (hplus : c ≠ '+')
    (hc : Text.Numeral.digit? 16 c = none) : read? s = none := by
  rw [Option.eq_none_iff_forall_ne_some]
  intro p hp
  obtain ⟨bus, address, interface, hs, hbus, haddress, hinterface⟩ := read?_eq_some_iff.mp hp
  have hfree {cs : List Char} {n : Nat} (h : Denotes 16 cs n) : c ∉ cs :=
    Text.Numeral.not_mem_of_denotes (Nat.le_refl 16) hplus hc h
  rw [hs] at hmem
  simp [hcolon, hfree hbus, hfree haddress, hfree hinterface] at hmem

theorem mem_toList_join (base : String) {path : String} (h : c ∈ path.toList) :
    c ∈ (FileTree.join base path).toList := by
  rw [FileTree.join]
  split
  · exact h
  · split <;> simp [h]

theorem read?_node (dir : String) {name : String} (h : HidrawPaths.isNode name) :
    read? (FileTree.join dir name) = none := by
  have hstart : 'h' ∈ name.toList :=
    (HidrawPaths.isNode_iff.mp h).subset (by decide)
  exact read?_eq_none_of_mem (mem_toList_join dir hstart) (by decide) (by decide) (by decide)

theorem read?_of_listed_node {paths : HidrawPaths} {t : FileTree} {devices : DeviceList} {e : DeviceEntry}
    (h : paths.enumerate t = .ok devices) (he : e ∈ devices) : read? e.path = none := by
  obtain ⟨-, -, name, -, hnode, hdescribe⟩ := HidrawPaths.exists_of_mem_enumerate h he
  rw [HidrawPaths.path_of_describe? hdescribe]
  exact read?_node paths.nodes hnode

theorem read?_virtual (index : Nat) : read? (VirtualBus.pathOf index) = none := by
  have hstart : 'v' ∈ (VirtualBus.pathOf index).toList := by simp [VirtualBus.pathOf]
  exact read?_eq_none_of_mem hstart (by decide) (by decide) (by decide)

end OtherBackends

theorem paths_read_by_form :
    (∀ s p, read? s = some p ↔ Spells s p) ∧
    (∀ p, read? p.text = some p) ∧
    Function.Injective text ∧
    (∀ (paths : HidrawPaths) (t : FileTree) (devices : DeviceList), paths.enumerate t = .ok devices →
      ∀ e ∈ devices, read? e.path = none) ∧
    ∀ index, read? (VirtualBus.pathOf index) = none :=
  ⟨fun _ _ => read?_eq_some_iff, read?_text, fun _ _ => text_injective,
    fun _ _ _ hlist _ he => read?_of_listed_node hlist he, read?_virtual⟩

theorem pad_node_is_no_interface :
    Spells "+1:00004:fF" ⟨1, 4, 255⟩ ∧ read? HidrawPaths.padEntry.path = none := by
  obtain ⟨hform, -, -, hnode, -⟩ := paths_read_by_form
  have hread : read? "+1:00004:fF" = some ⟨1, 4, 255⟩ := by decide
  exact ⟨(hform _ _).mp hread, hnode _ _ _ HidrawPaths.enumerate_padTree _ List.mem_cons_self⟩

end HidAccess.UsbPath
