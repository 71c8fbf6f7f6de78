import HidAccess.Hidraw.Backend
import HidAccess.Proofs.FileTree.Walk

/-! What the description of a node depends on: the look-ups on the way to its device and to the files
around it. A tree that is alike wherever these look gives the same description. -/

namespace HidAccess
open FileTree
variable {t t' : FileTree} {common : Nat → Prop} {changed : Nat} {gone : FileName → Bool}
  {place : Place} {name : String}

theorem FileTree.Avoids.left {xs ys : List (Nat × String)} (h : Avoids changed gone (xs ++ ys)) :
    Avoids changed gone xs :=
  fun x hx => h x (List.mem_append_left _ hx)

theorem FileTree.Avoids.right {xs ys : List (Nat × String)} (h : Avoids changed gone (xs ++ ys)) :
    Avoids changed gone ys :=
  fun x hx => h x (List.mem_append_right _ hx)

namespace Attributes

/-- The search for a file goes no further than the first place that has it. -/
def searchLookUps (t : FileTree) (name : String) : List Place → List (Nat × String)
  | [] => []
  | p :: ps => t.fileLookUps p name ++ if t.isFileFrom p name then [] else searchLookUps t name ps

def usbFiles : List String := ["manufacturer", "product", "serial", "bcdDevice"]

def lookUps (t : FileTree) (place : Place) (e : Uevent) : List (Nat × String) :=
  if Bus.ofLinux e.bus = .usb then
    searchLookUps t interfaceFile (around place) ++ searchLookUps t vendorFile (around place) ++
    match nearest? t vendorFile place with
    | none => []
    | some p => usbFiles.flatMap (t.fileLookUps p)
  else []

theorem isCommon_around (hp : IsCommon common place) : ∀ p ∈ around place, IsCommon common p := by
  induction place with
  | nil => simp [around]
  | cons x rest ih =>
    have hrest : IsCommon common rest := hp.tail
    intro p hp
    rcases List.mem_cons.mp hp with rfl | hmem
    · exact hrest
    · exact ih hrest p hmem

theorem fileLookUps_of_find? {ps : List Place} {p : Place}
    (hf : ps.find? (fun p => t.isFileFrom p name) = some p) {x : Nat × String}
    (hx : x ∈ t.fileLookUps p name) : x ∈ searchLookUps t name ps := by
  induction ps with
  | nil => simp at hf
  | cons q ps ih =>
    rw [searchLookUps, List.mem_append]
    by_cases hq : t.isFileFrom q name
    · simp only [List.find?_cons, hq, Option.some.injEq] at hf
      exact .inl (hf ▸ hx)
    · simp only [List.find?_cons, hq] at hf
      right
      simpa [hq] using ih hf

section Alike
variable (ha : Alike common changed gone t t')
include ha

theorem find?_eq {ps : List Place} (hp : ∀ p ∈ ps, IsCommon common p)
    (hg : Avoids changed gone (searchLookUps t name ps)) :
    ps.find? (fun p => t'.isFileFrom p name) = ps.find? fun p => t.isFileFrom p name := by
  induction ps with
  | nil => rfl
  | cons p ps ih =>
    rw [searchLookUps] at hg
    have hfile := ha.isFileFrom_eq (hp p List.mem_cons_self) hg.left
    rw [List.find?_cons, List.find?_cons, hfile]
    by_cases hf : t.isFileFrom p name
    · simp [hf]
    · have hrest : Avoids changed gone (searchLookUps t name ps) := by simpa [hf] using hg.right
      simp only [hf]
      exact ih (fun q hq => hp q (List.mem_cons_of_mem _ hq)) hrest

theorem nearest?_eq (hp : IsCommon common place)
    (hg : Avoids changed gone (searchLookUps t name (around place))) :
    nearest? t' name place = nearest? t name place :=
  find?_eq ha (isCommon_around hp) hg

theorem text?_eq (hp : IsCommon common place) (hg : Avoids changed gone (t.fileLookUps place name)) :
    text? t' place name = text? t place name := by
  rw [text?, text?, ha.readTextFrom?_eq hp hg]

theorem hex?_eq (hp : IsCommon common place) (hg : Avoids changed gone (t.fileLookUps place name)) :
    hex? t' place name = hex? t place name := by
  rw [hex?, hex?, text?_eq ha hp hg]

theorem interface_eq (hp : IsCommon common place)
    (hg : Avoids changed gone (searchLookUps t interfaceFile (around place))) :
    ((nearest? t' interfaceFile place).bind fun p => hex? t' p interfaceFile) =
      (nearest? t interfaceFile place).bind fun p => hex? t p interfaceFile := by
  rw [nearest?_eq ha hp hg]
  cases hn : nearest? t interfaceFile place with
  | none => rfl
  | some p =>
    have hplace : IsCommon common p := isCommon_around hp p (List.mem_of_find?_eq_some hn)
    exact hex?_eq ha hplace fun x hx => hg x (fileLookUps_of_find? hn hx)

theorem lookUp_eq (hp : IsCommon common place) {e : Uevent}
    (hg : Avoids changed gone (lookUps t place e)) : lookUp t' place e = lookUp t place e := by
  by_cases husb : Bus.ofLinux e.bus = .usb
  · simp only [lookUps, husb, if_true] at hg
    have hinterface := interface_eq ha hp hg.left.left
    have hvendor := nearest?_eq ha hp hg.left.right
    simp only [lookUp, husb, if_true, ofUsb, hinterface, hvendor]
    cases hn : nearest? t vendorFile place with
    | none => rfl
    | some p =>
      have hplace : IsCommon common p := isCommon_around hp p (List.mem_of_find?_eq_some hn)
      have hfile : ∀ name ∈ usbFiles, Avoids changed gone (t.fileLookUps p name) := by
        intro name hname x hx
        apply hg.right x
        rw [hn]
        exact List.mem_flatMap.mpr ⟨name, hname, hx⟩
      simp only [text?_eq ha hplace (hfile "manufacturer" (by decide)),
        text?_eq ha hplace (hfile "product" (by decide)),
        text?_eq ha hplace (hfile "serial" (by decide)),
        hex?_eq ha hplace (hfile "bcdDevice" (by decide))]
  · simp [lookUp, husb]

end Alike

end Attributes

namespace HidrawPaths
variable {p : HidrawPaths} {node : String}

def devicePath (p : HidrawPaths) (node : String) : String :=
  FileTree.join (FileTree.join p.classes node) "device"

theorem deviceOf?_of_error {e : SystemError} (hr : t.resolve (p.devicePath node) true = .error e) :
    p.deviceOf? t node = none := by
  rw [devicePath] at hr
  simp [deviceOf?, hr, Except.toOption]

theorem deviceOf?_of_ok (hr : t.resolve (p.devicePath node) true = .ok place) :
    p.deviceOf? t node =
      ((t.readTextFrom? place "uevent").bind Uevent.read?).map fun e => (place, e) := by
  rw [devicePath] at hr
  cases he : (t.readTextFrom? place "uevent").bind Uevent.read? <;>
    simp [deviceOf?, hr, Except.toOption, he]

def lookUps (p : HidrawPaths) (t : FileTree) (node : String) : List (Nat × String) :=
  t.pathLookUps (p.devicePath node) ++
  match t.resolve (p.devicePath node) true with
  | .error _ => []
  | .ok place =>
    t.fileLookUps place "uevent" ++
    match (t.readTextFrom? place "uevent").bind Uevent.read? with
    | none => []
    | some e => t.fileLookUps place "report_descriptor" ++ Attributes.lookUps t place e

theorem describe?_eq (ha : Alike common changed gone t t') (hg : Avoids changed gone (p.lookUps t node)) :
    p.describe? t' node = p.describe? t node := by
  obtain ⟨hresolve, hplace⟩ := ha.resolve_eq (p.devicePath node) hg.left
  have hg := hg.right
  cases hr : t.resolve (p.devicePath node) true with
  | error e =>
    rw [hr] at hresolve
    rw [describe?, describe?, deviceOf?_of_error hr, deviceOf?_of_error hresolve]
    rfl
  | ok place =>
    rw [hr] at hresolve
    simp only [hr] at hg
    have hp := hplace place hr
    rw [describe?, describe?, deviceOf?_of_ok hr, deviceOf?_of_ok hresolve,
      ha.readTextFrom?_eq hp hg.left]
    cases he : (t.readTextFrom? place "uevent").bind Uevent.read? with
    | none => rfl
    | some e =>
      have hg := hg.right
      simp only [he] at hg
      simp only [Option.map_some, ha.readFrom_eq hp hg.left, Attributes.lookUp_eq ha hp hg.right]

end HidrawPaths

end HidAccess
