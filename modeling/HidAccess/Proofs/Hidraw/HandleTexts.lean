import HidAccess.Proofs.FileTree.Names
import HidAccess.Proofs.Handle.Texts
import HidAccess.Proofs.Hidraw.Ancestry
import HidAccess.Proofs.Hidraw.NodeListing

/-! The strings of an open handle are those of the listed device. The listing comes to a device by a name
of the class directory, the opening by the last name on a path. -/

namespace HidAccess.HidrawPaths
open FileTree
variable {p : HidrawPaths} {t t' : FileTree} {e : DeviceEntry} {devices : DeviceList}

def manager (p : HidrawPaths) (interval : Duration) : Manager (Clocked FileTree) HidrawNode where
  backend := p.backend.clocked
  interval

def platform (p : HidrawPaths) : Platform (Clocked FileTree) HidrawNode :=
  p.backend.clocked.toDeviceCalls.alone Clocked.clock

theorem exists_of_mem_enumerate (h : p.enumerate t = .ok devices) (he : e ∈ devices) :
    ∃ names, t.list p.classes = .ok names ∧
      ∃ name ∈ names, isNode name.shown ∧ p.describe? t name.shown = some e := by
  cases hlist : t.list p.classes with
  | error x =>
    rw [enumerate, hlist] at h
    simp only at h
    split_ifs at h
    rcases Except.ok.inj h
    simp at he
  | ok names =>
    rw [enumerate_of_list hlist] at h
    rcases Except.ok.inj h
    rcases List.mem_map.mp he with ⟨x, hx, rfl⟩
    rcases isDevice_of_mem hx with ⟨hmem, hdevice⟩
    exact ⟨names, rfl, x.1, hmem, (isDevice_iff.mpr hdevice).1, describe?_of_mem hx⟩

theorem texts_of_describe? {name : String} (h : p.describe? t name = some e) :
    (((p.deviceOf? t name).map fun (place, event) => (Attributes.lookUp t place event).texts)) =
      some e.texts := by
  rcases Option.map_eq_some_iff.mp h with ⟨⟨place, event⟩, hdevice, rfl⟩
  rw [hdevice]
  rfl

theorem textsFor_of_describe? {path name : String} (hpath : fileName? path = some name)
    (h : p.describe? t name = some e) : p.textsFor t path = e.texts := by
  have htexts := texts_of_describe? h
  rw [textsFor, hpath, Option.bind_some]
  rcases hdevice : p.deviceOf? t name with _ | ⟨place, event⟩
  · simp [hdevice] at htexts
  · simpa [hdevice] using htexts

theorem openFile_unchanged (t : FileTree) (path : String) :
    (t.openFile path).2.nodes = t.nodes ∧ (t.openFile path).2.working = t.working := by
  rw [openFile]
  split
  · exact ⟨rfl, rfl⟩
  · split <;> exact ⟨rfl, rfl⟩

theorem alike_of_nodes {names : List FileName} (hlist : t.list p.classes = .ok names)
    (hnodes : t'.nodes = t.nodes) (hworking : t'.working = t.working) :
    ∃ changed, Alike (fun _ => True) changed (fun _ => false) t t' := by
  -- Any directory will do for the one in which the trees may differ; the class directory is one.
  obtain ⟨place, entries, hentries⟩ : ∃ place entries, t.entriesOf? place = some entries := by
    simp only [list] at hlist
    split at hlist
    · simp at hlist
    next place _ =>
      rcases hentries : t.entriesOf? place with _ | entries
      · simp [hentries] at hlist
      · exact ⟨place, entries, hentries⟩
  have hd := nodes_of_entriesOf? hentries
  exact ⟨place.node, {
    working := hworking
    root := trivial
    start := fun _ _ => trivial
    nodes := fun n _ _ => by rw [hnodes]
    directory := ⟨entries, entries, hd, hnodes ▸ hd, fun _ _ => rfl⟩
    children := fun _ _ _ _ _ _ _ _ => trivial }⟩

theorem describe?_openFile {names : List FileName} (hlist : t.list p.classes = .ok names)
    (path name : String) : p.describe? (t.openFile path).2 name = p.describe? t name := by
  rcases openFile_unchanged t path with ⟨hnodes, hworking⟩
  rcases alike_of_nodes hlist hnodes hworking with ⟨changed, ha⟩
  exact describe?_eq ha fun x _ => by simp

theorem not_special_of_isNode {name : String} (h : isNode name) : name ∉ ["", ".", ".."] := by
  intro hmem
  simp only [List.mem_cons, List.not_mem_nil, or_false] at hmem
  rcases hmem with rfl | rfl | rfl <;> exact absurd h (by decide)

theorem texts_of_opened {names : List FileName} (hlist : t.list p.classes = .ok names)
    (hsingle : ∀ name ∈ names, name.IsSingle) (h : p.enumerate t = .ok devices) (he : e ∈ devices)
    {node : HidrawNode} (ho : p.openPath e.path t = (.ok node, t')) : node.texts = e.texts := by
  rcases exists_of_mem_enumerate h he with ⟨names', hlist', name, hmem, hnode, hdescribe⟩
  obtain rfl : names = names' := Except.ok.inj (hlist.symm.trans hlist')
  have hname : fileName? e.path = some name.shown := by
    rw [path_of_describe? hdescribe]
    exact fileName?_join (hsingle name hmem).shown (not_special_of_isNode hnode) p.nodes
  rw [openPath] at ho
  rcases hx : t.openFile e.path with ⟨_ | file, t₁⟩
  · simp [hx] at ho
  · have hafter : p.describe? t₁ name.shown = some e := by
      have hsame := describe?_openFile hlist e.path name.shown
      rw [hx] at hsame
      exact hsame.trans hdescribe
    simp only [hx, Prod.mk.injEq, Except.ok.injEq] at ho
    rw [← ho.1]
    exact textsFor_of_describe? hname hafter

theorem perform_text {h : Handle HidrawNode} {node : HidrawNode} (hl : h.live? = some node)
    (query : StringQuery) (w : Clocked FileTree) :
    (Handle.perform p.platform (.text query) h w).1 = .ofExcept .text (textOf node query) := by
  rw [platform, Handle.perform_text_of_live _ _ hl, Prod.map_fst, Handle.fst_settle]
  rfl

/-- Wherever a listed device can be opened at its path, the handle answers with the strings of the
listing for as long as it has the device, whatever becomes of the tree. -/
theorem opened_texts_listed {interval : Duration} {w w' : Clocked FileTree} {h : Handle HidrawNode}
    (hsingle : ∀ names, w.state.list p.classes = .ok names → ∀ name ∈ names, name.IsSingle)
    (hlist : p.enumerate w.state = .ok devices) (he : e ∈ devices)
    (ho : (p.manager interval).openPath e.path w = (.ok h, w')) :
    ∀ h' later, h'.live? = h.live? →
      (Handle.perform p.platform (.text .manufacturer) h' later).1 = .text e.manufacturer ∧
      (Handle.perform p.platform (.text .product) h' later).1 = .text e.product ∧
      (Handle.perform p.platform (.text .serial) h' later).1 = .text e.serialNumber := by
  intro h' later hlive
  rcases Manager.opened_of_openPath ho with ⟨node, hopen, hnode⟩
  rcases exists_of_mem_enumerate hlist he with ⟨names, hnames, -⟩
  have htexts := texts_of_opened hnames (hsingle names hnames) hlist he hopen
  have hanswer : ∀ query, (Handle.perform p.platform (.text query) h' later).1 =
      .ofExcept .text (textOf node query) :=
    fun query => perform_text (hlive.trans hnode) query later
  simp only [hanswer, textOf, htexts, DeviceTexts.get, DeviceEntry.texts, Handle.Answer.ofExcept,
    and_self]

section Pad

def padEvent : Uevent where
  bus := 3
  vendorId := 1
  productId := 2
  name := some "Pad"

def padBytes : Bytes :=
  [72, 73, 68, 95, 73, 68, 61, 51, 58, 49, 58, 50, 10, 72, 73, 68, 95, 78, 65, 77, 69, 61, 80, 97, 100, 10]

def padTree : FileTree where
  nodes := [.directory [(.text "c", 1), (.text "d", 2), (.text "usb", 3)],
    .directory [(.text "hidraw0", 4)], .directory [(.text "hidraw0", 5)],
    .directory [(.text "idVendor", 6), (.text "manufacturer", 7), (.text "product", 8), (.text "hid", 9)],
    .directory [(.text "device", 10)], .file [], .file [49], .file [65, 99, 109, 101, 10], .file [32, 10],
    .directory [(.text "uevent", 11)], .link "/usb/hid", .file padBytes]

def padPlace : Place := [("hid", 9), ("usb", 3)]

def padEntry : DeviceEntry where
  path := "/d/hidraw0"
  vendorId := 1
  productId := 2
  manufacturer := some "Acme"
  product := some "Pad"
  bus := .usb

theorem list_padTree : padTree.list sample.classes = .ok [.text "hidraw0"] := by
  have hpath : components sample.classes = ["", "c"] := by decide
  simp +decide [FileTree.list, resolve, hpath, walk, padTree, entriesOf?, nodeOf?, Place.node]

theorem deviceOf?_padTree : sample.deviceOf? padTree "hidraw0" = some (padPlace, padEvent) := by
  have hpath : components (sample.devicePath "hidraw0") = ["", "c", "hidraw0", "device"] := by decide
  have hlink : components "/usb/hid" = ["", "usb", "hid"] := by decide
  have hr : padTree.resolve (sample.devicePath "hidraw0") true = .ok padPlace := by
    simp +decide [resolve, hpath, walk, hlink, padTree, padPlace, entriesOf?, nodeOf?, Place.node,
      List.lookup_cons, maxLinks]
  have hread : padTree.readFrom padPlace "uevent" = .ok padBytes := by
    simp +decide [readFrom, contentAt, walk, padTree, padPlace, entriesOf?, nodeOf?, Place.node]
  have hdecode : Text.Utf8.decode? padBytes = some "HID_ID=3:1:2\nHID_NAME=Pad\n" := by decide +kernel
  have hevent : Uevent.read? "HID_ID=3:1:2\nHID_NAME=Pad\n" = some padEvent := by decide +kernel
  rw [deviceOf?_of_ok hr, readTextFrom?, hread, asText, hdecode, Except.toOption, Option.bind_some,
    hevent]
  rfl

theorem lookUp_padTree : Attributes.lookUp padTree padPlace padEvent =
    { texts := { manufacturer := some "Acme", product := some "Pad" } } := by
  have husb : Attributes.nearest? padTree Attributes.vendorFile padPlace = some [("usb", 3)] := by
    simp +decide [Attributes.nearest?_cons, isFileFrom, walk, padTree, padPlace, entriesOf?, nodeOf?,
      Place.node, Attributes.vendorFile]
  have hinterface : Attributes.nearest? padTree Attributes.interfaceFile padPlace = none := by
    simp +decide [Attributes.nearest?_cons, isFileFrom, walk, padTree, padPlace, entriesOf?, nodeOf?,
      Place.node, Attributes.interfaceFile]
  have hread (name : String) (hname : name ∈ ["manufacturer", "product", "serial", "bcdDevice"]) :
      padTree.readFrom [("usb", 3)] name = if name = "manufacturer" then .ok [65, 99, 109, 101, 10]
        else if name = "product" then .ok [32, 10] else .error (.call SystemError.noSuchFile) := by
    revert name
    simp +decide [readFrom, contentAt, walk, padTree, entriesOf?, nodeOf?, Place.node]
  have hmanufacturer : Attributes.text? padTree [("usb", 3)] "manufacturer" = some "Acme" := by
    have hdecode : Text.Utf8.decode? [65, 99, 109, 101, 10] = some "Acme\n" := by decide +kernel
    rw [Attributes.text?_of_ok (hread "manufacturer" (by simp)) hdecode]
    decide +kernel
  have hproduct : Attributes.text? padTree [("usb", 3)] "product" = none := by
    have hdecode : Text.Utf8.decode? [32, 10] = some " \n" := by decide +kernel
    rw [Attributes.text?_of_ok (hread "product" (by simp)) hdecode]
    decide +kernel
  have hserial : Attributes.text? padTree [("usb", 3)] "serial" = none :=
    Attributes.text?_of_error (hread "serial" (by simp))
  have hrelease : Attributes.hex? padTree [("usb", 3)] "bcdDevice" = none := by
    rw [Attributes.hex?, Attributes.text?_of_error (hread "bcdDevice" (by simp))]
    rfl
  simp [Attributes.lookUp, padEvent, Bus.ofLinux, Attributes.ofUsb, husb, hinterface, hmanufacturer,
    hproduct, hserial, hrelease]

theorem enumerate_padTree : sample.enumerate padTree = .ok [padEntry] := by
  have hnone : (padTree.readFrom padPlace "report_descriptor").toOption = none := by
    simp +decide [readFrom, walk, padTree, padPlace, entriesOf?, nodeOf?, Place.node, Except.toOption]
  have hdescribe : sample.describe? padTree "hidraw0" = some padEntry := by
    rw [describe?, deviceOf?_padTree]
    simp only [Option.map_some, hnone, lookUp_padTree]
    decide
  have hsort : sortNodes ["hidraw0"] = ["hidraw0"] := by
    have hnode : isNode "hidraw0" = true := by decide +kernel
    rw [sortNodes, List.filter_cons_of_pos hnode, List.filter_nil, List.mergeSort_singleton]
  rw [enumerate, list_padTree]
  simp [hsort, hdescribe]

theorem openFile_padTree : padTree.openFile "/d/hidraw0" =
    (.ok 0, { padTree with openFiles := [{ node := 5 }] }) := by
  have hpath : components "/d/hidraw0" = ["", "d", "hidraw0"] := by decide
  simp +decide [openFile, resolve, hpath, walk, padTree, entriesOf?, nodeOf?, Place.node, List.lookup_cons]

theorem pad_texts_listed : ∃ h w',
    (sample.manager 0).openPath padEntry.path { state := padTree } = (.ok h, w') ∧
    ∀ later,
      (Handle.perform sample.platform (.text .manufacturer) h later).1 = .text (some "Acme") ∧
      (Handle.perform sample.platform (.text .product) h later).1 = .text (some "Pad") ∧
      (Handle.perform sample.platform (.text .serial) h later).1 = .text none := by
  obtain ⟨h, w', ho⟩ : ∃ h w',
      (sample.manager 0).openPath padEntry.path { state := padTree } = (.ok h, w') := by
    rw [manager, Manager.openPath_clocked, show sample.backend.openPath = sample.openPath from rfl, openPath,
      show padEntry.path = "/d/hidraw0" from rfl, openFile_padTree]
    exact ⟨_, _, rfl⟩
  refine ⟨h, w', ho, ?_⟩
  intro later
  refine opened_texts_listed ?_ enumerate_padTree List.mem_cons_self ho h later rfl
  intro names hnames
  obtain rfl := Except.ok.inj (list_padTree.symm.trans hnames)
  decide

end Pad

end HidAccess.HidrawPaths
