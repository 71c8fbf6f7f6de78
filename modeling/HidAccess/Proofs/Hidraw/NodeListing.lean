import HidAccess.Proofs.Hidraw.LookUps
import HidAccess.Proofs.Hidraw.NodeOrder
import HidAccess.Proofs.Hidraw.Uevent

/-! The listing of the class directory: an entry for each device in it and for nothing else, whatever
else is there, in the order of the numbers. -/

namespace HidAccess.HidrawPaths
open FileTree
variable {p : HidrawPaths} {t t' : FileTree} {names names' : List FileName} {place : Place}
  {common : Nat → Prop} {gone : FileName → Bool}

def IsReadable (p : HidrawPaths) (t : FileTree) (name : String) : Prop :=
  ∃ place entries text, t.resolve (p.devicePath name) true = .ok place ∧
    t.entriesOf? place = some entries ∧ t.readTextFrom? place "uevent" = some text ∧
    Uevent.Describes text

structure IsDevice (p : HidrawPaths) (t : FileTree) (name : String) : Prop where
  node : nodeStart.toList <+: name.toList
  readable : p.IsReadable t name

theorem isNode_iff {name : String} : isNode name ↔ nodeStart.toList <+: name.toList := by
  rw [isNode, Option.isSome_iff_exists]
  constructor
  · rintro ⟨rest, hrest⟩
    exact ⟨rest, (Text.dropStart?_eq_some hrest).symm⟩
  · rintro ⟨rest, hrest⟩
    exact ⟨rest, hrest ▸ Text.dropStart?_append _ _⟩

theorem directory_of_readTextFrom? {name text : String} (h : t.readTextFrom? place name = some text) :
    ∃ entries, t.entriesOf? place = some entries := by
  cases he : t.entriesOf? place with
  | some entries => exact ⟨entries, rfl⟩
  | none => simp [readTextFrom?, readFrom, walk, he, asText, Except.toOption] at h

theorem isSome_describe? {name : String} : (p.describe? t name).isSome ↔ p.IsReadable t name := by
  unfold IsReadable
  rw [describe?, Option.isSome_map]
  cases hr : t.resolve (p.devicePath name) true with
  | error e => simp [deviceOf?_of_error hr]
  | ok place =>
    rw [deviceOf?_of_ok hr, Option.isSome_map]
    cases htext : t.readTextFrom? place "uevent" with
    | none => simp [htext]
    | some text =>
      obtain ⟨entries, he⟩ := directory_of_readTextFrom? htext
      rw [Option.bind_some, Uevent.isSome_read?]
      constructor
      · intro h
        exact ⟨place, entries, text, rfl, he, htext, h⟩
      · rintro ⟨_, _, _, hplace, -, htext', h⟩
        obtain rfl := Except.ok.inj hplace
        rw [htext] at htext'
        exact Option.some.inj htext' ▸ h

theorem isDevice_iff {name : String} : isNode name ∧ (p.describe? t name).isSome ↔ p.IsDevice t name := by
  rw [isNode_iff, isSome_describe?]
  constructor
  · rintro ⟨hnode, hreadable⟩
    exact ⟨hnode, hreadable⟩
  · rintro ⟨hnode, hreadable⟩
    exact ⟨hnode, hreadable⟩

theorem describe?_of_not_isDevice {name : String} (hnode : isNode name) (h : ¬ p.IsDevice t name) :
    p.describe? t name = none := by
  rw [← isDevice_iff] at h
  simpa [hnode] using h

instance (p : HidrawPaths) (t : FileTree) (name : String) : Decidable (p.IsDevice t name) :=
  decidable_of_iff _ isDevice_iff

def devices (p : HidrawPaths) (t : FileTree) (names : List FileName) :
    List (FileName × DeviceEntry) :=
  (inOrder names).filterMap fun name => (p.describe? t name.shown).map fun e => (name, e)

theorem enumerate_of_list (h : t.list p.classes = .ok names) :
    p.enumerate t = .ok ((p.devices t names).map (·.2)) := by
  rw [enumerate, h]
  simp only [sortNodes_shown, devices, List.filterMap_map, List.map_filterMap]
  apply congrArg Except.ok
  apply List.filterMap_congr
  intro name _
  simp [Function.comp_def]

theorem describe?_of_mem {x : FileName × DeviceEntry} (hx : x ∈ p.devices t names) :
    p.describe? t x.1.shown = some x.2 := by
  obtain ⟨name, -, hname⟩ := List.mem_filterMap.mp hx
  obtain ⟨e, he, rfl⟩ := Option.map_eq_some_iff.mp hname
  exact he

theorem path_of_describe? {name : String} {e : DeviceEntry} (h : p.describe? t name = some e) :
    e.path = FileTree.join p.nodes name := by
  obtain ⟨x, -, rfl⟩ := Option.map_eq_some_iff.mp h
  rfl

theorem filter_devices (q : FileName → Bool) :
    (p.devices t names).filter (fun x => q x.1) = p.devices t (names.filter q) := by
  rw [devices, devices, ← filter_inOrder, List.filter_filterMap, List.filterMap_filter]
  apply List.filterMap_congr
  intro name _
  cases p.describe? t name.shown <;> simp [Option.filter_some]

theorem names_of_devices (p : HidrawPaths) (t : FileTree) (names : List FileName) :
    (p.devices t names).map (·.1) = inOrder (names.filter fun name => p.IsDevice t name.shown) := by
  have hnames : (p.devices t names).map (·.1) =
      (inOrder names).filter fun name => (p.describe? t name.shown).isSome := by
    rw [devices, List.map_filterMap, ← List.filterMap_eq_filter]
    apply List.filterMap_congr
    intro name _
    cases hd : p.describe? t name.shown <;> simp [Option.guard, hd]
  have hnodes : (names.filter fun name => (p.describe? t name.shown).isSome).filter
        (fun name => isNode name.shown) =
      (names.filter fun name => p.IsDevice t name.shown).filter fun name => isNode name.shown := by
    rw [List.filter_filter, List.filter_filter]
    apply List.filter_congr
    intro name _
    simp [← isDevice_iff]
  rw [hnames, filter_inOrder, inOrder, inOrder, hnodes]

theorem devices_perm (p : HidrawPaths) (t : FileTree) (names : List FileName) :
    ((p.devices t names).map (·.1)).Perm (names.filter fun name => p.IsDevice t name.shown) := by
  have hnode : ∀ name ∈ names.filter (fun name => p.IsDevice t name.shown), isNode name.shown := by
    intro name hname
    exact (isDevice_iff.mpr (of_decide_eq_true (List.mem_filter.mp hname).2)).1
  have hperm := inOrder_perm (names.filter fun name => p.IsDevice t name.shown)
  rw [List.filter_eq_self.mpr hnode] at hperm
  rwa [names_of_devices]

theorem isDevice_of_mem {x : FileName × DeviceEntry} (hx : x ∈ p.devices t names) :
    x.1 ∈ names ∧ p.IsDevice t x.1.shown := by
  have hname : x.1 ∈ (p.devices t names).map (·.1) := List.mem_map_of_mem hx
  rw [(devices_perm p t names).mem_iff, List.mem_filter, decide_eq_true_eq] at hname
  exact hname

theorem devices_of_filter (p : HidrawPaths) (t : FileTree) (names : List FileName) :
    p.devices t (names.filter fun name => p.IsDevice t name.shown) = p.devices t names := by
  rw [← filter_devices]
  apply List.filter_eq_self.mpr
  intro x hx
  exact decide_eq_true (isDevice_of_mem hx).2

theorem devices_congr (h : ∀ name ∈ names, isNode name.shown →
    p.describe? t' name.shown = p.describe? t name.shown) : p.devices t' names = p.devices t names := by
  apply List.filterMap_congr
  intro name hname
  have hmem := List.mem_filter.mp ((inOrder_perm names).mem_iff.mp hname)
  rw [h name hmem.1 hmem.2]

/-- The class directory before and after names came and went. Neither the directory itself nor what
describes a device that stayed is found by way of those. -/
structure Changed (p : HidrawPaths) (place : Place) (common : Nat → Prop) (gone : FileName → Bool)
    (t t' : FileTree) (names names' : List FileName) : Prop where
  found : t.resolve p.classes true = .ok place
  alike : Alike common place.node gone t t'
  before : t.list p.classes = .ok names
  after : t'.list p.classes = .ok names'
  rest : names'.filter (fun name => !gone name) = names.filter fun name => !gone name
  apart : Avoids place.node gone (t.pathLookUps p.classes)
  restApart : ∀ name ∈ names, gone name = false →
    p.IsDevice t name.shown ∨ p.IsDevice t' name.shown →
    Avoids place.node gone (p.lookUps t name.shown)

theorem Changed.devices_rest (h : Changed p place common gone t t' names names') :
    (p.devices t' names').filter (fun x => !gone x.1) =
      (p.devices t names).filter fun x => !gone x.1 := by
  rw [filter_devices fun name => !gone name, filter_devices fun name => !gone name, h.rest]
  apply devices_congr
  intro name hname hnode
  obtain ⟨hmem, hstays⟩ := List.mem_filter.mp hname
  by_cases hdevice : p.IsDevice t name.shown ∨ p.IsDevice t' name.shown
  · exact describe?_eq h.alike (h.restApart name hmem (by simpa using hstays) hdevice)
  · rw [not_or] at hdevice
    rw [describe?_of_not_isDevice hnode hdevice.1, describe?_of_not_isDevice hnode hdevice.2]

theorem devices_of_broken (hbroken : ∀ name ∈ names, gone name → ¬ p.IsDevice t name.shown) :
    (p.devices t names).filter (fun x => !gone x.1) = p.devices t names := by
  apply List.filter_eq_self.mpr
  intro x hx
  obtain ⟨hmem, hdevice⟩ := isDevice_of_mem hx
  cases hg : gone x.1 with
  | false => rfl
  | true => exact absurd hdevice (hbroken x.1 hmem hg)

theorem Changed.enumerate_eq (h : Changed p place common gone t t' names names')
    (hbroken : ∀ name ∈ names, gone name → ¬ p.IsDevice t name.shown)
    (hbroken' : ∀ name ∈ names', gone name → ¬ p.IsDevice t' name.shown) :
    p.enumerate t' = p.enumerate t := by
  rw [enumerate_of_list h.before, enumerate_of_list h.after, ← devices_of_broken hbroken,
    ← devices_of_broken hbroken', h.devices_rest]

theorem list_of_entries {entries : List (FileName × Nat)} (hr : t.resolve p.classes true = .ok place)
    (he : t.entriesOf? place = some entries) : t.list p.classes = .ok (entries.map (·.1)) := by
  simp only [list, hr, he]

theorem enumerate_of_perm {entries entries' : List (FileName × Nat)}
    (hr : t.resolve p.classes true = .ok place) (he : t.entriesOf? place = some entries)
    (hn : (entries.map (·.1)).Nodup) (hp : entries'.Perm entries)
    (hnumbered : ∀ name ∈ entries.map (·.1), p.IsDevice t name.shown → IsNumbered name) :
    p.enumerate (t.setNode place.node (.directory entries')) = p.enumerate t := by
  have hd : t.nodes[place.node]? = some (.directory entries) := nodes_of_entriesOf? he
  have hn' : (entries'.map (·.1)).Nodup := (hp.map _).nodup_iff.mpr hn
  have ha : Alike (fun _ => True) place.node (fun _ => false) t
      (t.setNode place.node (.directory entries')) :=
    alike_setNode hd fun name _ => lookup_of_perm hp hn' _
  have hall : ∀ lookUps, Avoids place.node (fun _ => false) lookUps := by
    intro lookUps x _
    simp
  have hr' := (ha.resolve_eq p.classes (hall _)).1.trans hr
  have hlt : place.node < t.nodes.length := (List.getElem?_eq_some_iff.mp hd).1
  have he' : (t.setNode place.node (.directory entries')).entriesOf? place = some entries' := by
    simp [entriesOf?, nodeOf?, setNode, hlt]
  rw [enumerate_of_list (list_of_entries hr he), enumerate_of_list (list_of_entries hr' he'),
    devices_congr fun name _ _ => describe?_eq ha (hall _), ← devices_of_filter p t (entries'.map _),
    ← devices_of_filter p t (entries.map _), devices, devices, inOrder_of_perm]
  · exact (hp.map _).filter _
  · intro name hname
    obtain ⟨hmem, hdevice⟩ := List.mem_filter.mp hname
    exact hnumbered name hmem (of_decide_eq_true hdevice)

theorem ascending_of_numbered {entries : List (FileName × Nat)} (hn : (entries.map (·.1)).Nodup)
    (hnumbered : ∀ name ∈ entries.map (·.1), p.IsDevice t name.shown → IsNumbered name) :
    ∃ numbers : List Nat, (p.devices t (entries.map (·.1))).map (·.1) = numbers.map numbered ∧
      numbers.Pairwise (· < ·) := by
  rw [names_of_devices]
  apply inOrder_ascending _ (hn.filter _)
  intro name hname
  obtain ⟨hmem, hdevice⟩ := List.mem_filter.mp hname
  exact hnumbered name hmem (of_decide_eq_true hdevice)

theorem describe?_of_error {name : String} {e : SystemError}
    (hr : t.resolve (p.devicePath name) true = .error e) : p.describe? t name = none := by
  rw [describe?, deviceOf?_of_error hr]
  rfl

section Sample

def sample : HidrawPaths := { classes := "/c", nodes := "/d" }

def sampleEvent : Uevent where
  bus := 5
  vendorId := 1
  productId := 2

def sampleBytes : Bytes := [72, 73, 68, 95, 73, 68, 61, 53, 58, 49, 58, 50, 10]

def sampleEntry (path : String) : DeviceEntry :=
  entryOf path sampleEvent none (Attributes.ofUevent sampleEvent)

/-- Names of the class directory can stand for node 2, which links to its device, and for node 3, which is
no device's but has a directory below it that could be. -/
def sampleTree (entries : List (FileName × Nat)) (target : String) : FileTree where
  nodes := [.directory [(.text "c", 1), (.text "pad", 5)], .directory entries,
    .directory [(.text "device", 4)], .directory [(.text "pad", 5)], .link target,
    .directory [(.text "uevent", 6)], .file sampleBytes]

theorem decode?_sampleBytes : Text.Utf8.decode? sampleBytes = some "HID_ID=5:1:2\n" := by
  decide +kernel

theorem read?_sampleText : Uevent.read? "HID_ID=5:1:2\n" = some sampleEvent := by
  decide +kernel

variable {entries : List (FileName × Nat)} {target name : String}

theorem classes_sampleTree : (sampleTree entries target).resolve sample.classes true = .ok [("c", 1)] ∧
    (sampleTree entries target).pathLookUps sample.classes = [(0, "c")] := by
  have hpath : components sample.classes = ["", "c"] := by decide
  constructor
  · simp +decide [resolve, hpath, walk, sampleTree, entriesOf?, nodeOf?, Place.node]
  · simp +decide [pathLookUps, hpath, FileTree.lookUps, origin, sampleTree, entriesOf?, nodeOf?,
      Place.node]

theorem describe?_noDevice (he : entries.lookup (.text "hidraw1") = some 3) :
    sample.describe? (sampleTree entries target) "hidraw1" = none := by
  have hpath : components (sample.devicePath "hidraw1") = ["", "c", "hidraw1", "device"] := by decide
  have hr : (sampleTree entries target).resolve (sample.devicePath "hidraw1") true =
      .error (.call SystemError.noSuchFile) := by
    simp +decide [resolve, hpath, walk, sampleTree, he, entriesOf?, nodeOf?, Place.node, List.lookup_cons]
  exact describe?_of_error hr

theorem entriesOf?_pad (hp : place.node = 5) :
    (sampleTree entries target).entriesOf? place = some [(.text "uevent", 6)] := by
  simp [entriesOf?, nodeOf?, hp, sampleTree]

theorem readTextFrom?_pad (hp : place.node = 5) :
    (sampleTree entries target).readTextFrom? place "uevent" = some "HID_ID=5:1:2\n" := by
  have hnode : (sampleTree entries target).nodes[6]? = some (.file sampleBytes) := rfl
  have hread : (sampleTree entries target).readFrom place "uevent" = .ok sampleBytes := by
    simp +decide [readFrom, walk, entriesOf?_pad hp, hnode, contentAt, nodeOf?, Place.node]
  rw [readTextFrom?, hread, asText, decode?_sampleBytes]
  rfl

theorem describe?_pad (hp : place.node = 5)
    (hr : (sampleTree entries target).resolve (sample.devicePath name) true = .ok place) :
    sample.describe? (sampleTree entries target) name = some (sampleEntry (FileTree.join "/d" name)) := by
  have hdescriptor : ((sampleTree entries target).readFrom place "report_descriptor").toOption = none := by
    simp +decide [readFrom, walk, entriesOf?_pad hp, List.lookup_cons, Except.toOption]
  rw [describe?, deviceOf?_of_ok hr, readTextFrom?_pad hp, Option.bind_some, read?_sampleText]
  simp only [Option.map_some, hdescriptor]
  rfl

theorem lookUps_sampleTree (hn : name ∈ ["hidraw10", "hidraw2"])
    (he : entries.lookup (.text name) = some 2) :
    sample.lookUps (sampleTree entries "/pad") name =
      [(0, "c"), (1, name), (2, "device"), (0, "pad"), (5, "uevent"), (5, "report_descriptor")] := by
  have hlink : components "/pad" = ["", "pad"] := by decide
  have hpath : components (sample.devicePath name) = ["", "c", name, "device"] := by
    simp only [List.mem_cons, List.not_mem_nil, or_false] at hn
    rcases hn with rfl | rfl <;> decide
  have hway : (sampleTree entries "/pad").resolve (sample.devicePath name) true = .ok [("pad", 5)] ∧
      (sampleTree entries "/pad").pathLookUps (sample.devicePath name) =
        [(0, "c"), (1, name), (2, "device"), (0, "pad")] := by
    simp only [List.mem_cons, List.not_mem_nil, or_false] at hn
    rcases hn with rfl | rfl <;> constructor <;>
      simp +decide [resolve, pathLookUps, hpath, walk, FileTree.lookUps, hlink, sampleTree, he, origin,
        entriesOf?, nodeOf?, Place.node, List.lookup_cons, maxLinks]
  have hfiles : ∀ file ∈ ["uevent", "report_descriptor"],
      (sampleTree entries "/pad").fileLookUps [("pad", 5)] file = [(5, file)] := by
    intro file hfile
    simp only [List.mem_cons, List.not_mem_nil, or_false] at hfile
    rcases hfile with rfl | rfl <;>
      simp +decide [fileLookUps, FileTree.lookUps, sampleTree, entriesOf?, nodeOf?, Place.node,
        List.lookup_cons]
  rw [HidrawPaths.lookUps, hway.2, hway.1]
  simp only [readTextFrom?_pad (show Place.node [("pad", 5)] = 5 from rfl), Option.bind_some, read?_sampleText,
    hfiles "uevent" (by decide), hfiles "report_descriptor" (by decide)]
  rfl

end Sample

/-- The listing has each device of the class directory once and nothing else. Whatever names come and go,
it stays as it is for the others, unless one of these is found by way of those. Devices with numbered
names are in the order of the numbers, whatever order the directory is read in. -/
theorem enumerate_complete_isolated_ascending (p : HidrawPaths) (t : FileTree) :
    (∀ names, t.list p.classes = .ok names →
      p.enumerate t = .ok ((p.devices t names).map (·.2)) ∧
      ((p.devices t names).map (·.1)).Perm (names.filter fun name => p.IsDevice t name.shown) ∧
      ∀ x ∈ p.devices t names,
        p.describe? t x.1.shown = some x.2 ∧ x.2.path = FileTree.join p.nodes x.1.shown) ∧
    (∀ place common gone t' names names', Changed p place common gone t t' names names' →
      (p.devices t' names').filter (fun x => !gone x.1) =
        (p.devices t names).filter (fun x => !gone x.1) ∧
      ((∀ name ∈ names, gone name → ¬ p.IsDevice t name.shown) →
        (∀ name ∈ names', gone name → ¬ p.IsDevice t' name.shown) →
        p.enumerate t' = p.enumerate t)) ∧
    ∀ place entries, t.resolve p.classes true = .ok place → t.entriesOf? place = some entries →
      (entries.map (·.1)).Nodup →
      (∀ name ∈ entries.map (·.1), p.IsDevice t name.shown → IsNumbered name) →
      (∃ numbers : List Nat, (p.devices t (entries.map (·.1))).map (·.1) = numbers.map numbered ∧
        numbers.Pairwise (· < ·)) ∧
      ∀ entries', entries'.Perm entries →
        p.enumerate (t.setNode place.node (.directory entries')) = p.enumerate t := by
  refine ⟨?complete, ?isolated, ?ascending⟩
  case complete =>
    intro names hnames
    refine ⟨enumerate_of_list hnames, devices_perm p t names, ?_⟩
    intro x hx
    have hdescribe := describe?_of_mem hx
    exact ⟨hdescribe, path_of_describe? hdescribe⟩
  case isolated =>
    intro place common gone t' names names' hchanged
    exact ⟨hchanged.devices_rest, hchanged.enumerate_eq⟩
  case ascending =>
    intro place entries hplace hentries hnodup hnumbered
    refine ⟨ascending_of_numbered hnodup hnumbered, ?_⟩
    intro entries' hperm
    exact enumerate_of_perm hplace hentries hnodup hperm hnumbered

def numberedEntries : List (FileName × Nat) := [(.text "hidraw10", 2), (.text "hidraw2", 2)]

def widerEntries : List (FileName × Nat) :=
  [(.text "hidraw10", 2), (.text "hidraw1", 3), (.text "hidraw2", 2)]

theorem changed_sampleTree :
    Changed sample [("c", 1)] (fun _ => True) (· == .text "hidraw1") (sampleTree widerEntries "/pad")
      (sampleTree numberedEntries "/pad") (widerEntries.map (·.1)) (numberedEntries.map (·.1)) where
  found := classes_sampleTree.1
  alike := by
    have hnode : (sampleTree widerEntries "/pad").nodes[1]? = some (.directory widerEntries) := rfl
    have hset : (sampleTree widerEntries "/pad").setNode 1 (.directory numberedEntries) =
        sampleTree numberedEntries "/pad" := rfl
    rw [← hset]
    apply alike_setNode hnode
    intro name hname
    have hother : (name == "hidraw1") = false := by simpa using hname
    simp [numberedEntries, widerEntries, List.lookup_cons, hother]
  before := list_of_entries classes_sampleTree.1 rfl
  after := list_of_entries classes_sampleTree.1 rfl
  rest := rfl
  apart := by
    rw [classes_sampleTree.2]
    decide
  restApart := by
    intro name hname hstays _
    simp only [widerEntries, List.map_cons, List.map_nil, List.mem_cons, List.not_mem_nil,
      or_false] at hname
    rcases hname with rfl | rfl | rfl
    · rw [FileName.shown_text, lookUps_sampleTree (by decide) rfl]
      decide
    · cases hstays
    · rw [FileName.shown_text, lookUps_sampleTree (by decide) rfl]
      decide

theorem enumerate_sampleTree :
    sample.enumerate (sampleTree numberedEntries "/pad") =
      sample.enumerate (sampleTree widerEntries "/pad") ∧
    (∃ numbers : List Nat,
      (sample.devices (sampleTree numberedEntries "/pad") (numberedEntries.map (·.1))).map (·.1) =
        numbers.map numbered ∧ numbers.Pairwise (· < ·)) ∧
    sample.enumerate (sampleTree numberedEntries.reverse "/pad") =
      sample.enumerate (sampleTree numberedEntries "/pad") := by
  have hnumbered : ∀ name ∈ numberedEntries.map (·.1), IsNumbered name := by
    intro name hname
    simp only [numberedEntries, List.map_cons, List.map_nil, List.mem_cons, List.not_mem_nil,
      or_false] at hname
    rcases hname with rfl | rfl
    · exact ⟨10, by decide, by decide⟩
    · exact ⟨2, by decide, by decide⟩
  obtain ⟨-, hisolated, -⟩ :=
    enumerate_complete_isolated_ascending sample (sampleTree widerEntries "/pad")
  obtain ⟨-, -, hascending⟩ :=
    enumerate_complete_isolated_ascending sample (sampleTree numberedEntries "/pad")
  obtain ⟨hnumbers, hread⟩ := hascending [("c", 1)] numberedEntries classes_sampleTree.1 rfl (by decide)
    fun name hname _ => hnumbered name hname
  refine ⟨?_, hnumbers, hread numberedEntries.reverse (List.reverse_perm _)⟩
  apply (hisolated _ _ _ _ _ _ changed_sampleTree).2
  · intro name _ hname hdevice
    obtain rfl := eq_of_beq hname
    rw [← isDevice_iff, FileName.shown_text, describe?_noDevice rfl] at hdevice
    simp at hdevice
  · intro name hmem hname
    obtain rfl := eq_of_beq hname
    simp [numberedEntries] at hmem

def undecoded : FileName := .octets [104, 105, 100, 114, 97, 119, 255] (by decide)

theorem shown_undecoded : undecoded.shown = "hidraw\uFFFD" := by
  decide +kernel

def lossyEntries : List (FileName × Nat) := [(.text "hidraw\uFFFD", 2), (undecoded, 2)]

/-- A name that is no device's can stand on the way to a device, and a name that is no text is taken for
one that is. -/
theorem names_lead_to_each_other :
    sample.enumerate (sampleTree ((.text "hidraw1", 3) :: lossyEntries) "../hidraw1/pad") =
      .ok [sampleEntry "/d/hidraw\uFFFD", sampleEntry "/d/hidraw\uFFFD"] ∧
    ¬ sample.IsDevice (sampleTree ((.text "hidraw1", 3) :: lossyEntries) "../hidraw1/pad") "hidraw1" ∧
    (sampleTree ((.text "hidraw1", 3) :: lossyEntries) "../hidraw1/pad").remove? "/c/hidraw1" =
      some (sampleTree lossyEntries "../hidraw1/pad") ∧
    sample.enumerate (sampleTree lossyEntries "../hidraw1/pad") = .ok [] := by
  have hpath : components (sample.devicePath "hidraw\uFFFD") = ["", "c", "hidraw\uFFFD", "device"] := by
    decide
  have hlink : components "../hidraw1/pad" = ["..", "hidraw1", "pad"] := by decide
  refine ⟨?listed, ?noDevice, ?removed, ?unlisted⟩
  case listed =>
    have hr : (sampleTree ((.text "hidraw1", 3) :: lossyEntries) "../hidraw1/pad").resolve
        (sample.devicePath "hidraw\uFFFD") true = .ok [("pad", 5), ("hidraw1", 3), ("c", 1)] := by
      simp +decide [resolve, hpath, walk, hlink, sampleTree, lossyEntries, entriesOf?, nodeOf?,
        Place.node, List.lookup_cons, maxLinks]
    have hsort : sortNodes ["hidraw1", "hidraw\uFFFD", "hidraw\uFFFD"] =
        ["hidraw1", "hidraw\uFFFD", "hidraw\uFFFD"] := by
      rw [sortNodes, List.filter_eq_self.mpr (by decide)]
      exact List.mergeSort_of_pairwise (by decide)
    have hnames : (((.text "hidraw1", 3) :: lossyEntries).map (·.1)).map FileName.shown =
        ["hidraw1", "hidraw\uFFFD", "hidraw\uFFFD"] := by
      simp [lossyEntries, shown_undecoded]
    have hother : sample.describe? (sampleTree ((.text "hidraw1", 3) :: lossyEntries) "../hidraw1/pad")
        "hidraw1" = none := describe?_noDevice rfl
    rw [enumerate, list_of_entries classes_sampleTree.1 rfl]
    simp only [hnames, hsort, List.filterMap_cons, List.filterMap_nil, hother, describe?_pad rfl hr]
    rfl
  case noDevice =>
    rw [← isDevice_iff, describe?_noDevice rfl]
    simp
  case removed =>
    have hother : components "/c/hidraw1" = ["", "c", "hidraw1"] := by decide
    simp +decide [remove?, resolve, hother, walk, sampleTree, lossyEntries, undecoded, entriesOf?,
      nodeOf?, Place.node, setNode]
  case unlisted =>
    have hr : (sampleTree lossyEntries "../hidraw1/pad").resolve (sample.devicePath "hidraw\uFFFD") true =
        .error (.call SystemError.noSuchFile) := by
      simp +decide [resolve, hpath, walk, hlink, sampleTree, lossyEntries, undecoded, entriesOf?,
        nodeOf?, Place.node, List.lookup_cons, maxLinks]
    have hsort : sortNodes ["hidraw\uFFFD", "hidraw\uFFFD"] = ["hidraw\uFFFD", "hidraw\uFFFD"] := by
      rw [sortNodes, List.filter_eq_self.mpr (by decide)]
      exact List.mergeSort_of_pairwise (by decide)
    have hnames : (lossyEntries.map (·.1)).map FileName.shown = ["hidraw\uFFFD", "hidraw\uFFFD"] := by
      simp [lossyEntries, shown_undecoded]
    rw [enumerate, list_of_entries classes_sampleTree.1 rfl]
    simp only [hnames, hsort, List.filterMap_cons, List.filterMap_nil, describe?_of_error hr]

end HidAccess.HidrawPaths
