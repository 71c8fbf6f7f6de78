import HidAccess.DeviceEntry.Json
import HidAccess.Proofs.Json.RoundTrip

/-! Device entries and lists of them come back from their JSON texts. -/

namespace HidAccess.Json
variable {name : String} {v : Value} {entries : List (StringText × Value)}

theorem int?_ofInt (i : Int) : (Number.ofInt i).int? = some i := by
  by_cases hi : i < 0
  · have habs : i.natAbs ≠ 0 := by omega
    simp only [Number.int?, Number.ofInt, hi, decide_true, habs, if_false, if_true, Bool.not_true,
      Bool.false_eq_true, Option.some.injEq]
    omega
  · simp only [Number.int?, Number.ofInt, hi, decide_false, if_false, Bool.not_true,
      Bool.false_eq_true, Option.some.injEq]
    omega

theorem readInt?_integer {i lo hi : Int} (hlo : lo ≤ i) (hhi : i ≤ hi) :
    readInt? lo hi (integer i) = some i := by
  simp [readInt?, integer, int?_ofInt, hlo, hhi]

theorem readId?_id (n : UInt16) : readId? (id n) = some n := by
  have hn := n.toNat_lt
  rw [readId?, id, readInt?_integer (by omega) (by omega)]
  simp

theorem readInterface?_integer (n : Int32) : readInterface? (integer n.toInt) = some n := by
  have hlo := n.le_toInt
  have hhi := n.toInt_lt
  rw [readInterface?, readInt?_integer (by omega) (by omega), Option.map_some, Int32.ofInt_toInt]

theorem readBus?_name (b : Bus) : readBus? (text b.name) = some b := by
  simp [readBus?, readName?, text, Bus.ofName?_name]

theorem readText?_text (s : String) : readText? (text s) = some s := rfl

theorem readOptional?_optional {α : Type} {f : α → Value} {read : Value → Option α}
    (o : Option α) (hread : ∀ a, read (f a) = some a) (hnull : ∀ a, f a ≠ .null) :
    readOptional? read (optional f o) = some o := by
  rcases o with _ | a
  · rfl
  · rw [optional, readOptional?]
    · rw [hread, Option.map_some]
    · exact hnull a

theorem valuesOf_of_mem (hnames : (entries.map (·.1)).Nodup) (h : (some name, v) ∈ entries) :
    valuesOf name entries = [v] := by
  induction entries with
  | nil => exact absurd h List.not_mem_nil
  | cons e rest ih =>
    rw [List.map_cons, List.nodup_cons] at hnames
    rcases List.mem_cons.mp h with rfl | hrest
    · have hnone : ∀ e ∈ rest, ¬ (e.1 == some name) = true := by
        intro e he heq
        exact hnames.1 (List.mem_map.mpr ⟨e, he, beq_iff_eq.mp heq⟩)
      simp [valuesOf, List.filter_eq_nil_iff.mpr hnone]
    · have hne : e.1 ≠ some name := by
        intro heq
        exact hnames.1 (List.mem_map.mpr ⟨_, hrest, heq.symm⟩)
      have hfound := ih hnames.2 hrest
      simpa [valuesOf, hne] using hfound

theorem required?_of_mem {α : Type} (name : String) {read : Value → Option α} {a : α}
    (hnames : (entries.map (·.1)).Nodup) (h : (some name, v) ∈ entries) (hread : read v = some a) :
    required? read name entries = some a := by
  rw [required?, member?, valuesOf_of_mem hnames h]
  exact hread

theorem allowed?_of_mem {α : Type} (name : String) {read : Value → Option α} {o : Option α}
    (hnames : (entries.map (·.1)).Nodup) (h : (some name, v) ∈ entries)
    (hread : readOptional? read v = some o) : allowed? read name entries = some o := by
  rw [allowed?, member?, valuesOf_of_mem hnames h]
  exact hread

theorem readText?_optional (o : Option String) : readOptional? readText? (optional text o) = some o :=
  readOptional?_optional o readText?_text fun _ h => nomatch h

theorem readId?_optional (o : Option UInt16) : readOptional? readId? (optional id o) = some o :=
  readOptional?_optional o readId?_id fun _ h => nomatch h

end HidAccess.Json

namespace HidAccess

namespace DeviceEntry

def members (e : DeviceEntry) : List (Json.StringText × Json.Value) :=
  match e.toJson with
  | .object entries => entries
  | _ => []

theorem toJson_members (e : DeviceEntry) : e.toJson = .object e.members := rfl

theorem nodup_members (e : DeviceEntry) : (e.members.map (·.1)).Nodup := by
  simp [members, toJson]

theorem ofJson?_toJson (e : DeviceEntry) : ofJson? e.toJson = some e := by
  have hnames := e.nodup_members
  have hnamed : (e.members.any fun entry => entry.1.isNone) = false := by simp [members, toJson]
  have hpath := Json.required?_of_mem "path" hnames (by simp [members, toJson])
    (Json.readText?_text e.path)
  have hvendor := Json.required?_of_mem "vendor_id" hnames (by simp [members, toJson])
    (Json.readId?_id e.vendorId)
  have hproduct := Json.required?_of_mem "product_id" hnames (by simp [members, toJson])
    (Json.readId?_id e.productId)
  have hserial := Json.allowed?_of_mem "serial_number" hnames (by simp [members, toJson])
    (Json.readText?_optional e.serialNumber)
  have hrelease := Json.required?_of_mem "release_number" hnames (by simp [members, toJson])
    (Json.readId?_id e.releaseNumber)
  have hmanufacturer := Json.allowed?_of_mem "manufacturer_string" hnames
    (by simp [members, toJson]) (Json.readText?_optional e.manufacturer)
  have hproductText := Json.allowed?_of_mem "product_string" hnames
    (by simp [members, toJson]) (Json.readText?_optional e.product)
  have hpage := Json.allowed?_of_mem "usage_page" hnames (by simp [members, toJson])
    (Json.readId?_optional e.usagePage)
  have husage := Json.allowed?_of_mem "usage" hnames (by simp [members, toJson])
    (Json.readId?_optional e.usage)
  have hinterface := Json.required?_of_mem "interface_number" hnames
    (by simp [members, toJson]) (Json.readInterface?_integer e.interfaceNumber)
  have hbus := Json.required?_of_mem "bus" hnames (by simp [members, toJson])
    (Json.readBus?_name e.bus)
  rw [toJson_members, ofJson?, ofEntries?, hnamed]
  simp [hpath, hvendor, hproduct, hserial, hrelease, hmanufacturer, hproductText, hpage, husage,
    hinterface, hbus]

theorem readJson?_compact (e : DeviceEntry) : readJson? e.toJson.compact = some e := by
  rw [readJson?, Json.read?_compact, Option.bind_some, ofJson?_toJson]

theorem readJson?_indented (e : DeviceEntry) : readJson? e.toJson.indented = some e := by
  rw [readJson?, Json.read?_indented, Option.bind_some, ofJson?_toJson]

end DeviceEntry

namespace DeviceList

theorem ofJson?_toJson (devices : DeviceList) : ofJson? (toJson devices) = some devices := by
  rw [toJson, ofJson?]
  induction devices with
  | nil => rfl
  | cons e rest ih => simp [DeviceEntry.ofJson?_toJson, ih]

theorem readJson?_compact (devices : DeviceList) :
    readJson? (toJson devices).compact = some devices := by
  rw [readJson?, Json.read?_compact, Option.bind_some, ofJson?_toJson]

theorem readJson?_indented (devices : DeviceList) :
    readJson? (toJson devices).indented = some devices := by
  rw [readJson?, Json.read?_indented, Option.bind_some, ofJson?_toJson]

end DeviceList

/-- What is printed as JSON, in either form, is read back: a list with its entries in the same order,
and an entry that stands alone. -/
theorem json_texts_read_back (devices : DeviceList) (e : DeviceEntry) :
    DeviceList.readJson? (DeviceList.toJson devices).compact = some devices ∧
    DeviceList.readJson? (DeviceList.toJson devices).indented = some devices ∧
    DeviceEntry.readJson? e.toJson.compact = some e ∧
    DeviceEntry.readJson? e.toJson.indented = some e :=
  ⟨DeviceList.readJson?_compact devices, DeviceList.readJson?_indented devices,
    e.readJson?_compact, e.readJson?_indented⟩

end HidAccess
