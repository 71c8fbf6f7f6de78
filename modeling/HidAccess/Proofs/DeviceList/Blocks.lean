import HidAccess.DeviceList
import HidAccess.Proofs.Text.Numeral
import HidAccess.Proofs.Text.Split

/-! The blocks of a listing. The texts of a device are printed as they are, so a listing falls into the lines
and blocks of its devices exactly if none of these texts has a line feed in it. -/

namespace HidAccess

namespace DeviceEntry

def freeTexts (e : DeviceEntry) : List String :=
  [e.manufacturer.getD "", e.path, e.product.getD "", e.serialNumber.getD ""]

def OneLine (e : DeviceEntry) : Prop := ∀ s ∈ e.freeTexts, '\n' ∉ s.toList

end DeviceEntry

namespace DeviceList
variable {α : Type} {isEnd : α → Bool} {as bs part : List α} {parts : List (List α)} {a : α}

def ended (isEnd : α → Bool) (as : List α) : List (List α) := (as.splitOnP isEnd).dropLast

def isLineFeed (c : Char) : Bool := c == '\n'

/-- Other than `Text.lines` this keeps a carriage return before a line feed, which a device may have printed. -/
def lines (cs : List Char) : List (List Char) := ended isLineFeed cs

def blocks (s : String) : List (List (List Char)) := ended List.isEmpty (lines s.toList)

def lineOf (field : String × String) : List Char := field.1.toList ++ " : ".toList ++ field.2.toList

def linesOf (e : DeviceEntry) : List (List Char) := e.fields.map lineOf

def readLine? (line : List Char) : Option (String × String) := do
  let (key, rest) ← Text.splitFirst? ' ' line
  let value ← Text.dropStart? ": ".toList rest
  return (String.ofList key, String.ofList value)

def readBlocks? (s : String) : Option (List (List (String × String))) :=
  (blocks s).mapM fun block => block.mapM readLine?

section Ended

def closed (a : α) (parts : List (List α)) : List α := parts.flatMap (· ++ [a])

theorem closed_cons (a : α) (part : List α) (parts : List (List α)) :
    closed a (part :: parts) = part ++ a :: closed a parts := by
  simp [closed]

theorem closed_append (a : α) (parts parts' : List (List α)) :
    closed a (parts ++ parts') = closed a parts ++ closed a parts' := List.flatMap_append

theorem ended_append_cons (ha : isEnd a) (as bs : List α) :
    ended isEnd (as ++ a :: bs) = as.splitOnP isEnd ++ ended isEnd bs := by
  rw [ended, List.splitOnP_append_cons as bs ha, List.dropLast_append_of_ne_nil (List.splitOnP_ne_nil _ _),
    ended]

theorem ended_closed_append (ha : isEnd a) (parts : List (List α)) (bs : List α) :
    ended isEnd (closed a parts ++ bs) = ended isEnd (closed a parts) ++ ended isEnd bs := by
  induction parts with
  | nil => rfl
  | cons part parts ih =>
    rw [closed_cons, List.append_assoc, List.cons_append, ended_append_cons ha, ended_append_cons ha, ih,
      List.append_assoc]

theorem ended_closed (ha : isEnd a) (h : ∀ part ∈ parts, ∀ a ∈ part, isEnd a = false) :
    ended isEnd (closed a parts) = parts := by
  induction parts with
  | nil => rfl
  | cons part parts ih =>
    obtain ⟨hpart, hparts⟩ := List.forall_mem_cons.mp h
    rw [closed_cons, ended_append_cons ha, List.splitOnP_eq_singleton hpart, ih hparts, List.singleton_append]

theorem mem_of_mem_splitOnP (h : part ∈ as.splitOnP isEnd) (ha : a ∈ part) : a ∈ as ∧ isEnd a = false := by
  induction as generalizing part with
  | nil =>
    rw [List.splitOnP_nil, List.mem_singleton] at h
    simp [h] at ha
  | cons a' as ih =>
    rw [List.splitOnP_cons_eq_if_modifyHead] at h
    split_ifs at h with ha'
    · rcases List.mem_cons.mp h with rfl | h
      · cases ha
      · exact (ih h ha).imp_left (List.mem_cons_of_mem a')
    · obtain ⟨first, parts, hparts⟩ := List.exists_cons_of_ne_nil (List.splitOnP_ne_nil isEnd as)
      rw [hparts, List.modifyHead_cons] at h
      rw [hparts] at ih
      rcases List.mem_cons.mp h with rfl | h
      · rcases List.mem_cons.mp ha with rfl | ha
        · exact ⟨List.mem_cons_self, by simpa using ha'⟩
        · exact (ih List.mem_cons_self ha).imp_left (List.mem_cons_of_mem a')
      · exact (ih (List.mem_cons_of_mem first h) ha).imp_left (List.mem_cons_of_mem a')

theorem mem_of_mem_ended (h : part ∈ ended isEnd as) (ha : a ∈ part) : a ∈ as ∧ isEnd a = false :=
  mem_of_mem_splitOnP ((List.dropLast_sublist _).subset h) ha

end Ended

section Lines
variable {e : DeviceEntry} {devices : DeviceList} {ls : List (List Char)} {line : List Char} {s : String}

theorem toList_block (e : DeviceEntry) : (block e).toList = closed '\n' (linesOf e ++ [[]]) := by
  simp [block, closed, linesOf, List.flatMap_map, fieldLine, lineOf, String.toList_join]

theorem toList_text_cons (e : DeviceEntry) (devices : DeviceList) :
    (text (e :: devices)).toList = closed '\n' (linesOf e ++ [[]]) ++ devices.text.toList := by
  rw [← toList_block]
  simp [text, String.toList_join]

theorem toList_text (devices : DeviceList) :
    devices.text.toList = closed '\n' (closed [] (devices.map linesOf)) := by
  induction devices with
  | nil => rfl
  | cons e devices ih =>
    rw [toList_text_cons, ih, ← closed_append, List.map_cons, closed_cons, List.append_assoc,
      List.singleton_append]

theorem not_mem_of_mem_blocks (h : ls ∈ blocks s) (hline : line ∈ ls) : '\n' ∉ line := by
  intro hmem
  have hend := (mem_of_mem_ended (mem_of_mem_ended h hline).1 hmem).2
  cases hend

theorem linefeed_not_mem_nat (n : Nat) : '\n' ∉ (toString n).toList :=
  Text.Numeral.not_mem_of_digits? (by decide) (Text.Numeral.digits?_decimal n)

theorem linefeed_not_mem_int (i : Int) : '\n' ∉ (toString i).toList := by
  cases i with
  | ofNat n => exact linefeed_not_mem_nat n
  | negSucc n =>
    have hdigits := linefeed_not_mem_nat (n + 1)
    change '\n' ∉ ("-" ++ toString (n + 1)).toList
    rw [String.toList_append, List.mem_append, not_or]
    exact ⟨by decide, hdigits⟩

theorem linefeed_not_mem_idText (n : UInt16) : '\n' ∉ (DeviceEntry.idText n).toList := by
  have hdigits : '\n' ∉ (DeviceEntry.idDigits n).toList :=
    Text.Numeral.not_mem_of_digits? (by decide) (Text.Numeral.digits?_hex 4 n.toNat)
  simpa [DeviceEntry.idText] using hdigits

theorem linefeed_not_mem_optional (n : Option UInt16) :
    '\n' ∉ ((n.map DeviceEntry.idText).getD "").toList := by
  cases n with
  | none => simp
  | some n => exact linefeed_not_mem_idText n

theorem oneLine_iff : e.OneLine ↔ ∀ line ∈ linesOf e, '\n' ∉ line := by
  have hbus : '\n' ∉ e.bus.name.toList := by cases e.bus <;> decide
  have hinterface : '\n' ∉ (toString e.interfaceNumber).toList := linefeed_not_mem_int _
  simp [DeviceEntry.OneLine, DeviceEntry.freeTexts, linesOf, DeviceEntry.fields, lineOf, hbus, hinterface,
    linefeed_not_mem_idText, linefeed_not_mem_optional]

theorem ne_nil_of_mem_linesOf (h : line ∈ linesOf e) : line ≠ [] := by
  obtain ⟨field, -, rfl⟩ := List.mem_map.mp h
  simp [lineOf]

theorem blocks_text (h : ∀ e ∈ devices, e.OneLine) : blocks devices.text = devices.map linesOf := by
  have hlines : ∀ line ∈ closed [] (devices.map linesOf), ∀ c ∈ line, isLineFeed c = false := by
    intro line hmem c hc
    obtain ⟨ls, hls, hline⟩ := List.mem_flatMap.mp hmem
    obtain ⟨e, he, rfl⟩ := List.mem_map.mp hls
    rcases List.mem_append.mp hline with hline | hline
    · have hfeed := oneLine_iff.mp (h e he) line hline
      exact beq_false_of_ne (ne_of_mem_of_not_mem hc hfeed)
    · obtain rfl := List.mem_singleton.mp hline
      cases hc
  have hblocks : ∀ ls ∈ devices.map linesOf, ∀ line ∈ ls, line.isEmpty = false := by
    intro ls hls line hline
    obtain ⟨e, -, rfl⟩ := List.mem_map.mp hls
    simpa using ne_nil_of_mem_linesOf hline
  rw [blocks, toList_text, lines, ended_closed rfl hlines, ended_closed rfl hblocks]

theorem lines_text_cons (e : DeviceEntry) (devices : DeviceList) :
    lines (text (e :: devices)).toList =
      lines (closed '\n' (linesOf e)) ++ [] :: lines devices.text.toList := by
  have hfeed : isLineFeed '\n' := rfl
  have hempty : ended isLineFeed (closed '\n' [[]]) = [[]] := rfl
  rw [toList_text_cons, lines, ended_closed_append hfeed, closed_append, ended_closed_append hfeed,
    hempty, List.append_assoc, List.singleton_append, lines, lines]

theorem blocks_text_cons (e : DeviceEntry) (devices : DeviceList) :
    blocks (text (e :: devices)) = blocks (text [e]) ++ blocks devices.text := by
  have hblocks (devices : DeviceList) : blocks (text (e :: devices)) =
      (lines (closed '\n' (linesOf e))).splitOnP List.isEmpty ++ blocks devices.text := by
    rw [blocks, lines_text_cons, ended_append_cons rfl, blocks]
  have hnone : blocks (text []) = [] := rfl
  rw [hblocks devices, hblocks [], hnone, List.append_nil]

theorem blocks_text_eq_flatMap (devices : DeviceList) :
    blocks devices.text = devices.flatMap fun e => blocks (text [e]) := by
  induction devices with
  | nil => rfl
  | cons e devices ih => rw [blocks_text_cons, ih, List.flatMap_cons]

theorem blocks_text_iff (devices : DeviceList) :
    blocks devices.text = devices.map linesOf ↔ ∀ e ∈ devices, e.OneLine := by
  refine ⟨?_, blocks_text⟩
  intro hblocks e he
  have hmem : linesOf e ∈ blocks devices.text := hblocks ▸ List.mem_map_of_mem he
  exact oneLine_iff.mpr fun line hline => not_mem_of_mem_blocks hmem hline

end Lines

section Reading
variable {β : Type} {f : α → Option β} {g : β → α} {bs : List β} {e : DeviceEntry} {field : String × String}

theorem mapM_eq_some_iff (h : ∀ b ∈ bs, ∀ a, f a = some b ↔ a = g b) :
    as.mapM f = some bs ↔ as = bs.map g := by
  induction as generalizing bs with
  | nil => cases bs <;> simp
  | cons a as ih =>
    cases bs with
    | nil => simp [List.mapM_cons, Option.bind_eq_some_iff]
    | cons b bs =>
      obtain ⟨hb, hbs⟩ := List.forall_mem_cons.mp h
      simp [List.mapM_cons, Option.bind_eq_some_iff, hb, ih hbs]

theorem readLine?_eq_some_iff (hkey : ' ' ∉ field.1.toList) (line : List Char) :
    readLine? line = some field ↔ line = lineOf field := by
  constructor
  · intro h
    obtain ⟨⟨key, rest⟩, hsplit, h⟩ := Option.bind_eq_some_iff.mp h
    obtain ⟨value, hvalue, hfield⟩ := Option.bind_eq_some_iff.mp h
    rw [(Text.splitFirst?_eq_some_iff.mp hsplit).1, Text.dropStart?_eq_some_iff.mp hvalue,
      ← Option.some.inj hfield]
    simp [lineOf]
  · rintro rfl
    simp [readLine?, lineOf, Text.splitFirst?_append hkey, Text.dropStart?]

theorem space_not_mem_key (h : field ∈ e.fields) : ' ' ∉ field.1.toList := by
  have hkeys : ∀ key ∈ e.fields.map Prod.fst, ' ' ∉ key.toList := by
    simp only [DeviceEntry.fields, List.map_cons]
    decide
  exact hkeys field.1 (List.mem_map_of_mem h)

theorem readBlocks?_eq_some_iff (s : String) (devices : DeviceList) :
    readBlocks? s = some (devices.map DeviceEntry.fields) ↔ blocks s = devices.map linesOf := by
  rw [readBlocks?, mapM_eq_some_iff (g := fun fields => fields.map lineOf), List.map_map]
  · rfl
  · intro fields hfields ls
    obtain ⟨e, -, rfl⟩ := List.mem_map.mp hfields
    exact mapM_eq_some_iff fun field hfield => readLine?_eq_some_iff (space_not_mem_key hfield)

end Reading

/-- A listing has one block per device, of the lines of its fields, and is read back field by field exactly if
every text of every device is on one line. A device never alters the blocks of another one. -/
theorem one_block_each_iff (devices : DeviceList) :
    (blocks devices.text = devices.map linesOf ↔ ∀ e ∈ devices, e.OneLine) ∧
    (readBlocks? devices.text = some (devices.map DeviceEntry.fields) ↔ ∀ e ∈ devices, e.OneLine) ∧
    blocks devices.text = devices.flatMap fun e => blocks (text [e]) :=
  ⟨blocks_text_iff devices, (readBlocks?_eq_some_iff _ _).trans (blocks_text_iff devices),
    blocks_text_eq_flatMap devices⟩

def forgedPad : DeviceEntry :=
  { path := "virtual:0", vendorId := 1, productId := 2, product := some "Pad\n\nbus : usb" }

/-- The listing of this pad alone shows two devices, the second of them on the usb bus. -/
theorem forged_block : (blocks (text [forgedPad])).length = 2 ∧
    blocks (text [forgedPad]) ≠ [linesOf forgedPad] ∧
    (blocks (text [forgedPad]))[1]?.bind List.head? = some "bus : usb".toList := by
  simp only [blocks, toList_text]
  decide +kernel

end DeviceList

end HidAccess
