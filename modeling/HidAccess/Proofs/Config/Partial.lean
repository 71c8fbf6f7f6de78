import HidAccess.Proofs.Config.Toml

/-! A document may give any of the settings, in tables in any order and beside anything else. -/

namespace HidAccess.Config
open Toml (Table)
variable {build : Build} {g : Given} {t : Table} {text : String}

structure Answers (build : Build) (text : String) (g : Given) : Prop where
  usable : Usable build g.settings → ofToml build text = .ok g.settings
  unusable : ¬ Usable build g.settings → ∃ m, ofToml build text = .error (.config m)

theorem answers_of_read? (hread : Toml.read? text = some t) (hgives : Gives t g) : Answers build text g := by
  have htable : (Toml.read? text).bind ofTable? = some g.settings := by
    rw [hread, Option.bind_some, ofTable?_of_gives hgives]
  obtain ⟨husable, hvalid⟩ | ⟨hunusable, m, hinvalid⟩ := validate_cases build g.settings
  · refine ⟨fun _ => ?_, fun h => absurd husable h⟩
    simp only [ofToml, htable, hvalid]
  · refine ⟨fun h => absurd h hunusable, fun _ => ⟨m, ?_⟩⟩
    simp only [ofToml, htable, hinvalid]

/-- A document of keys and tables in any order, however they are laid out, and every other text that is
read as a table, gives its settings with the defaults for those that it lacks if a build can work with
these, and else an error. -/
theorem partial_documents (build : Build) :
    (∀ (d : Toml.Document) (g : Given), Gives d.table g → Answers build d.text g) ∧
    ∀ (text : String) (t : Table) (g : Given), Toml.read? text = some t → Gives t g → Answers build text g :=
  ⟨fun d _ hgives => answers_of_read? d.read?_text hgives, fun _ _ _ => answers_of_read?⟩

section Pad

def padItems : List (Toml.Item 78) :=
  [{ text := (toString 1).toList
     value := .integer 1
     after := { lines := [{ gap := Toml.oneBlank, comment := some ⟨" wide".toList, by decide⟩ }] }
     isValue := (Toml.isScalar_toString (by decide)).isValue 78 },
   { text := (Toml.stringText "b").toList
     value := .string "b"
     isValue := (Toml.isScalar_stringText "b").isValue 78 }]

def padBinding : Toml.Binding 78 where
  path := { first := { key := .bare "on" (by decide) }, more := [{ key := .literal "x" (by decide) }] }
  text := (toString false).toList
  value := .boolean false
  isValue := (Toml.isScalar_boolean false).isValue 78

def padDocument : Toml.Document where
  lines := [
    .setting [{ comment := some ⟨" pads".toList, by decide⟩ }]
      (.plain "padded" (by decide) ((Toml.isScalar_boolean true).isValue 79)),
    .header [{}] { loggingHeader with ending := { hasReturn := true } },
    .setting [] (levelSetting "debug"),
    .header []
      { path := { first := { key := .bare "pads" (by decide) }, more := [{ key := .quoted "left one" }] } },
    .setting [] (.plain "size" (by decide) (Toml.isValue_array padItems none {})),
    .setting [] (.plain "keys" (by decide) (Toml.isValue_tableInPlace [padBinding] Toml.noGap (by simp))),
    .header [] backendHeader,
    .setting [] (kindSetting .virtual)]
  distinct := by decide

example : padDocument.text = "# pads\npadded = true\n\n[logging]\r\nlevel = \"debug\"\n" ++
    "[pads.\"left one\"]\nsize = [1 # wide\n,\"b\",]\nkeys = \x7bon.'x'=false\x7d\n" ++
    "[backend]\nkind = \"virtual\"\n" := by
  decide +kernel

theorem gives_padDocument :
    Gives padDocument.table { kind := some .virtual, logLevel := some "debug" } where
  tables := by
    simp only [List.mem_cons, List.not_mem_nil, or_false, forall_eq_or_imp, forall_eq]
    refine ⟨fun v hv => ?_, fun v hv => ?_, fun v hv => ?_⟩
    · exact ⟨_, (Option.some.inj hv).symm⟩
    · cases hv
    · exact ⟨_, (Option.some.inj hv).symm⟩
  kind := rfl
  interval := rfl
  length := rfl
  level := rfl

def dottedText : String := "read.default_report_len = 0 # bytes\n[[pads]]\n"

def isDottedTable : Option Table → Bool
  | some [(read, .table [(length, .integer n)]), (pads, .array [.table []])] =>
    decide (read = "read" ∧ length = "default_report_len" ∧ n = 0 ∧ pads = "pads")
  | _ => false

theorem eq_of_isDottedTable {o : Option Table} (h : isDottedTable o = true) :
    o = some [("read", .table [("default_report_len", .integer 0)]), ("pads", .array [.table []])] := by
  unfold isDottedTable at h
  split at h
  · obtain ⟨rfl, rfl, rfl, rfl⟩ := of_decide_eq_true h
    rfl
  · cases h

theorem pad_document_answered :
    ofToml .standard padDocument.text = .ok { kind := some .virtual, logLevel := "debug" } ∧
    ∃ m, ofToml .standard dottedText = .error (.config m) := by
  obtain ⟨hdocument, htext⟩ := partial_documents .standard
  have hread := eq_of_isDottedTable (o := Toml.read? dottedText) (by decide +kernel)
  have hgives : Gives [("read", .table [("default_report_len", .integer 0)]), ("pads", .array [.table []])]
      { reportLength := some 0 } := by
    refine ⟨?_, rfl, rfl, rfl, rfl⟩
    simp only [List.mem_cons, List.not_mem_nil, or_false, forall_eq_or_imp, forall_eq]
    refine ⟨fun v hv => ?_, fun v hv => ?_, fun v hv => ?_⟩
    · cases hv
    · exact ⟨_, (Option.some.inj hv).symm⟩
    · cases hv
  refine ⟨(hdocument _ _ gives_padDocument).usable ⟨by decide, by decide, ?_⟩, ?_⟩
  · rintro k ⟨⟩
    rfl
  · exact (htext _ _ _ hread hgives).unusable fun h => absurd h.length (by decide)

end Pad

end HidAccess.Config
