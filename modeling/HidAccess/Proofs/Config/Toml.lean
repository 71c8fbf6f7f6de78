import HidAccess.Proofs.Config.Defaults
import HidAccess.Proofs.Toml.Documents

/-! The settings come back from the document that is written of them. -/

namespace HidAccess.Config

open Toml (Setting Header Line)

/-- Both numbers of the settings are integers of the format. -/
structure Fits (c : Config) : Prop where
  interval : (c.pollIntervalMillis : Int) ≤ Toml.maxInteger
  length : (c.reportLength : Int) ≤ Toml.maxInteger

def textSetting (key s : String) (hkey : Toml.Bare key) : Setting :=
  .plain key hkey ((Toml.isScalar_stringText s).isValue _)

def countSetting (key : String) (n : Nat) (hkey : Toml.Bare key) (hn : (n : Int) ≤ Toml.maxInteger) : Setting :=
  .plain key hkey ((Toml.isScalar_toString hn).isValue _)

def backendHeader : Header := .plain "backend" (by decide)

def loggingHeader : Header := .plain "logging" (by decide)

def kindSetting (k : BackendKind) : Setting := textSetting "kind" k.name (by decide)

def levelSetting (level : String) : Setting := textSetting "level" level (by decide)

def documentLines (c : Config) (h : Fits c) : List Line :=
  .header [] backendHeader :: (c.kind.toList.map (fun k => .setting [] (kindSetting k)) ++
    [.header [{}] (.plain "read" (by decide)),
    .setting [] (countSetting "poll_interval_ms" c.pollIntervalMillis (by decide) h.interval),
    .setting [] (countSetting "default_report_len" c.reportLength (by decide) h.length),
    .header [{}] loggingHeader,
    .setting [] (levelSetting c.logLevel)])

theorem entries_documentLines (c : Config) (h : Fits c) : Toml.entriesFrom [] (c.documentLines h) =
    (["backend"], none) :: ((c.kind.toList.map fun k => (["backend", "kind"], some (.string k.name))) ++
      [(["read"], none), (["read", "poll_interval_ms"], some (.integer c.pollIntervalMillis)),
      (["read", "default_report_len"], some (.integer c.reportLength)), (["logging"], none),
      (["logging", "level"], some (.string c.logLevel))]) := by
  rcases hkind : c.kind with _ | k <;> simp only [documentLines, hkind] <;> rfl

def document (c : Config) (h : Fits c) : Toml.Document where
  lines := c.documentLines h
  distinct := by
    rw [entries_documentLines]
    rcases c.kind with _ | k <;> simp [Toml.IsNewBehind]

variable {build : Build}

theorem kindLine_chars (kind : Option BackendKind) :
    (kindLine kind).toList = kind.toList.flatMap fun k => (kindSetting k).chars := by
  rcases kind with _ | k
  · rfl
  · simp [kindLine, kindSetting, textSetting, Setting.chars_plain]

theorem toToml?_eq (c : Config) (h : Fits c) : c.toToml? = some (c.document h).text := by
  have hkind : (c.kind.toList.map fun k => Line.setting [] (kindSetting k)).flatMap Line.chars =
      (kindLine c.kind).toList := by
    rw [kindLine_chars, List.flatMap_map]
    rfl
  rw [toToml?, if_pos ⟨h.interval, h.length⟩, Option.some.injEq, ← String.toList_inj]
  simp [document, documentLines, Toml.Document.text, hkind, Line.chars, backendHeader, loggingHeader,
    levelSetting, textSetting, countSetting, Setting.chars_plain, Header.chars_plain, Toml.LineEnd.chars,
    Toml.noGap]

def given (c : Config) : Given where
  kind := c.kind
  pollIntervalMillis := some c.pollIntervalMillis
  reportLength := some c.reportLength
  logLevel := some c.logLevel

theorem table_document (c : Config) (h : Fits c) : (c.document h).table =
    [("backend", .table (c.kind.toList.map fun k => ("kind", .string k.name))),
      ("read", .table [("poll_interval_ms", .integer c.pollIntervalMillis),
        ("default_report_len", .integer c.reportLength)]),
      ("logging", .table [("level", .string c.logLevel)])] := by
  rw [Toml.Document.table, document, entries_documentLines]
  rcases c.kind with _ | k <;> rfl

theorem gives_document (c : Config) (h : Fits c) : Gives (c.document h).table c.given := by
  rw [table_document]
  refine ⟨?_, ?_, rfl, rfl, rfl⟩
  · simp only [List.mem_cons, List.not_mem_nil, or_false, forall_eq_or_imp, forall_eq]
    exact ⟨fun v hv => ⟨_, (Option.some.inj hv).symm⟩, fun v hv => ⟨_, (Option.some.inj hv).symm⟩,
      fun v hv => ⟨_, (Option.some.inj hv).symm⟩⟩
  · rcases hkind : c.kind with _ | k <;> simp [group, given, hkind]

theorem ofTable?_document (c : Config) (h : Fits c) : ofTable? (c.document h).table = some c :=
  ofTable?_of_gives (gives_document c h)

theorem fits_of_valid (c : Config) (hvalid : c.validate build = .ok ())
    (hlength : c.reportLength ≤ 9223372036854775807) : Fits c := by
  have hinterval : c.pollIntervalMillis ≤ maxPollIntervalMillis := by
    by_contra hlong
    rw [validate, if_pos (.inr (Nat.lt_of_not_le hlong))] at hvalid
    contradiction
  simp only [maxPollIntervalMillis] at hinterval
  constructor
  · simp only [Toml.maxInteger]
    omega
  · simp only [Toml.maxInteger]
    omega

/-- Settings that a build can work with, of a report length within the format's integers, are written
as a document, and reading it gives the same settings, whatever characters the log level is made of. -/
theorem ofToml_toToml (build : Build) (c : Config) (hvalid : c.validate build = .ok ())
    (hlength : c.reportLength ≤ 9223372036854775807) :
    ∃ text, c.toToml? = some text ∧ ofToml build text = .ok c := by
  have hfits := fits_of_valid c hvalid hlength
  refine ⟨_, toToml?_eq c hfits, ?_⟩
  rw [ofToml, Toml.Document.read?_text, Option.bind_some, ofTable?_document]
  simp only [hvalid]

def brokenLevel : Config :=
  { kind := some .virtual
    pollIntervalMillis := 100
    reportLength := 9223372036854775807
    logLevel := "\n\"\"\"\\ \t'''\r\x01é\x7f\"\"" }

theorem brokenLevel_returns : brokenLevel.validate .standard = .ok () ∧
    brokenLevel.reportLength ≤ 9223372036854775807 ∧
    ∃ text, brokenLevel.toToml? = some text ∧ ofToml .standard text = .ok brokenLevel :=
  ⟨rfl, by decide, ofToml_toToml .standard brokenLevel rfl (by decide)⟩

end HidAccess.Config
