import HidAccess.Config.Toml
import Mathlib.Tactic.SplitIfs

/-! Settings from the tables of a document: a field that is not given takes its default, whatever else stands
in the tables, and the whole is then checked. -/

namespace HidAccess.Config
open Toml (Value Table)

structure Given where
  kind : Option BackendKind := none
  pollIntervalMillis : Option Nat := none
  reportLength : Option Nat := none
  logLevel : Option String := none

def Given.settings (g : Given) : Config where
  kind := g.kind
  pollIntervalMillis := g.pollIntervalMillis.getD 20
  reportLength := g.reportLength.getD 64
  logLevel := g.logLevel.getD "warn"

def group (t : Table) (name : String) : Table :=
  match t.lookup name with
  | some (.table entries) => entries
  | _ => []

/-- Whatever stands in the document besides, its tables of settings give these and no others. -/
structure Gives (t : Table) (g : Given) : Prop where
  tables : ∀ name ∈ ["backend", "read", "logging"], ∀ v ∈ t.lookup name, ∃ entries, v = .table entries
  kind : (group t "backend").lookup "kind" = g.kind.map fun k => .string k.name
  interval : (group t "read").lookup "poll_interval_ms" = g.pollIntervalMillis.map fun n => .integer n
  length : (group t "read").lookup "default_report_len" = g.reportLength.map fun n => .integer n
  level : (group t "logging").lookup "level" = g.logLevel.map .string

structure Usable (build : Build) (c : Config) : Prop where
  interval : 1 ≤ c.pollIntervalMillis ∧ c.pollIntervalMillis ≤ 100
  length : 1 ≤ c.reportLength
  kind : ∀ k ∈ c.kind, build.contains k = true

variable {α β : Type} {build : Build} {c : Config} {g : Given} {t entries : Table} {text name : String}
  {v : Value}

section Fields

theorem fieldOr_map (read : Value → Option α) (write : β → Value) (value : β → α)
    (hread : ∀ b, read (write b) = some (value b)) (default : α) (given : Option β) :
    fieldOr default read (given.map write) = some ((given.map value).getD default) := by
  cases given with
  | none => rfl
  | some b => exact hread b

theorem readTable?_of_group (read : Config → Value → Option Config)
    (htable : ∀ v ∈ t.lookup name, ∃ entries, v = .table entries)
    (hempty : read c (.table []) = some c) : readTable? t name read c = read c (.table (group t name)) := by
  rw [readTable?, group]
  cases hlookup : t.lookup name with
  | none => exact hempty.symm
  | some v =>
    obtain ⟨entries, rfl⟩ := htable v hlookup
    rfl

theorem readBackend?_table (h : entries.lookup "kind" = g.kind.map fun k => .string k.name) :
    readBackend? {} (.table entries) = some { kind := g.kind } := by
  have hkind := fieldOr_map (fun v => (readKind? v).map some) (fun k => .string k.name) some
    (fun k => by simp [readKind?, BackendKind.ofName?_name]) none g.kind
  simp only [readBackend?, fieldValues?, List.map_cons, List.map_nil, h, hkind, Option.bind_eq_bind,
    Option.bind_some, Option.pure_def]
  cases g.kind <;> rfl

theorem readReading?_table
    (hinterval : entries.lookup "poll_interval_ms" = g.pollIntervalMillis.map fun n => .integer n)
    (hlength : entries.lookup "default_report_len" = g.reportLength.map fun n => .integer n) :
    readReading? c (.table entries) = some { c with
      pollIntervalMillis := g.pollIntervalMillis.getD c.pollIntervalMillis
      reportLength := g.reportLength.getD c.reportLength } := by
  have hcount (default : Nat) (given : Option Nat) :=
    fieldOr_map readCount? (fun n : Nat => .integer n) id (fun n => by simp [readCount?]) default given
  simp [readReading?, fieldValues?, hinterval, hlength, hcount]

theorem readLogging?_table (h : entries.lookup "level" = g.logLevel.map .string) :
    readLogging? c (.table entries) = some { c with logLevel := g.logLevel.getD c.logLevel } := by
  have hlevel := fieldOr_map readText? .string id (fun _ => rfl) c.logLevel g.logLevel
  simp [readLogging?, fieldValues?, h, hlevel]

end Fields

theorem ofTable?_of_gives (h : Gives t g) : ofTable? t = some g.settings := by
  have hbackend := readTable?_of_group (c := {}) readBackend? (h.tables "backend" (by simp)) rfl
  have hread (c : Config) := readTable?_of_group (c := c) readReading? (h.tables "read" (by simp)) rfl
  have hlogging (c : Config) := readTable?_of_group (c := c) readLogging? (h.tables "logging" (by simp)) rfl
  simp only [ofTable?, hbackend, hread, hlogging, readBackend?_table h.kind,
    readReading?_table h.interval h.length, readLogging?_table h.level, Option.bind_eq_bind, Option.bind_some]
  rfl

theorem validate_cases (build : Build) (c : Config) :
    Usable build c ∧ validate build c = .ok () ∨
      ¬ Usable build c ∧ ∃ m, validate build c = .error (.config m) := by
  rw [validate, maxPollIntervalMillis]
  split_ifs with hinterval hlength
  · refine .inr ⟨fun h => ?_, _, rfl⟩
    have hbounds := h.interval
    omega
  · exact .inr ⟨fun h => absurd h.length (by omega), _, rfl⟩
  · have hinterval' : 1 ≤ c.pollIntervalMillis ∧ c.pollIntervalMillis ≤ 100 := by omega
    have hlength' : 1 ≤ c.reportLength := by omega
    cases hkind : c.kind with
    | none => exact .inl ⟨⟨hinterval', hlength', by simp [hkind]⟩, rfl⟩
    | some k =>
      cases hk : build.contains k with
      | true => exact .inl ⟨⟨hinterval', hlength', by simp [hkind, hk]⟩, by simp [hk]⟩
      | false => exact .inr ⟨fun h => by simp [h.kind k hkind] at hk, _, by simp [hk, Build.missing]; rfl⟩

end HidAccess.Config
