import HidAccess.Proofs.Text.Utf8
import HidAccess.VendorDriver.Backend
import Mathlib.Data.List.TakeWhile

/-! What a failed open says about the device. The library words an absent device like any other failure;
the backend tells them apart by the listing, which is as old as the last look. -/

namespace HidAccess.VendorLibrary
variable {l : VendorLibrary} {path name : String} {t : VendorText}

def IsThere (l : VendorLibrary) (path : String) : Prop :=
  ∃ e ∈ l.present, e.pathBytes = Text.Utf8.encode path

/-- The library fails to open the path and does not say that it is not permitted. -/
def FailsPlainly (l : VendorLibrary) (path : String) : Prop :=
  ∃ t, (l.openNode path).1 = .error t ∧ isDenial (failureMessage t) = false

/-- No absent device can be opened, and none is said to be forbidden. -/
def FailsAbsent (l : VendorLibrary) : Prop := ∀ path, ¬ l.IsThere path → l.FailsPlainly path

section Open

theorem openNode_listed (l : VendorLibrary) (path : String) : (l.openNode path).2.listed = l.listed := by
  simp only [openNode]
  split <;> rfl

theorem openPath_listed (l : VendorLibrary) (path : String) : (l.openPath path).2.listed = l.listed := by
  have hnode := openNode_listed l path
  rw [openPath]
  split_ifs
  · rfl
  · rcases hx : l.openNode path with ⟨_ | _, l'⟩ <;> simpa only [hx] using hnode

theorem isListed_congr {l' : VendorLibrary} (h : l.listed = l'.listed) (path : String) :
    l.isListed path = l'.isListed path := by
  rw [isListed, isListed, h]

theorem openFailure_of_denial (h : isDenial (failureMessage t) = true) :
    l.openFailure path t = .accessDenied (failureMessage t) := by
  simp only [openFailure, failure, toAccess, h, if_true]

theorem openFailure_of_plain (h : isDenial (failureMessage t) = false) : l.openFailure path t =
    if l.isListed path then .transfer (failureMessage t) false else .deviceNotFound path := by
  simp only [openFailure, failure, toAccess, h, Bool.false_eq_true, if_false]

theorem openPath_of_zero (h : '\x00' ∈ path.toList) : (l.openPath path).1 = .error (zeroInPath path) := by
  rw [openPath, if_pos (by simpa using h)]

theorem openPath_of_opened (hz : '\x00' ∉ path.toList) (h : (l.openNode path).1 = .ok ()) :
    (l.openPath path).1 = .ok path := by
  rw [openPath, if_neg (by simpa using hz)]
  rcases hx : l.openNode path with ⟨_ | _, l'⟩ <;> simp_all

theorem openPath_of_failed (hz : '\x00' ∉ path.toList) (h : (l.openNode path).1 = .error t) :
    (l.openPath path).1 = .error (l.openFailure path t) := by
  have hlisted := openNode_listed l path
  rw [openPath, if_neg (by simpa using hz)]
  rcases hx : l.openNode path with ⟨e | _, l'⟩
  · rw [hx] at h hlisted
    obtain rfl := Except.error.inj h
    simp only [openFailure, isListed_congr hlisted]
  · simp [hx] at h

theorem openPath_eq_deviceNotFound_iff : (l.openPath path).1 = .error (.deviceNotFound name) ↔
    name = path ∧ '\x00' ∉ path.toList ∧ l.FailsPlainly path ∧ l.isListed path = false := by
  by_cases hz : '\x00' ∈ path.toList
  · simp [openPath_of_zero hz, zeroInPath, hz]
  rcases hx : (l.openNode path).1 with t | _
  · rw [openPath_of_failed hz hx]
    have hplain : l.FailsPlainly path ↔ isDenial (failureMessage t) = false := by
      simp [FailsPlainly, hx]
    rw [hplain]
    cases hd : isDenial (failureMessage t) with
    | true => simp [openFailure_of_denial hd]
    | false =>
      rw [openFailure_of_plain hd]
      cases l.isListed path <;> simp [hz, eq_comm]
  · have hplain : ¬ l.FailsPlainly path := by simp [FailsPlainly, hx]
    simp [openPath_of_opened hz hx, hplain]

end Open

section History

/-- What happens around one backend. Any devices come and go, and what opening them does changes with them. -/
inductive Event where
  | change (present : List VendorEntry) (nodes : List (String × VendorNode))
  | enumerate
  | openPath (path : String)

def step (l : VendorLibrary) : Event → VendorLibrary
  | .change present nodes => { l with present, nodes }
  | .enumerate => (backend.enumerate l).2
  | .openPath path => (backend.openPath path l).2

def run (l : VendorLibrary) : List Event → VendorLibrary
  | [] => l
  | e :: es => (l.step e).run es

variable {es before after : List Event} {e : Event}

theorem run_append (l : VendorLibrary) (es es' : List Event) :
    l.run (es ++ es') = (l.run es).run es' := by
  induction es generalizing l with
  | nil => rfl
  | cons e es ih => exact ih (l.step e)

theorem listed_step (h : e ≠ .enumerate) : (l.step e).listed = l.listed := by
  cases e with
  | change present nodes => rfl
  | enumerate => exact absurd rfl h
  | openPath path => exact openPath_listed l path

theorem listed_run (h : .enumerate ∉ es) : (l.run es).listed = l.listed := by
  induction es generalizing l with
  | nil => rfl
  | cons e es ih =>
    rcases List.ne_and_not_mem_of_not_mem_cons h with ⟨he, hes⟩
    calc ((l.step e).run es).listed = (l.step e).listed := ih hes
      _ = l.listed := listed_step he.symm

/-- A device was at the path when the listing was last renewed. -/
def SeenAtLastLook (l : VendorLibrary) (es : List Event) (path : String) : Prop :=
  ∃ before after, es = before ++ .enumerate :: after ∧ .enumerate ∉ after ∧ (l.run before).IsThere path

theorem exists_last_enumerate (h : .enumerate ∈ es) :
    ∃ before after, es = before ++ Event.enumerate :: after ∧ .enumerate ∉ after := by
  rcases List.eq_append_cons_of_mem (List.mem_reverse.mpr h) with ⟨after, before, heq, hafter⟩
  refine ⟨before.reverse, after.reverse, ?_, by simpa using hafter⟩
  simpa using congrArg List.reverse heq

theorem listed_run_last (hafter : .enumerate ∉ after) :
    (l.run (before ++ .enumerate :: after)).listed = (l.run before).present := by
  rw [run_append]
  exact listed_run hafter

theorem isListed_iff : l.isListed path = true ↔ ∃ e ∈ l.listed, e.pathBytes = Text.Utf8.encode path := by
  simp [isListed]

theorem isListed_run_iff (h : .enumerate ∈ es) :
    (l.run es).isListed path = true ↔ l.SeenAtLastLook es path := by
  have hlast : ∀ {before after}, es = before ++ .enumerate :: after → .enumerate ∉ after →
      ((l.run es).isListed path = true ↔ (l.run before).IsThere path) := by
    intro before after hes hafter
    rw [isListed_iff, hes, listed_run_last hafter]
    rfl
  constructor
  · intro hlisted
    rcases exists_last_enumerate h with ⟨before, after, hes, hafter⟩
    exact ⟨before, after, hes, hafter, (hlast hes hafter).mp hlisted⟩
  · rintro ⟨before, after, hes, hafter, hthere⟩
    exact (hlast hes hafter).mpr hthere

theorem zero_notMem_pathBytes (e : VendorEntry) : 0 ∉ e.pathBytes := by
  intro h
  simpa using List.mem_takeWhile_imp h

theorem IsThere.zero_notMem (h : l.IsThere path) : '\x00' ∉ path.toList := by
  rcases h with ⟨e, -, hpath⟩
  intro hz
  exact zero_notMem_pathBytes e (hpath ▸ Text.Utf8.zero_mem_encode hz)

/-- A backend looks when it is made and whenever it lists the devices. An open of an absent device is told
as such exactly if there was none at the last look, and so is a plain failure to open one that is there. -/
theorem not_found_iff_unseen (l : VendorLibrary) (es : List Event) (path : String) :
    let history := .enumerate :: es
    let now := l.run history
    (now.FailsAbsent → ¬ now.IsThere path →
      ((now.openPath path).1 = .error (.deviceNotFound path) ↔
        '\x00' ∉ path.toList ∧ ¬ l.SeenAtLastLook history path)) ∧
    (now.IsThere path →
      ((∃ name, (now.openPath path).1 = .error (.deviceNotFound name)) ↔
        now.FailsPlainly path ∧ ¬ l.SeenAtLastLook history path)) := by
  intro history now
  have hseen : now.isListed path = false ↔ ¬ l.SeenAtLastLook history path := by
    rw [← isListed_run_iff List.mem_cons_self, Bool.not_eq_true]
  constructor
  · intro habsent hnot
    rw [openPath_eq_deviceNotFound_iff, hseen]
    have hfails : now.FailsPlainly path := habsent path hnot
    tauto
  · intro hthere
    simp only [openPath_eq_deviceNotFound_iff, hseen]
    have hz := hthere.zero_notMem
    constructor
    · rintro ⟨name, -, -, hfails, hunseen⟩
      exact ⟨hfails, hunseen⟩
    · rintro ⟨hfails, hunseen⟩
      exact ⟨path, rfl, hz, hfails, hunseen⟩

end History

section Pad

def pad : VendorEntry where
  path := [112, 48]
  vendorId := 1
  productId := 2

def busyPad : List (String × VendorNode) := [("p0", .refuses (some (Text.Wide.encode "busy")))]

theorem pathBytes_pad : pad.pathBytes = Text.Utf8.encode "p0" := by
  rw [Text.Utf8.encode_eq_flatMap]
  decide

theorem failsPlainly_of_nodes
    (h : ∀ x ∈ l.nodes, ∃ t, x.2 = .refuses t ∧ isDenial (failureMessage t) = false) (path : String) :
    l.FailsPlainly path := by
  have hlookup : ∀ node, l.nodes.lookup path = some node →
      ∃ t, node = .refuses t ∧ isDenial (failureMessage t) = false := by
    intro node hnode
    rcases List.lookup_eq_some_iff.mp hnode with ⟨before, after, hnodes, -⟩
    exact h (path, node) (by simp [hnodes])
  rcases hx : l.nodes.lookup path with _ | node
  · refine ⟨noSuchDevice, ?_, by decide +kernel⟩
    simp only [openNode, note, hx]
  · rcases hlookup node hx with ⟨t, rfl, ht⟩
    refine ⟨t, ?_, ht⟩
    simp only [openNode, note, hx]

theorem failsAbsent_of_busyPad (h : l.nodes = busyPad) : l.FailsAbsent := by
  intro path _
  refine failsPlainly_of_nodes ?_ path
  rw [h]
  intro x hx
  obtain rfl := List.mem_singleton.mp hx
  exact ⟨_, rfl, by decide +kernel⟩

theorem pad_failures_told_apart :
    let now := ({ present := [pad], nodes := busyPad } : VendorLibrary).run [.enumerate]
    (now.openPath "p1").1 = .error (.deviceNotFound "p1") ∧
      now.IsThere "p0" ∧ ∀ name, (now.openPath "p0").1 ≠ .error (.deviceNotFound name) := by
  intro now
  have hother : Text.Utf8.encode "p1" ≠ pad.pathBytes := by
    rw [Text.Utf8.encode_eq_flatMap]
    decide
  have hthere : now.IsThere "p0" := ⟨pad, List.mem_cons_self, pathBytes_pad⟩
  have habsent : ¬ now.IsThere "p1" := by
    rintro ⟨e, he, hpath⟩
    obtain rfl := List.mem_singleton.mp he
    exact hother hpath.symm
  have hall := not_found_iff_unseen { present := [pad], nodes := busyPad } []
  have hlook : ∀ path, SeenAtLastLook { present := [pad], nodes := busyPad } [.enumerate] path ↔
      now.IsThere path := fun path => (isListed_run_iff List.mem_cons_self).symm.trans isListed_iff
  refine ⟨?_, hthere, ?_⟩
  · exact ((hall "p1").1 (failsAbsent_of_busyPad rfl) habsent).mpr ⟨by decide, (hlook "p1").not.mpr habsent⟩
  · intro name hname
    exact (((hall "p0").2 hthere).mp ⟨name, hname⟩).2 ((hlook "p0").mpr hthere)

/-- A pad that was listed and is gone fails like one that is there; one that came since is not found. -/
theorem aged_listing_misleads :
    let gone := ({ present := [pad] } : VendorLibrary).run [.enumerate, .change [] busyPad]
    let arrived := ({} : VendorLibrary).run [.enumerate, .change [pad] busyPad]
    (gone.FailsAbsent ∧ ¬ gone.IsThere "p0" ∧
      (gone.openPath "p0").1 = .error (.transfer "hidapi error: busy" false)) ∧
    (arrived.FailsAbsent ∧ arrived.IsThere "p0" ∧
      (arrived.openPath "p0").1 = .error (.deviceNotFound "p0")) := by
  intro gone arrived
  have hplain : isDenial (failureMessage (some (Text.Wide.encode "busy"))) = false := by decide +kernel
  constructor
  · refine ⟨failsAbsent_of_busyPad rfl, fun ⟨e, he, _⟩ => List.not_mem_nil he, ?_⟩
    rw [openPath_of_failed (by decide) rfl, openFailure_of_plain hplain,
      if_pos (isListed_iff.mpr ⟨pad, List.mem_cons_self, pathBytes_pad⟩)]
    decide +kernel
  · refine ⟨failsAbsent_of_busyPad rfl, ⟨pad, List.mem_cons_self, pathBytes_pad⟩, ?_⟩
    rw [openPath_of_failed (by decide) rfl, openFailure_of_plain hplain]
    rfl

end Pad

end HidAccess.VendorLibrary
