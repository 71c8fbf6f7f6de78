import HidAccess.FileTree.Change

/-! What a walk through a file tree depends on. It finds its way by looking up names in directories, and
in a tree that is alike wherever it looks it comes to the same place. -/

namespace HidAccess.FileTree
variable {t t' : FileTree} {common : Nat → Prop} {changed : Nat} {gone : FileName → Bool}
  {place : Place} {name : String}

theorem nodes_of_entriesOf? {entries : List (FileName × Nat)}
    (he : t.entriesOf? place = some entries) : t.nodes[place.node]? = some (.directory entries) := by
  simp only [entriesOf?, nodeOf?] at he
  split at he
  next hx =>
    obtain rfl := Option.some.inj he
    exact hx
  · cases he

def lookUps (t : FileTree) (follow : Bool) (links : Nat) (place : Place) (names : List String) :
    List (Nat × String) :=
  match names with
  | [] => []
  | name :: rest =>
    match t.entriesOf? place with
    | none => []
    | some entries =>
      if name = "" ∨ name = "." then t.lookUps follow links place rest
      else if name = ".." then t.lookUps follow links place.tail rest
      else if maxName < name.utf8ByteSize then []
      else match entries.lookup (.text name) with
        | none => [(place.node, name)]
        | some node =>
          match t.nodes[node]? with
          | some (.link target) =>
            if rest.isEmpty && !follow then [(place.node, name)]
            else match links with
              | 0 => [(place.node, name)]
              | links + 1 =>
                if target.isEmpty then [(place.node, name)]
                else (place.node, name) :: t.lookUps follow links
                  (if isAbsolute target then [] else place) (components target ++ rest)
          | _ => (place.node, name) :: t.lookUps follow links ((name, node) :: place) rest
termination_by (links, names.length)

def pathLookUps (t : FileTree) (path : String) : List (Nat × String) :=
  t.lookUps true maxLinks (t.origin path) (components path)

def fileLookUps (t : FileTree) (place : Place) (name : String) : List (Nat × String) :=
  t.lookUps true maxLinks place [name]

theorem walk_into {entries : List (FileName × Nat)} {node : Nat} (he : t.entriesOf? place = some entries)
    (hn : ¬ (name = "" ∨ name = ".")) (hu : ¬ name = "..") (hs : ¬ maxName < name.utf8ByteSize)
    (hl : entries.lookup (.text name) = some node)
    (hx : ∀ target, t.nodes[node]? = some (.link target) → False) (follow : Bool) (links : Nat)
    (rest : List String) : t.walk follow links place (name :: rest) =
      t.walk follow links ((name, node) :: place) rest := by
  rw [walk]
  simp only [he, hn, hu, hs, hl, if_false]

theorem resolve_cases (path : String) (follow : Bool) :
    (∃ e, ∀ t : FileTree, t.resolve path follow = .error e) ∨
      ∀ t : FileTree, t.resolve path follow =
        t.walk follow maxLinks (t.origin path) (components path) := by
  by_cases hzero : path.toList.contains '\x00' = true
  · exact .inl ⟨zeroInPath, fun t => if_pos hzero⟩
  by_cases hempty : path.isEmpty = true
  · exact .inl ⟨_, fun t => by rw [resolve, if_neg hzero, if_pos hempty]⟩
  by_cases hlong : maxPath < path.utf8ByteSize
  · exact .inl ⟨_, fun t => by rw [resolve, if_neg hzero, if_neg hempty, if_pos hlong]⟩
  right
  intro t
  rw [resolve, if_neg hzero, if_neg hempty, if_neg hlong, origin]

/-- Two trees that have nodes in common, and on these differ in one directory only, by the entries of
some names. -/
structure Alike (common : Nat → Prop) (changed : Nat) (gone : FileName → Bool) (t t' : FileTree) :
    Prop where
  working : t'.working = t.working
  root : common 0
  start : ∀ x ∈ t.working, common x.2
  nodes : ∀ n, common n → n ≠ changed → t'.nodes[n]? = t.nodes[n]?
  directory : ∃ entries entries', t.nodes[changed]? = some (.directory entries) ∧
    t'.nodes[changed]? = some (.directory entries') ∧
    ∀ name, ¬ gone (.text name) → entries'.lookup (.text name) = entries.lookup (.text name)
  children : ∀ n, common n → ∀ entries, t.nodes[n]? = some (.directory entries) →
    ∀ name m, ¬ (n = changed ∧ gone (.text name)) → entries.lookup (.text name) = some m → common m

def Avoids (changed : Nat) (gone : FileName → Bool) (lookUps : List (Nat × String)) : Prop :=
  ∀ x ∈ lookUps, ¬ (x.1 = changed ∧ gone (.text x.2))

instance (changed : Nat) (gone : FileName → Bool) (lookUps : List (Nat × String)) :
    Decidable (Avoids changed gone lookUps) :=
  inferInstanceAs (Decidable (∀ x ∈ lookUps, ¬ (x.1 = changed ∧ gone (.text x.2))))

/-- The place is one that both trees have, by its whole way from the root. -/
def IsCommon (common : Nat → Prop) (place : Place) : Prop := ∀ x ∈ place, common x.2

namespace IsCommon

theorem tail (hp : IsCommon common place) : IsCommon common place.tail := by
  intro x hx
  exact hp x (List.mem_of_mem_tail hx)

theorem cons {node : Nat} (hp : IsCommon common place) (hn : common node) :
    IsCommon common ((name, node) :: place) := by
  intro x hx
  rcases List.mem_cons.mp hx with rfl | hx
  · exact hn
  · exact hp x hx

end IsCommon

namespace Alike

theorem node (ha : Alike common changed gone t t') (hp : IsCommon common place) :
    common place.node := by
  cases place with
  | nil => exact ha.root
  | cons x rest => exact hp x List.mem_cons_self

theorem node_cases (ha : Alike common changed gone t t') {n : Nat} (hn : common n) :
    t'.nodes[n]? = t.nodes[n]? ∨ ∃ entries entries', t.nodes[n]? = some (.directory entries) ∧
      t'.nodes[n]? = some (.directory entries') ∧
      ∀ name, ¬ (n = changed ∧ gone (.text name)) → entries'.lookup (.text name) = entries.lookup (.text name) := by
  by_cases hc : n = changed
  · subst hc
    obtain ⟨entries, entries', he, he', hlookup⟩ := ha.directory
    right
    exact ⟨entries, entries', he, he', fun name hg => hlookup name fun h => hg ⟨rfl, h⟩⟩
  · exact .inl (ha.nodes n hn hc)

theorem entriesOf?_none (ha : Alike common changed gone t t') (hp : IsCommon common place)
    (he : t.entriesOf? place = none) : t'.entriesOf? place = none := by
  rcases ha.node_cases (ha.node hp) with h | ⟨entries, entries', hd, -, -⟩
  · simpa only [entriesOf?, nodeOf?, h] using he
  · simp [entriesOf?, nodeOf?, hd] at he

theorem entriesOf?_some (ha : Alike common changed gone t t') (hp : IsCommon common place)
    {entries : List (FileName × Nat)} (he : t.entriesOf? place = some entries) :
    ∃ entries', t'.entriesOf? place = some entries' ∧
      ∀ name, ¬ (place.node = changed ∧ gone (.text name)) →
        entries'.lookup (.text name) = entries.lookup (.text name) := by
  rcases ha.node_cases (ha.node hp) with h | ⟨entries₁, entries', hd, hd', hlookup⟩
  · exact ⟨entries, by simpa only [entriesOf?, nodeOf?, h] using he, fun _ _ => rfl⟩
  · obtain rfl : entries₁ = entries := by simpa [entriesOf?, nodeOf?, hd] using he
    exact ⟨entries', by simp only [entriesOf?, nodeOf?, hd'], hlookup⟩

theorem link_iff (ha : Alike common changed gone t t') {n : Nat} (hn : common n) (target : String) :
    t'.nodes[n]? = some (.link target) ↔ t.nodes[n]? = some (.link target) := by
  rcases ha.node_cases hn with h | ⟨entries, entries', hd, hd', -⟩
  · rw [h]
  · simp [hd, hd']

theorem entries_common (ha : Alike common changed gone t t') (hp : IsCommon common place)
    {entries : List (FileName × Nat)} (he : t.entriesOf? place = some entries)
    (hg : ¬ (place.node = changed ∧ gone (.text name))) {node : Nat}
    (hl : entries.lookup (.text name) = some node) : common node :=
  ha.children _ (ha.node hp) entries (nodes_of_entriesOf? he) name node hg hl

theorem found (ha : Alike common changed gone t t') (hp : IsCommon common place)
    {entries : List (FileName × Nat)} (he : t.entriesOf? place = some entries)
    (hg : ¬ (place.node = changed ∧ gone (.text name))) {node : Nat}
    (hl : entries.lookup (.text name) = some node) :
    ∃ entries', t'.entriesOf? place = some entries' ∧ entries'.lookup (.text name) = some node ∧
      common node := by
  obtain ⟨entries', he', hlookup⟩ := ha.entriesOf?_some hp he
  exact ⟨entries', he', (hlookup name hg).trans hl, ha.entries_common hp he hg hl⟩

/-- A walk that looks up none of the names in which the trees differ. -/
theorem walk_eq (ha : Alike common changed gone t t') (follow : Bool) (links : Nat) (place : Place)
    (names : List String) (hp : IsCommon common place)
    (hg : Avoids changed gone (t.lookUps follow links place names)) :
    t'.walk follow links place names = t.walk follow links place names ∧
      ∀ q, t.walk follow links place names = .ok q → IsCommon common q := by
  -- The cases are those of the walk, which makes the same look-ups.
  fun_induction lookUps t follow links place names with
  | case1 links place =>
    simp only [walk]
    refine ⟨trivial, ?_⟩
    intro q hq
    exact Except.ok.inj hq ▸ hp
  | case2 links place name rest he =>
    have he' := ha.entriesOf?_none hp he
    simp [walk, he, he']
  | case3 links place name rest entries he hn ih =>
    obtain ⟨entries', he', -⟩ := ha.entriesOf?_some hp he
    simp only [walk, he, he', hn, if_true]
    exact ih hp hg
  | case4 links place rest entries he hn ih =>
    obtain ⟨entries', he', -⟩ := ha.entriesOf?_some hp he
    simp only [walk, he, he', hn, if_true, if_false]
    exact ih hp.tail hg
  | case5 links place name rest entries he hn hu hs =>
    obtain ⟨entries', he', -⟩ := ha.entriesOf?_some hp he
    simp [walk, he, he', hn, hu, hs]
  | case6 links place name rest entries he hn hu hs hl =>
    obtain ⟨entries', he', hlookup⟩ := ha.entriesOf?_some hp he
    have hl' := (hlookup name (hg _ List.mem_cons_self)).trans hl
    simp [walk, he, he', hn, hu, hs, hl, hl']
  | case7 links place name rest entries he hn hu hs node hl target hx hend =>
    obtain ⟨entries', he', hl', hnode⟩ := ha.found hp he (hg _ List.mem_cons_self) hl
    have hx' := (ha.link_iff hnode target).mpr hx
    simp only [walk, he, he', hn, hu, hs, hl, hl', hx, hx', hend, if_true, if_false]
    refine ⟨trivial, ?_⟩
    intro q hq
    exact Except.ok.inj hq ▸ hp.cons hnode
  | case8 place name rest entries he hn hu hs node hl target hx hend =>
    obtain ⟨entries', he', hl', hnode⟩ := ha.found hp he (hg _ List.mem_cons_self) hl
    have hx' := (ha.link_iff hnode target).mpr hx
    simp [walk, he, he', hn, hu, hs, hl, hl', hx, hx', hend]
  | case9 place name rest entries he hn hu hs node hl target hx hend links hempty =>
    obtain ⟨entries', he', hl', hnode⟩ := ha.found hp he (hg _ List.mem_cons_self) hl
    have hx' := (ha.link_iff hnode target).mpr hx
    simp [walk, he, he', hn, hu, hs, hl, hl', hx, hx', hend, hempty]
  | case10 place name rest entries he hn hu hs node hl target hx hend links hempty ih =>
    obtain ⟨entries', he', hl', hnode⟩ := ha.found hp he (hg _ List.mem_cons_self) hl
    have hx' := (ha.link_iff hnode target).mpr hx
    have hstart : IsCommon common (if isAbsolute target then [] else place) := by
      split
      · simp [IsCommon]
      · exact hp
    rw [walk, walk]
    simp only [he, he', hn, hu, hs, hl, hl', hx, hx', hend, hempty, if_false]
    exact ih hstart fun x hx => hg x (List.mem_cons_of_mem _ hx)
  | case11 links place name rest entries he hn hu hs node hl hx ih =>
    obtain ⟨entries', he', hl', hnode⟩ := ha.found hp he (hg _ List.mem_cons_self) hl
    have hx' : ∀ target, t'.nodes[node]? = some (.link target) → False := by
      intro target ht
      exact hx target ((ha.link_iff hnode target).mp ht)
    rw [walk_into he hn hu hs hl hx, walk_into he' hn hu hs hl' hx']
    exact ih (hp.cons hnode) fun x hx => hg x (List.mem_cons_of_mem _ hx)

theorem resolve_eq (ha : Alike common changed gone t t') (path : String)
    (hg : Avoids changed gone (t.pathLookUps path)) :
    t'.resolve path true = t.resolve path true ∧
      ∀ q, t.resolve path true = .ok q → IsCommon common q := by
  have hstart : IsCommon common (t.origin path) := by
    rw [origin]
    split
    · simp [IsCommon]
    · exact ha.start
  have horigin : t'.origin path = t.origin path := by rw [origin, origin, ha.working]
  rcases resolve_cases path true with ⟨e, he⟩ | hwalk
  · simp [he]
  · rw [hwalk t, hwalk t', horigin]
    exact ha.walk_eq true maxLinks (t.origin path) (components path) hstart hg

theorem contentAt_eq (ha : Alike common changed gone t t') (hp : IsCommon common place) :
    t'.contentAt place = t.contentAt place := by
  rcases ha.node_cases (ha.node hp) with h | ⟨entries, entries', hd, hd', -⟩
  · simp only [contentAt, nodeOf?, h]
  · simp only [contentAt, nodeOf?, hd, hd']

theorem readFrom_eq (ha : Alike common changed gone t t') (hp : IsCommon common place)
    (hg : Avoids changed gone (t.fileLookUps place name)) :
    t'.readFrom place name = t.readFrom place name := by
  obtain ⟨hwalk, hplace⟩ := ha.walk_eq true maxLinks place [name] hp hg
  rw [readFrom, readFrom, hwalk]
  cases hq : t.walk true maxLinks place [name] with
  | error e => rfl
  | ok q => exact ha.contentAt_eq (hplace q hq)

theorem readTextFrom?_eq (ha : Alike common changed gone t t') (hp : IsCommon common place)
    (hg : Avoids changed gone (t.fileLookUps place name)) :
    t'.readTextFrom? place name = t.readTextFrom? place name := by
  rw [readTextFrom?, readTextFrom?, ha.readFrom_eq hp hg]

theorem isFileFrom_eq (ha : Alike common changed gone t t') (hp : IsCommon common place)
    (hg : Avoids changed gone (t.fileLookUps place name)) :
    t'.isFileFrom place name = t.isFileFrom place name := by
  obtain ⟨hwalk, hplace⟩ := ha.walk_eq true maxLinks place [name] hp hg
  rw [isFileFrom, isFileFrom, hwalk]
  cases hq : t.walk true maxLinks place [name] with
  | error e => rfl
  | ok q =>
    rcases ha.node_cases (ha.node (hplace q hq)) with h | ⟨entries, entries', hd, hd', -⟩
    · simp only [nodeOf?, h]
    · simp only [nodeOf?, hd, hd']

end Alike

theorem lookup_of_perm {entries entries' : List (FileName × Nat)} (hp : entries'.Perm entries)
    (hn : (entries'.map Prod.fst).Nodup) (name : FileName) :
    entries'.lookup name = entries.lookup name := by
  induction hp with
  | nil => rfl
  | cons x _ ih =>
    rw [List.map_cons, List.nodup_cons] at hn
    rw [List.lookup_cons, List.lookup_cons, ih hn.2]
  | swap x y rest =>
    have hne : x.1 ≠ y.1 := by
      intro h
      simp [h] at hn
    rw [List.lookup_cons, List.lookup_cons, List.lookup_cons, List.lookup_cons]
    by_cases hx : name = x.1
    · have hy : (name == y.1) = false := beq_false_of_ne fun h => hne (hx.symm.trans h)
      rw [hy]
    · have hx : (name == x.1) = false := beq_false_of_ne hx
      rw [hx]
  | trans hp _ ih ih' =>
    rw [ih hn, ih' ((hp.map _).nodup_iff.mp hn)]

theorem alike_setNode {entries entries' : List (FileName × Nat)}
    (hd : t.nodes[changed]? = some (.directory entries))
    (hl : ∀ name, ¬ gone (.text name) → entries'.lookup (.text name) = entries.lookup (.text name)) :
    Alike (fun _ => True) changed gone t (t.setNode changed (.directory entries')) where
  working := rfl
  root := trivial
  start _ _ := trivial
  nodes n _ hn := by simp [setNode, List.getElem?_set_ne (Ne.symm hn)]
  directory := by
    have hlt : changed < t.nodes.length := (List.getElem?_eq_some_iff.mp hd).1
    exact ⟨entries, entries', hd, by simp [setNode, hlt], hl⟩
  children _ _ _ _ _ _ _ _ := trivial

theorem lookup_filter {entries : List (FileName × Nat)} {q : FileName × Nat → Bool} {name : FileName}
    (hq : ∀ e, e.1 = name → q e) : (entries.filter q).lookup name = entries.lookup name := by
  induction entries with
  | nil => rfl
  | cons e entries ih =>
    by_cases he : q e
    · rw [List.filter_cons_of_pos he, List.lookup_cons, List.lookup_cons, ih]
    · have hne : (name == e.1) = false := beq_false_of_ne fun h => he (hq e h.symm)
      rw [List.filter_cons_of_neg he, ih, List.lookup_cons, hne]

theorem alike_remove? {path : String} (hr : t.remove? path = some t') :
    ∃ (place : Place) (name : String),
      Alike (fun _ => True) place.node (fun other => other == .text name) t t' := by
  simp only [remove?] at hr
  split at hr
  · cases hr
  · cases hr
  next name node around hresolve =>
    obtain ⟨entries, he, rfl⟩ := Option.map_eq_some_iff.mp hr
    refine ⟨around, name, alike_setNode (nodes_of_entriesOf? he) ?_⟩
    intro other hother
    apply lookup_filter
    intro e heq
    rw [heq]
    simpa using hother

/-- Every node that the tree names is one of its nodes. -/
structure Linked (t : FileTree) : Prop where
  root : t.nodes ≠ []
  start : ∀ x ∈ t.working, x.2 < t.nodes.length
  children : ∀ (n : Nat) (entries : List (FileName × Nat)), t.nodes[n]? = some (.directory entries) →
    ∀ e ∈ entries, e.2 < t.nodes.length

theorem alike_addNodes {entries entries' : List (FileName × Nat)} {nodes : List FileNode}
    (ht : t.Linked) (hd : t.nodes[changed]? = some (.directory entries))
    (hl : ∀ name, ¬ gone (.text name) → entries'.lookup (.text name) = entries.lookup (.text name)) :
    Alike (· < t.nodes.length) changed gone t
      { t with nodes := t.nodes.set changed (.directory entries') ++ nodes } where
  working := rfl
  root := List.length_pos_iff.mpr ht.root
  start := ht.start
  nodes n hn hne := by
    rw [List.getElem?_append_left (by simpa using hn), List.getElem?_set_ne (Ne.symm hne)]
  directory := by
    have hlt : changed < t.nodes.length := (List.getElem?_eq_some_iff.mp hd).1
    exact ⟨entries, entries', hd, by simp [List.getElem?_append_left, hlt], hl⟩
  children n _ entries hn name m _ hm := by
    obtain ⟨before, behind, hentries, -⟩ := List.lookup_eq_some_iff.mp hm
    exact ht.children n entries hn (.text name, m) (by simp [hentries])

theorem alike_addEntry {n : FileNode} {place' : Place} (ht : t.Linked)
    (ha : t.addEntry place name n = some (t', place')) :
    Alike (· < t.nodes.length) place.node (fun other => other == .text name) t t' := by
  simp only [addEntry] at ha
  split at ha
  · cases ha
  next entries he =>
    split at ha
    · cases ha
    next hnone =>
      cases ha
      apply alike_addNodes ht (nodes_of_entriesOf? he)
      intro other hother
      have hne : (other == name) = false := by simpa using hother
      simp [List.lookup_append, List.lookup_cons, hne]

end HidAccess.FileTree
