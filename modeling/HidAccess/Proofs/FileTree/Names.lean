import HidAccess.FileTree
import HidAccess.Hidraw.Backend
import HidAccess.Proofs.Text.Split
import HidAccess.Proofs.Text.Utf8

/-! Names that a directory can hold, and the last name on a path. -/

namespace HidAccess
variable {name base path : String}

/-- A name is what stands between two slashes of a path. -/
def FileName.IsSingle : FileName → Prop
  | .text s => '/' ∉ s.toList
  | .octets bs _ => 0x2F ∉ bs

instance (name : FileName) : Decidable name.IsSingle :=
  match name with
  | .text s => inferInstanceAs (Decidable ('/' ∉ s.toList))
  | .octets bs _ => inferInstanceAs (Decidable (0x2F ∉ bs))

theorem FileName.IsSingle.shown {name : FileName} (h : name.IsSingle) : '/' ∉ name.shown.toList := by
  rcases name with s | ⟨bs, noText⟩
  · exact h
  · intro hmem
    rcases Text.Utf8.octet_of_mem_decodeLossy hmem (by decide) (by decide) with ⟨b, hb, heq⟩
    have hslash : b = 0x2F := UInt8.toNat_inj.mp heq
    exact h (hslash ▸ hb)

namespace FileTree

theorem components_append (base name : String) :
    components (base ++ "/" ++ name) = components base ++ components name := by
  have hslash : (base ++ "/" ++ name).toList = base.toList ++ '/' :: name.toList := by simp
  rw [components, hslash, Text.splitAt_append, List.map_append]
  rfl

theorem components_of_single (hn : '/' ∉ name.toList) : components name = [name] := by
  simp [components, Text.splitAt_of_not_mem hn]

theorem exists_of_getLast? (h : base.toList.getLast? = some '/') : ∃ before, base = before ++ "/" := by
  rcases List.getLast?_eq_some_iff.mp h with ⟨before, hbefore⟩
  refine ⟨String.ofList before, String.toList_inj.mp ?_⟩
  simpa using hbefore

theorem components_join (hn : '/' ∉ name.toList) (base : String) :
    ∃ around, components (join base name) = around ++ [name] := by
  have hrelative : isAbsolute name = false := by
    rw [isAbsolute, beq_eq_false_iff_ne]
    exact fun h => hn (List.mem_of_mem_head? h)
  rw [join, if_neg (by simp [hrelative])]
  split_ifs with hbase
  · rw [Bool.or_eq_true, String.isEmpty_iff, beq_iff_eq] at hbase
    rcases hbase with rfl | hlast
    · exact ⟨[], by simp [components_of_single hn]⟩
    · rcases exists_of_getLast? hlast with ⟨before, rfl⟩
      exact ⟨components before, by rw [components_append, components_of_single hn]⟩
  · exact ⟨components base, by rw [components_append, components_of_single hn]⟩

end FileTree

namespace HidrawPaths

theorem fileName?_join (hn : '/' ∉ name.toList) (hname : name ∉ ["", ".", ".."]) (base : String) :
    fileName? (FileTree.join base name) = some name := by
  simp only [List.mem_cons, List.not_mem_nil, or_false, not_or] at hname
  rcases FileTree.components_join hn base with ⟨around, haround⟩
  have hlast : ((FileTree.components (FileTree.join base name)).filter
      fun c => c != "" && c != ".").getLast? = some name := by
    rw [haround, List.filter_append, List.filter_cons_of_pos (by simp [hname])]
    exact List.getLast?_concat
  simp [fileName?, hlast, hname]

end HidrawPaths

end HidAccess
