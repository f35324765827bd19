import RangeTest.Files.Tree
import RangeTest.Proofs.Act

namespace RangeTest

/-- A path that does not end in a slash ends in a piece with a name. -/
theorem Path.pieces_concat {path : String} {front : List Char} {c : Char}
    (ends : path.toList = front ++ [c]) (named : c ≠ '/') :
    ∃ before last, pieces path = before ++ [last] ∧ last ≠ [] := by
  rw [pieces, ends]
  clear ends
  induction front with
  | nil =>
    refine ⟨[], [c], ?_, List.cons_ne_nil _ _⟩
    rw [List.nil_append, List.foldr_cons, if_neg named]
    rfl
  | cons first front ih =>
    obtain ⟨before, last, split, filled⟩ := ih
    rw [List.cons_append, List.foldr_cons, split]
    by_cases slash : first = '/'
    · rw [if_pos slash]
      exact ⟨[] :: before, last, rfl, filled⟩
    · rw [if_neg slash]
      cases before with
      | nil => exact ⟨[], first :: last, rfl, List.cons_ne_nil _ _⟩
      | cons piece before => exact ⟨(first :: piece) :: before, last, rfl, filled⟩

theorem Path.endsWith_slash_iff {path : String} : path.endsWith "/" ↔ ['/'] <:+ path.toList := by
  rw [String.endsWith, String.Slice.endsWith_string_iff, String.copy_toSlice]
  rfl

theorem FileTree.enter_ok_iff {t : FileTree} {place : Place} :
    t.enter place = .ok () ↔ t.at? place = some .folder := by
  rw [enter]
  split <;> rename_i stands <;> rw [stands]
  · exact ⟨nofun, nofun⟩
  · exact ⟨nofun, nofun⟩
  · exact ⟨fun _ => rfl, fun _ => rfl⟩

theorem FileTree.isEmpty_of_checkPath {path : String} (checked : checkPath path = .ok ()) :
    path.isEmpty = false := by
  rw [checkPath] at checked
  split_ifs at checked with _ empty
  exact Bool.eq_false_iff.2 empty

theorem FileTree.origin_concat {path : String} (filled : path.isEmpty = false)
    (named : ¬ path.endsWith "/" = true) :
    ∃ before last, (origin path).2 = before ++ [last] ∧ last ≠ [] := by
  have pieces : (origin path).2 = Path.pieces path := by
    rw [origin]
    split <;> rfl
  rw [pieces]
  rw [Path.endsWith_slash_iff] at named
  obtain empty | ⟨front, c, ends⟩ := path.toList.eq_nil_or_concat
  · rw [String.toList_eq_nil_iff.1 empty] at filled
    cases filled
  · rw [List.concat_eq_append] at ends
    refine Path.pieces_concat ends fun slash => named ?_
    rw [ends, slash]
    exact List.suffix_append _ _

/-- A file that can be written is found where its path leads. -/
theorem FileTree.locate_of_locateNew {t : FileTree} {path : String} {place : Place}
    (found : t.locateNew path = .ok place) : t.locate path = .ok place := by
  rw [locateNew] at found
  obtain ⟨_, checked, found⟩ := Except.bind_eq_ok_iff.1 found
  dsimp only at found
  split at found
  · cases found
  · rename_i last above shape
    obtain ⟨folder, walked, entered⟩ := Except.bind_eq_ok_iff.1 found
    obtain ⟨_, _, stepped⟩ := Except.bind_eq_ok_iff.1 entered
    split_ifs at stepped with named
    · cases stepped
    · obtain ⟨before, piece, split, filled⟩ := origin_concat (isEmpty_of_checkPath checked) named
      rw [split, List.reverse_append, List.reverse_singleton, List.singleton_append,
        List.dropWhile_cons_of_neg (by simpa using filled)] at shape
      cases shape
      rw [List.reverse_reverse] at walked
      refine Except.bind_eq_ok_iff.2 ⟨(), checked, ?_⟩
      dsimp only
      rw [split, List.foldlM_append]
      refine Except.bind_eq_ok_iff.2 ⟨folder, walked, ?_⟩
      rw [List.foldlM_cons, stepped]
      rfl

/-- A file tree after a file was put in a place. -/
def FileTree.put (t : FileTree) (place : Place) (content : ByteArray) : FileTree :=
  ⟨(place, .file content) :: t.entries.filter (·.1 != place)⟩

section
variable {t : FileTree} {place folder : Place} {content : ByteArray}

theorem FileTree.at?_put : (t.put place content).at? place = some (.file content) := by
  simp [put, at?]

theorem FileTree.find?_put (other : place ≠ folder) :
    (t.put place content).entries.find? (·.1 == folder) = t.entries.find? (·.1 == folder) := by
  have sought (entry : Place × FileEntry) :
      decide ((entry.1 != place) = true ∧ (entry.1 == folder) = true) = (entry.1 == folder) := by
    by_cases here : entry.1 = folder
    · simp [here, Ne.symm other]
    · simp [here]
  rw [put, List.find?_cons_of_neg (by simpa using other), List.find?_filter]
  exact congrArg (t.entries.find? ·) (funext sought)

/-- A folder stays a folder if a file is put in another place. -/
theorem FileTree.at?_put_folder (stands : t.at? folder = some .folder) (other : place ≠ folder) :
    (t.put place content).at? folder = some .folder := by
  rw [at?] at stands ⊢
  rw [find?_put other]
  split at stands
  · exact stands
  · -- A folder without an entry lies on the way to one, and replacing that one keeps the way.
    rename_i absent
    have above : Place.isAbove folder ∨ t.entries.any fun entry => folder.isPrefixOf entry.1 := by
      by_contra neither
      rw [if_neg (by simpa using neither)] at stands
      cases stands
    refine if_pos ?_
    rw [Bool.or_eq_true]
    refine above.imp_right fun inside => ?_
    obtain ⟨entry, member, leads⟩ := List.any_eq_true.1 inside
    by_cases replaced : entry.1 = place
    · exact List.any_eq_true.2 ⟨_, List.mem_cons_self, by rw [← replaced]; exact leads⟩
    · have left : entry ∈ t.entries.filter (·.1 != place) :=
        List.mem_filter.2 ⟨member, by simpa using replaced⟩
      exact List.any_eq_true.2 ⟨entry, List.mem_cons_of_mem _ left, leads⟩

/-- A file that is put in no folder's place blocks no way. -/
theorem FileTree.step_put {next : Place} {piece : List Char} (free : t.at? place ≠ some .folder)
    (stepped : t.step folder piece = .ok next) :
    (t.put place content).step folder piece = .ok next := by
  obtain ⟨_, entered, found⟩ := Except.bind_eq_ok_iff.1 stepped
  have stands := enter_ok_iff.1 entered
  have other : place ≠ folder := by
    rintro rfl
    exact free stands
  exact Except.bind_eq_ok_iff.2 ⟨(), enter_ok_iff.2 (at?_put_folder stands other), found⟩

theorem FileTree.locate_put {path : String} {reached : Place}
    (free : t.at? place ≠ some .folder) (found : t.locate path = .ok reached) :
    (t.put place content).locate path = .ok reached := by
  obtain ⟨_, checked, walked⟩ := Except.bind_eq_ok_iff.1 found
  refine Except.bind_eq_ok_iff.2 ⟨(), checked, ?_⟩
  dsimp only at walked ⊢
  generalize (origin path).1 = start at walked ⊢
  generalize (origin path).2 = pieces at walked ⊢
  induction pieces generalizing start with
  | nil => exact walked
  | cons piece pieces ih =>
    rw [List.foldlM_cons] at walked ⊢
    obtain ⟨next, stepped, walked⟩ := Except.bind_eq_ok_iff.1 walked
    exact Except.bind_eq_ok_iff.2 ⟨next, step_put free stepped, ih next walked⟩

/-- A file that was written reads back under the path that it was written to. -/
theorem FileTree.read_write {path : String} {after : FileTree}
    (written : t.write path content = .ok after) : after.read path = .ok content := by
  obtain ⟨place, located, written⟩ := Except.bind_eq_ok_iff.1 written
  have made : t.at? place ≠ some .folder ∧ t.put place content = after := by
    split at written
    · cases written
    · rename_i free
      exact ⟨free, Except.ok.inj written⟩
  obtain ⟨free, rfl⟩ := made
  have found : (t.put place content).locate path = .ok place :=
    locate_put free (locate_of_locateNew located)
  rw [read, look, found]
  dsimp only [bind, Except.bind]
  rw [at?_put]
  rfl

end

end RangeTest
