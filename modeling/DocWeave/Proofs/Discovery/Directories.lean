import DocWeave.Discovery
import Mathlib.Data.List.Induction
import Mathlib.Data.List.Nodup

/-! # Files by directory

Grouping files by directory is collecting them one by one: a file joins the group of its directory,
or it opens one behind the others. So every file is in exactly one group, in the order in which the
files are met, and the groups are in the order in which their directories are met first; it does not
matter whether the files of one directory are met one after another.
-/

namespace DocWeave.Discovery

variable {paths : List Path} {path directory : Path} {groups : List (Path × List Path)}

/-- The groups with one more file. -/
def collect (groups : List (Path × List Path)) (path : Path) : List (Path × List Path) :=
  match groups with
  | [] => [(path.parent, [path])]
  | (directory, members) :: further =>
    if directory = path.parent then (directory, members ++ [path]) :: further
    else (directory, members) :: collect further path

/-- The directories of files, in the order in which they are met. -/
def directories (paths : List Path) : List Path := (paths.map Path.parent).eraseDups

theorem map_fst_byDirectory (paths : List Path) :
    (byDirectory paths).map Prod.fst = directories paths := by
  simp [byDirectory, directories, Function.comp_def]

theorem mem_directories_iff : directory ∈ directories paths ↔ directory ∈ paths.map Path.parent :=
  List.mem_eraseDups

theorem directories_concat (paths : List Path) (path : Path) :
    directories (paths ++ [path]) =
      if path.parent ∈ directories paths then directories paths
      else directories paths ++ [path.parent] := by
  have added : directories (paths ++ [path]) =
      directories paths ++ ([path.parent].removeAll (paths.map Path.parent)).eraseDups := by
    rw [directories, List.map_append, List.eraseDups_append]
    rfl
  rw [added, List.removeAll]
  split
  · rename_i met
    rw [List.filter_cons_of_neg (by simpa [mem_directories_iff] using met)]
    exact List.append_nil _
  · rename_i new
    rw [List.filter_cons_of_pos (by simpa [mem_directories_iff] using new)]
    rfl

/-- Of two directories the one whose first file comes first is first. -/
theorem pairwise_directories (paths : List Path) : (directories paths).Pairwise fun first second =>
    (paths.map Path.parent).idxOf first < (paths.map Path.parent).idxOf second := by
  induction paths using List.reverseRecOn with
  | nil => exact .nil
  | append_singleton paths path ih =>
    have same : ∀ directory ∈ directories paths,
        ((paths ++ [path]).map Path.parent).idxOf directory =
          (paths.map Path.parent).idxOf directory := by
      intro directory mem
      rw [List.map_append, List.idxOf_append_of_mem (mem_directories_iff.1 mem)]
    have kept : (directories paths).Pairwise fun first second =>
        ((paths ++ [path]).map Path.parent).idxOf first <
          ((paths ++ [path]).map Path.parent).idxOf second :=
      ih.imp_of_mem fun first second below => by rwa [same _ first, same _ second]
    rw [directories_concat]
    split
    · exact kept
    · rename_i new
      refine List.pairwise_append.2 ⟨kept, List.pairwise_singleton .., ?_⟩
      intro directory mem last single
      rw [List.mem_singleton.1 single, same directory mem, List.map_append,
        List.idxOf_append_of_notMem (fun listed => new (mem_directories_iff.2 listed))]
      have within := List.idxOf_lt_length_iff.2 (mem_directories_iff.1 mem)
      omega

theorem nodup_directories (paths : List Path) : (directories paths).Nodup :=
  (pairwise_directories paths).imp fun below same => by
    rw [same] at below
    exact Nat.lt_irrefl _ below

/-- The files of a directory with one more file. -/
theorem filter_concat (paths : List Path) (path directory : Path) :
    (paths ++ [path]).filter (fun other => other.parent = directory) =
      (paths.filter fun other => other.parent = directory) ++
        if path.parent = directory then [path] else [] := by
  rw [List.filter_append, List.filter_singleton]
  by_cases here : path.parent = directory <;> simp [here]

/-- A file of a directory that has a group joins that. -/
theorem collect_of_mem {known : List Path} (distinct : known.Nodup) (met : path.parent ∈ known)
    (paths : List Path) :
    collect (known.map fun directory =>
        (directory, paths.filter fun other => other.parent = directory)) path =
      known.map fun directory =>
        (directory, (paths ++ [path]).filter fun other => other.parent = directory) := by
  induction known with
  | nil => cases met
  | cons first known ih =>
    obtain ⟨single, further⟩ := List.nodup_cons.1 distinct
    rw [List.map_cons, List.map_cons, collect, filter_concat]
    by_cases hit : first = path.parent
    · rw [if_pos hit, if_pos hit.symm]
      refine congrArg _ (List.map_congr_left fun directory mem => ?_)
      have apart : path.parent ≠ directory := by
        rintro rfl
        exact single (hit ▸ mem)
      rw [filter_concat, if_neg apart, List.append_nil]
    · rw [if_neg hit, if_neg (Ne.symm hit), List.append_nil]
      exact congrArg _ (ih further ((List.mem_cons.1 met).resolve_left (Ne.symm hit)))

/-- A file of a directory that has none opens one. -/
theorem collect_of_not_mem (new : path.parent ∉ groups.map Prod.fst) :
    collect groups path = groups ++ [(path.parent, [path])] := by
  induction groups with
  | nil => rfl
  | cons group further ih =>
    obtain ⟨directory, members⟩ := group
    rw [List.map_cons, List.mem_cons, not_or] at new
    rw [collect, if_neg (Ne.symm new.1), ih new.2]
    rfl

/-- Grouping one more file is collecting it. -/
theorem byDirectory_concat (paths : List Path) (path : Path) :
    byDirectory (paths ++ [path]) = collect (byDirectory paths) path := by
  have grouped (paths : List Path) : byDirectory paths = (directories paths).map fun directory =>
      (directory, paths.filter fun other => other.parent = directory) := rfl
  by_cases met : path.parent ∈ directories paths
  · rw [grouped, grouped, directories_concat, if_pos met]
    exact (collect_of_mem (nodup_directories paths) met paths).symm
  · have none : paths.filter (fun other => other.parent = path.parent) = [] := by
      rw [List.filter_eq_nil_iff]
      intro other mem same
      exact met (mem_directories_iff.2 (List.mem_map.2 ⟨other, mem, of_decide_eq_true same⟩))
    rw [collect_of_not_mem (by rwa [map_fst_byDirectory]), grouped, grouped, directories_concat,
      if_neg met, List.map_append, List.map_singleton, filter_concat, none, if_pos rfl]
    refine congrArg (· ++ _) (List.map_congr_left fun directory mem => ?_)
    have apart : path.parent ≠ directory := by
      rintro rfl
      exact met mem
    rw [filter_concat, if_neg apart, List.append_nil]

/-- Grouping is collecting the files one by one. -/
theorem byDirectory_eq_foldl (paths : List Path) : byDirectory paths = paths.foldl collect [] := by
  induction paths using List.reverseRecOn with
  | nil => rfl
  | append_singleton paths path ih => rw [byDirectory_concat, ih, List.foldl_append]; rfl

end DocWeave.Discovery
