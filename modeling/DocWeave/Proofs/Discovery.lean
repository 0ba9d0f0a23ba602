import DocWeave.Discovery
import DocWeave.Proofs.Ascending

/-! # What discovery fails with

A search fails only for its pattern: the pattern does not compile, or its fixed part holds the null
character. For any other pattern a search finds something or nothing, whatever the tree holds.
-/

namespace DocWeave.Discovery

variable {tree : FileTree} {scope : Scope} {pattern : Text} {patterns : List Text}
  {failure : Failure}

/-- What of a pattern is matched, below the directory that its fixed part names, compiles. -/
def Compiles (scope : Scope) (pattern : Text) : Prop :=
  ∃ pieces, Glob.compile (Glob.split pattern scope.root.normalize).2 = .ok pieces

/-- The fixed part of a pattern holds the null character. -/
def StartsAtNull (scope : Scope) (pattern : Text) : Prop :=
  FileTree.hasNull (Glob.split pattern scope.root.normalize).1 = true

/-- What a search comes to: a failure for its pattern, or something that it finds. -/
theorem search_cases (tree : FileTree) (scope : Scope) (pattern : Text) :
    (¬ Compiles scope pattern ∧ ∃ fault, search tree scope pattern = .error (.pattern fault)) ∨
    Compiles scope pattern ∧
      (StartsAtNull scope pattern ∧ search tree scope pattern = .error .nullCharacter ∨
        ¬ StartsAtNull scope pattern ∧ ∃ found, search tree scope pattern = .ok found) := by
  unfold Compiles StartsAtNull search
  generalize Glob.split pattern scope.root.normalize = parts
  obtain ⟨start, rest⟩ := parts
  dsimp only
  cases compiled : Glob.compile rest with
  | error fault => exact .inl ⟨by simp, fault, rfl⟩
  | ok pieces =>
    refine .inr ⟨⟨pieces, rfl⟩, ?_⟩
    cases null : FileTree.hasNull start with
    | true => exact .inl ⟨rfl, rfl⟩
    | false =>
      refine .inr ⟨Bool.false_ne_true, ?_⟩
      cases directory : tree.isDirectory start with
      | false => exact ⟨[], rfl⟩
      | true => exact ⟨_, rfl⟩

theorem error_of_search (failed : search tree scope pattern = .error failure) :
    (¬ Compiles scope pattern ∧ ∃ fault, failure = .pattern fault) ∨
      (StartsAtNull scope pattern ∧ failure = .nullCharacter) := by
  rcases search_cases tree scope pattern with
    ⟨broken, fault, ended⟩ | ⟨-, ⟨null, ended⟩ | ⟨-, _, ended⟩⟩ <;>
    cases ended.symm.trans failed
  · exact .inl ⟨broken, fault, rfl⟩
  · exact .inr ⟨null, rfl⟩

theorem search_of_startsAtNull (compiles : Compiles scope pattern)
    (null : StartsAtNull scope pattern) : search tree scope pattern = .error .nullCharacter := by
  rcases search_cases tree scope pattern with ⟨broken, -⟩ | ⟨-, ⟨-, ended⟩ | ⟨other, -⟩⟩
  · exact absurd compiles broken
  · exact ended
  · exact absurd null other

theorem search_of_not_compiles (broken : ¬ Compiles scope pattern) :
    ∃ fault, search tree scope pattern = .error (.pattern fault) := by
  rcases search_cases tree scope pattern with ⟨-, failed⟩ | ⟨compiles, -⟩
  · exact failed
  · exact absurd compiles broken

/-- Going through a list fails exactly at the first of its items that fails. -/
theorem mapM_eq_error_iff {α β : Type} {f : α → Except Failure β} {xs : List α} :
    xs.mapM f = .error failure ↔ ∃ before x behind, xs = before ++ x :: behind ∧
      (∀ y ∈ before, ∃ value, f y = .ok value) ∧ f x = .error failure := by
  induction xs with
  | nil =>
    constructor
    · nofun
    · rintro ⟨before, x, behind, cut, -⟩
      simp at cut
  | cons x xs ih =>
    rw [List.mapM_cons]
    cases first : f x with
    | error cause =>
      constructor
      · intro failed
        cases failed
        exact ⟨[], x, xs, rfl, nofun, first⟩
      · rintro ⟨before, y, behind, cut, fine, failed⟩
        cases before with
        | nil =>
          obtain ⟨rfl, rfl⟩ := List.cons.inj cut
          cases first.symm.trans failed
          rfl
        | cons z before =>
          obtain ⟨rfl, rfl⟩ := List.cons.inj cut
          obtain ⟨value, other⟩ := fine x List.mem_cons_self
          cases first.symm.trans other
    | ok value =>
      have further : (Except.ok value >>= fun value => xs.mapM f >>= fun values =>
          pure (value :: values)) = .error failure ↔ xs.mapM f = .error failure := by
        cases xs.mapM f with
        | error cause =>
          constructor <;> exact fun same => congrArg Except.error (Except.error.inj same)
        | ok values => constructor <;> nofun
      rw [further, ih]
      constructor
      · rintro ⟨before, y, behind, rfl, fine, failed⟩
        exact ⟨x :: before, y, behind, rfl, List.forall_mem_cons.2 ⟨⟨value, first⟩, fine⟩, failed⟩
      · rintro ⟨before, y, behind, cut, fine, failed⟩
        cases before with
        | nil =>
          obtain ⟨rfl, rfl⟩ := List.cons.inj cut
          cases first.symm.trans failed
        | cons z before =>
          obtain ⟨rfl, rfl⟩ := List.cons.inj cut
          exact ⟨before, y, behind, rfl, (List.forall_mem_cons.1 fine).2, failed⟩

theorem exists_of_mapM_error {α β : Type} {f : α → Except Failure β} {xs : List α}
    (failed : xs.mapM f = .error failure) : ∃ x ∈ xs, f x = .error failure := by
  obtain ⟨before, x, behind, rfl, -, failed⟩ := mapM_eq_error_iff.1 failed
  exact ⟨x, by simp, failed⟩

/-- Going through a list to a good end gives what each item gives, and only what an item gives. -/
theorem exists_of_mapM_ok {α β : Type} {f : α → Except Failure β} {xs : List α} {ys : List β}
    (ended : xs.mapM f = .ok ys) :
    (∀ x ∈ xs, ∃ y ∈ ys, f x = .ok y) ∧ ∀ y ∈ ys, ∃ x ∈ xs, f x = .ok y := by
  induction xs generalizing ys with
  | nil =>
    cases ended
    exact ⟨nofun, nofun⟩
  | cons x xs ih =>
    rw [List.mapM_cons] at ended
    cases first : f x with
    | error cause =>
      rw [first] at ended
      cases ended
    | ok value =>
      cases rest : xs.mapM f with
      | error cause =>
        rw [first, rest] at ended
        cases ended
      | ok values =>
        rw [first, rest] at ended
        cases ended
        obtain ⟨each, given⟩ := ih rest
        refine ⟨List.forall_mem_cons.2 ⟨⟨value, List.mem_cons_self, first⟩, ?_⟩, ?_⟩
        · intro y mem
          obtain ⟨z, listed, gives⟩ := each y mem
          exact ⟨z, List.mem_cons_of_mem value listed, gives⟩
        intro y mem
        rcases List.mem_cons.1 mem with rfl | behind
        · exact ⟨x, List.mem_cons_self, first⟩
        · obtain ⟨z, listed, gives⟩ := given y behind
          exact ⟨z, List.mem_cons_of_mem x listed, gives⟩

/-- Discovery fails with what going through the patterns fails with. -/
theorem find_eq_error_iff : find tree scope patterns = .error failure ↔
    patterns.mapM (search tree scope) = .error failure := by
  unfold find
  cases patterns.mapM (search tree scope) with
  | error cause =>
    constructor <;> exact fun same => congrArg Except.error (Except.error.inj same)
  | ok all => constructor <;> nofun

/-- Discovery puts in order what the searches for the patterns find. -/
theorem find_eq_ok_iff {found : List Path} : find tree scope patterns = .ok found ↔
    ∃ all, patterns.mapM (search tree scope) = .ok all ∧ found = Ascending.ofList all.flatten := by
  unfold find
  cases patterns.mapM (search tree scope) with
  | error cause => constructor <;> nofun
  | ok all =>
    constructor
    · rintro ⟨⟩
      exact ⟨all, rfl, rfl⟩
    · rintro ⟨_, ⟨⟩, rfl⟩
      rfl

/-- Discovery fails only for a pattern that does not compile or starts at the null character. -/
theorem error_of_find (failed : find tree scope patterns = .error failure) :
    (∃ pattern ∈ patterns, ¬ Compiles scope pattern ∧ ∃ fault, failure = .pattern fault) ∨
      ∃ pattern ∈ patterns, StartsAtNull scope pattern ∧ failure = .nullCharacter := by
  obtain ⟨pattern, mem, failed⟩ := exists_of_mapM_error (find_eq_error_iff.1 failed)
  rcases error_of_search failed with compiles | null
  · exact .inl ⟨pattern, mem, compiles⟩
  · exact .inr ⟨pattern, mem, null⟩

/-- Where every pattern compiles, one that starts at the null character ends the discovery. -/
theorem find_of_startsAtNull (compiles : ∀ pattern ∈ patterns, Compiles scope pattern)
    (mem : pattern ∈ patterns) (null : StartsAtNull scope pattern) :
    find tree scope patterns = .error .nullCharacter := by
  cases ended : find tree scope patterns with
  | error cause =>
    rcases error_of_find ended with ⟨other, listed, broken, _⟩ | ⟨_, _, _, same⟩
    · exact absurd (compiles other listed) broken
    · rw [same]
  | ok found =>
    obtain ⟨all, searched, -⟩ := find_eq_ok_iff.1 ended
    obtain ⟨paths, -, searched⟩ := (exists_of_mapM_ok searched).1 pattern mem
    rw [search_of_startsAtNull (compiles pattern mem) null] at searched
    cases searched

/-- What is found is found for one of the patterns. -/
theorem exists_of_mem_find {found : List Path} {path : Path}
    (ended : find tree scope patterns = .ok found) (mem : path ∈ found) :
    ∃ pattern ∈ patterns, ∃ paths, search tree scope pattern = .ok paths ∧ path ∈ paths := by
  obtain ⟨all, searched, rfl⟩ := find_eq_ok_iff.1 ended
  obtain ⟨paths, listed, within⟩ := List.mem_flatten.1 (Ascending.mem_of_mem_ofList mem)
  obtain ⟨pattern, wanted, searched⟩ := (exists_of_mapM_ok searched).2 paths listed
  exact ⟨pattern, wanted, paths, searched, within⟩

end DocWeave.Discovery
