import DocWeave.Proofs.Discovery.Found
import DocWeave.Proofs.Expansion.Walk
import DocWeave.Proofs.FileTree.Reading
import DocWeave.Proofs.Glob.Readable
import DocWeave.Proofs.Project.Task

/-! # Patterns that end a run

A pattern that cannot be read fails where it is compiled, and nothing on the way up catches that: not
the discovery for the patterns of a strategy, which goes through them in order, and not the run. So a
run fails for a pattern exactly if it comes to a strategy with one that cannot be read, before which
the strategy has no pattern that fails in another way.
-/

namespace DocWeave

namespace Discovery

variable {tree : FileTree} {scope : Scope} {pattern : Text} {patterns : List Text}

theorem compiles_iff : Compiles scope pattern ↔ Glob.isReadable (rest scope pattern) = true :=
  Glob.exists_compile_iff

theorem search_pattern_iff : (∃ fault, search tree scope pattern = .error (.pattern fault)) ↔
    Glob.isReadable (rest scope pattern) = false := by
  rw [← Bool.not_eq_true, ← compiles_iff]
  constructor
  · rintro ⟨fault, failed⟩
    rcases error_of_search failed with ⟨broken, -⟩ | ⟨-, other⟩
    · exact broken
    · cases other
  · exact search_of_not_compiles

theorem search_ok_iff : (∃ found, search tree scope pattern = .ok found) ↔
    Glob.isReadable (rest scope pattern) = true ∧ ¬ StartsAtNull scope pattern := by
  rw [← compiles_iff]
  constructor
  · rintro ⟨found, ended⟩
    obtain ⟨pieces, compiled, begins, -⟩ := search_eq_ok_iff.1 ended
    exact ⟨⟨pieces, compiled⟩, begins⟩
  · rintro ⟨⟨pieces, compiled⟩, begins⟩
    exact ⟨_, search_eq_ok_iff.2 ⟨pieces, compiled, begins, rfl⟩⟩

/-- The first of the patterns that makes a search fail is one that cannot be read. -/
def Refuses (scope : Scope) (patterns : List Text) : Prop :=
  ∃ before pattern behind, patterns = before ++ pattern :: behind ∧
    Glob.isReadable (rest scope pattern) = false ∧
    ∀ other ∈ before, Glob.isReadable (rest scope other) = true ∧ ¬ StartsAtNull scope other

/-- Discovery fails for a pattern exactly if it comes to one that cannot be read. -/
theorem find_pattern_iff : (∃ fault, find tree scope patterns = .error (.pattern fault)) ↔
    Refuses scope patterns := by
  simp only [find_eq_error_iff, mapM_eq_error_iff, search_ok_iff]
  constructor
  · rintro ⟨fault, before, pattern, behind, cut, fine, failed⟩
    exact ⟨before, pattern, behind, cut, search_pattern_iff.1 ⟨fault, failed⟩, fine⟩
  · rintro ⟨before, pattern, behind, cut, unreadable, fine⟩
    obtain ⟨fault, failed⟩ := (@search_pattern_iff tree scope pattern).2 unreadable
    exact ⟨fault, before, pattern, behind, cut, fine, failed⟩

end Discovery

namespace Moment

variable {m : Moment} {p : Project}

/-- The task of a moment fails for a pattern only when it discovers the files of a strategy. -/
theorem fails_pattern_iff : (∃ fault, m.Fails p (.pattern fault)) ↔
    ∃ tool strategy, m.task = .discover tool strategy ∧
      Discovery.Refuses p.scope strategy.patterns := by
  obtain ⟨task, s⟩ := m
  cases task with
  | discover tool strategy =>
    simp only [fails_discover_iff, Discovery.find_pattern_iff]
    constructor
    · exact fun refuses => ⟨tool, strategy, rfl, refuses⟩
    · rintro ⟨_, _, ⟨⟩, refuses⟩
      exact refuses
  | prepare tool strategy path =>
    constructor
    · rintro ⟨fault, fails⟩
      rcases fails_prepare_iff.1 fails with unread | ⟨raw, -, ended⟩
      · exact absurd unread (FileTree.readText_ne_pattern fault)
      · obtain ⟨_, _, _, -, -, directive, -, failsAt⟩ := Weaver.exists_leads_of_weave_error ended
        cases failsAt with
        | read _ unread _ => exact absurd unread (FileTree.readText_ne_pattern fault)
    · rintro ⟨_, _, ⟨⟩, _⟩
  | settle read callback failed =>
    constructor
    · rintro ⟨fault, fails⟩
      exact absurd fails not_fails_settle
    · rintro ⟨_, _, ⟨⟩, _⟩

end Moment

namespace Project

/-- A pattern compiles exactly if it can be read. Discovery fails for a pattern exactly if it comes to
one that cannot be read, and a run exactly if it comes to such a discovery. -/
theorem run_pattern_iff (pattern : Text) (patterns : List Text) (scope : Scope) (tree : FileTree)
    (p : Project) (s : Session) :
    ((∃ pieces, Glob.compile pattern = .ok pieces) ↔ Glob.isReadable pattern = true) ∧
    ((∃ fault, Discovery.find tree scope patterns = .error (.pattern fault)) ↔
      Discovery.Refuses scope patterns) ∧
    ((∃ fault, (p.run s).1 = .error (.pattern fault)) ↔
      ∃ m ∈ p.moments s, ∃ tool strategy, m.task = .discover tool strategy ∧
        Discovery.Refuses p.scope strategy.patterns) := by
  refine ⟨Glob.exists_compile_iff, Discovery.find_pattern_iff, ?_⟩
  simp only [run_error_iff, ← Moment.fails_pattern_iff]
  constructor
  · rintro ⟨fault, m, mem, fails⟩
    exact ⟨m, mem, fault, fails⟩
  · rintro ⟨m, mem, fault, fails⟩
    exact ⟨fault, m, mem, fails⟩

/-- A strategy that looks for one pattern and does nothing. -/
def looking (pattern : Text) : Strategy :=
  ⟨"rules", [pattern], fun _ => .done (.record (.items []) (.list []) .null)⟩

/-- An expression that negates nothing and a range that runs backwards are refused, and either ends a
run even where there are no files. -/
theorem run_error_of_unreadable :
    let negating : PatternFault := ⟨"bad escape \\Z", 3, "[^]\\Z"⟩
    let backward : PatternFault := ⟨"bad character range z-a", 1, "[z-a]\\Z"⟩
    let s := Session.start FileTree.empty (.echoing false) none
    Glob.compile "[!]" = .error negating ∧ Glob.compile "[z-a]" = .error backward ∧
      ((single (looking "[!]")).run s).1 = .error (.pattern negating) ∧
      ((single (looking "[z-a]")).run s).1 = .error (.pattern backward) := by
  decide +kernel

end Project

end DocWeave
