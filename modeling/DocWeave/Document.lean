import DocWeave.Trace

/-! # Documents and requests for them

A resolved document, a request for documents, and the programs that stages and callbacks are: a
program computes, gives up, or requests documents and goes on with what it gets, or with the reason
why it gets nothing.
-/

namespace DocWeave

/-- A document after its directives have been resolved. -/
structure SourceFile where
  name : Text
  content : Text
  path : Text
  /-- The path as seen from the project root. -/
  relativePath : Text
  /-- The suffix of the name, with its point. -/
  extension : Text
  deriving DecidableEq, Repr

/-- The description of a resolved document of the project at `root`. -/
def SourceFile.ofContent (root path : Path) (content : Text) : SourceFile where
  name := path.name
  content := content
  path := path.toText
  relativePath := path.relativeTo root
  extension := path.suffix

/-- On whose behalf a document is read, and the pipeline that its content goes through. -/
structure ReadOptions where
  tool : Text
  strategy : Text
  pipelines : Option Text
  deriving DecidableEq, Repr

/-- A computation that may request documents. What comes next depends on the answer; a request
that fails need not end the computation. -/
inductive Program (α : Type) where
  | done (value : α)
  | fail (failure : Failure)
  | tryFetch (literal : Text) (options : ReadOptions)
    (next : Except Failure SourceFile → Program α)
  | tryFetchAll (patterns : List Text) (options : ReadOptions)
    (next : Except Failure (List SourceFile) → Program α)

/-- What answers the requests of a program. -/
structure Library where
  fetch : Text → ReadOptions → Trace SourceFile
  fetchAll : List Text → ReadOptions → Trace (List SourceFile)

namespace Program

variable {α β : Type}

/-- Goes on with an answer; where there is none, the program gives up for the same reason. -/
def orFail (next : β → Program α) : Except Failure β → Program α
  | .ok answer => next answer
  | .error failure => fail failure

/-- Requests a document that the program cannot do without. -/
def fetch (literal : Text) (options : ReadOptions) (next : SourceFile → Program α) : Program α :=
  tryFetch literal options (orFail next)

/-- Requests documents that the program cannot do without. -/
def fetchAll (patterns : List Text) (options : ReadOptions)
    (next : List SourceFile → Program α) : Program α :=
  tryFetchAll patterns options (orFail next)

/-- Goes on with the result. -/
def andThen : Program α → (α → Program β) → Program β
  | done value, more => more value
  | fail failure, _ => fail failure
  | tryFetch literal options next, more =>
    tryFetch literal options fun answer => (next answer).andThen more
  | tryFetchAll patterns options next, more =>
    tryFetchAll patterns options fun answer => (next answer).andThen more

instance : Monad Program where
  pure := done
  bind := andThen

/-- The program that only gives its outcome. -/
def ofOutcome : Except Failure α → Program α
  | .ok value => done value
  | .error failure => fail failure

/-- Runs a program against a library. -/
def run (library : Library) : Program α → Trace α
  | done value => Trace.done value
  | fail failure => Trace.fail failure
  | tryFetch literal options next =>
    (library.fetch literal options).attempt.andThen fun answer => (next answer).run library
  | tryFetchAll patterns options next =>
    (library.fetchAll patterns options).attempt.andThen fun answer => (next answer).run library

/-- Whether a program requests nothing. -/
def IsPure : Program α → Prop
  | done _ => True
  | fail _ => True
  | tryFetch .. => False
  | tryFetchAll .. => False

end Program

namespace Library

/-- Where there is no library, every request fails, naming what is missing. -/
def absent : Library where
  fetch _ _ := Trace.fail (.shape (.noAttribute "NoneType" "file_read"))
  fetchAll _ _ := Trace.fail (.shape (.noAttribute "NoneType" "files_read"))

/-- Requests that come from too deep within other requests fail. -/
def exhausted : Library where
  fetch _ _ := Trace.fail .nestedTooDeep
  fetchAll _ _ := Trace.fail .nestedTooDeep

end Library

end DocWeave
