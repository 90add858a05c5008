import ConfigCheck.Text.Record

/-!
# Logs

A computation that keeps a log has an outcome and the records that it made on the way, also if it
fails (`Logged`).  The outcome never depends on the log: it is what the outcomes of the steps give
(`Logged.outcome_bind`), and the log is theirs one after the other (`Logged.log_bind_ok`).  Which
records are shown depends on the verbosity alone.
-/

namespace ConfigCheck

namespace Log

/-- How important a record is. -/
inductive Level where
  /-- The run fails for a reason of its own. -/
  | error
  /-- Something has been left out. -/
  | warn
  /-- A result. -/
  | info
  /-- A step on the way. -/
  | debug
deriving DecidableEq, Repr, Inhabited

namespace Level

/-- The name of the level, right-aligned. -/
def label : Level → String
  | error => "ERROR"
  | warn => " WARN"
  | info => " INFO"
  | debug => "DEBUG"

/-- The least verbosity at which records of the level are shown. -/
def threshold : Level → Nat
  | error | warn => 0
  | info => 1
  | debug => 2

end Level

/-- A record of a log. -/
structure Record where
  /-- How important the record is. -/
  level : Level
  /-- What happened. -/
  message : String
  /-- The details, by name. -/
  fields : List (String × String) := []
deriving DecidableEq, Repr, Inhabited

namespace Record

/-- The record as a line, without its end. -/
def line (r : Record) : String :=
  let fields := r.fields.map fun (name, value) => name ++ "=" ++ value
  " ".intercalate (r.level.label :: r.message :: fields)

/-- Whether the record is shown. -/
def shownAt (verbosity : Nat) (r : Record) : Bool := decide (r.level.threshold ≤ verbosity)

end Record

/-- The lines that are shown. -/
def lines (verbosity : Nat) (log : List Record) : List String :=
  (log.filter (Record.shownAt verbosity)).map Record.line

end Log

/-- A result, or why there is none, with the log of the way to it. -/
structure Logged (ε α : Type) where
  /-- The result, or why there is none. -/
  outcome : Except ε α
  /-- What has been recorded, in order. -/
  log : List Log.Record

namespace Logged

variable {ε α β : Type}

/-- An outcome without any record. -/
def ofExcept (outcome : Except ε α) : Logged ε α := ⟨outcome, []⟩

/-- A failure without any record. -/
def fail (e : ε) : Logged ε α := ofExcept (.error e)

/-- Makes a record. -/
def record (r : Log.Record) : Logged ε Unit := ⟨.ok (), [r]⟩

/-- Goes on with the result, if there is one. -/
def andThen (x : Logged ε α) (f : α → Logged ε β) : Logged ε β :=
  match x.outcome with
  | .ok a => ⟨(f a).outcome, x.log ++ (f a).log⟩
  | .error e => ⟨.error e, x.log⟩

instance : Monad (Logged ε) where
  pure a := ofExcept (.ok a)
  bind := andThen

@[simp] theorem outcome_pure (a : α) : (pure a : Logged ε α).outcome = .ok a := rfl

@[simp] theorem log_pure (a : α) : (pure a : Logged ε α).log = [] := rfl

@[simp] theorem outcome_record (r : Log.Record) : (record r : Logged ε Unit).outcome = .ok () := rfl

@[simp] theorem log_record (r : Log.Record) : (record r : Logged ε Unit).log = [r] := rfl

@[simp] theorem outcome_fail (e : ε) : (fail e : Logged ε α).outcome = .error e := rfl

@[simp] theorem log_fail (e : ε) : (fail e : Logged ε α).log = [] := rfl

@[simp] theorem outcome_ofExcept (o : Except ε α) : (ofExcept o).outcome = o := rfl

@[simp] theorem log_ofExcept (o : Except ε α) : (ofExcept o).log = [] := rfl

/-- The outcome is that of the steps. -/
@[simp] theorem outcome_bind (x : Logged ε α) (f : α → Logged ε β) :
    (x >>= f).outcome = x.outcome >>= fun a => (f a).outcome := by
  cases h : x.outcome <;> simp [bind, andThen, h, Except.bind]

/-- After a result the logs of both steps stand one after the other. -/
theorem log_bind_ok {x : Logged ε α} {a : α} (h : x.outcome = .ok a) (f : α → Logged ε β) :
    (x >>= f).log = x.log ++ (f a).log := by
  simp [bind, andThen, h]

/-- After a failure nothing more is recorded. -/
theorem log_bind_error {x : Logged ε α} {e : ε} (h : x.outcome = .error e) (f : α → Logged ε β) :
    (x >>= f).log = x.log := by
  simp [bind, andThen, h]

end Logged

end ConfigCheck
