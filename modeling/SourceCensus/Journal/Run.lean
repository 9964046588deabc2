import SourceCensus.Journal.Notice

/-! # Computations with a journal -/

namespace SourceCensus

universe u v

structure Run (ε : Type u) (α : Type v) where
  notices : List Notice
  outcome : Except ε α

namespace Run

variable {ε ε' : Type u} {α β : Type v}

@[reducible] protected def pure (a : α) : Run ε α := ⟨[], .ok a⟩

protected def bind (r : Run ε α) (f : α → Run ε β) : Run ε β :=
  match r.outcome with
  | .ok a => ⟨r.notices ++ (f a).notices, (f a).outcome⟩
  | .error e => ⟨r.notices, .error e⟩

instance : Monad (Run ε) where
  pure := Run.pure
  bind := Run.bind

def note (notice : Notice) : Run ε Unit := ⟨[notice], .ok ()⟩

def noteIf (condition : Bool) (notice : Notice) : Run ε Unit :=
  ⟨if condition then [notice] else [], .ok ()⟩

def fault (e : ε) : Run ε α := ⟨[], .error e⟩

def ofExcept (outcome : Except ε α) : Run ε α := ⟨[], outcome⟩

def mapFault (f : ε → ε') (r : Run ε α) : Run ε' α :=
  ⟨r.notices, r.outcome.mapError f⟩

@[simp] theorem notices_pure (a : α) : (pure a : Run ε α).notices = [] := rfl

@[simp] theorem outcome_pure (a : α) : (pure a : Run ε α).outcome = .ok a := rfl

@[simp] theorem outcome_note (notice : Notice) : (note notice : Run ε Unit).outcome = .ok () := rfl

@[simp] theorem outcome_noteIf (condition : Bool) (notice : Notice) :
    (noteIf condition notice : Run ε Unit).outcome = .ok () := rfl

@[simp] theorem outcome_ofExcept (outcome : Except ε α) : (ofExcept outcome).outcome = outcome :=
  rfl

/-- How a sequence of runs ends does not hang on the notices. -/
theorem outcome_bind (r : Run ε α) (f : α → Run ε β) :
    (r >>= f).outcome = r.outcome >>= fun a => (f a).outcome := by
  change (Run.bind r f).outcome = _
  unfold Run.bind
  cases r.outcome <;> simp [bind, Except.bind]

end Run

end SourceCensus
