import SourceCensus.Proofs.Outcome
import SourceCensus.Source.Project

/-! # What becomes of source files -/

namespace SourceCensus

namespace FileOutcome

variable {α β : Type}

def map (f : α → β) : FileOutcome α → FileOutcome β
  | text result => text (f result)
  | binary => binary
  | failed error => failed error

def text? : FileOutcome α → Option α
  | text result => some result
  | binary | failed _ => none

def error? : FileOutcome α → Option ScanError
  | failed error => some error
  | text _ | binary => none

def isBinary : FileOutcome α → Bool
  | binary => true
  | text _ | failed _ => false

theorem text?_map (f : α → β) (outcome : FileOutcome α) :
    (outcome.map f).text? = outcome.text?.map f := by
  cases outcome <;> rfl

@[simp] theorem error?_map (f : α → β) (outcome : FileOutcome α) :
    (outcome.map f).error? = outcome.error? := by
  cases outcome <;> rfl

@[simp] theorem isBinary_map (f : α → β) (outcome : FileOutcome α) :
    (outcome.map f).isBinary = outcome.isBinary := by
  cases outcome <;> rfl

/-- Every file is exactly one of text, unreadable and binary. -/
theorem length_split (outcomes : List (FileOutcome α)) :
    (outcomes.filterMap text?).length + (outcomes.filterMap error?).length +
      outcomes.countP isBinary = outcomes.length := by
  induction outcomes with
  | nil => rfl
  | cons outcome rest ih =>
    rw [List.filterMap_cons, List.filterMap_cons, List.countP_cons, List.length_cons, ← ih]
    cases outcome with
    | text result =>
      simp only [text?, error?, isBinary, List.length_cons, Bool.false_eq_true, if_false]
      omega
    | binary =>
      simp only [text?, error?, isBinary, if_true]
      omega
    | failed error =>
      simp only [text?, error?, isBinary, List.length_cons, Bool.false_eq_true, if_false]
      omega

end FileOutcome

def Source.IsAddressable (source : Source) : Prop :=
  ∀ name ∈ source.names, Path.holdsNull name = false

/-- What becomes of a source file that can be asked for. -/
def readOutcome (store : Store) (source : Source) : FileOutcome Reading :=
  match (readSource store source.language.lexis source.names).outcome with
  | .ok (some reading) => .text reading
  | .ok none => .binary
  | .error fault => .failed ⟨source.path, fault.message⟩

def reading? (store : Store) (source : Source) : Option Reading :=
  (readSource store source.language.lexis source.names).outcome.toOption.join

def codeFile? (store : Store) (strip : Bool) (source : Source) : Option CodeFile :=
  (normalizeSource store source strip).outcome.toOption.join

/-- The error of a source file that cannot be read. -/
def scanError? (store : Store) (source : Source) : Option ScanError :=
  match (readSource store source.language.lexis source.names).outcome with
  | .ok _ => none
  | .error fault => some ⟨source.path, fault.message⟩

/-- The code lines of a reading of a source file, as a file of the project. -/
def Source.normalized (source : Source) (strip : Bool) (reading : Reading) : CodeFile :=
  ⟨Path.ofText source.path, reading.codeLines strip⟩

/-- What becomes of a source file of which the code lines are asked for. -/
def codeOutcome (store : Store) (strip : Bool) (source : Source) : FileOutcome CodeFile :=
  (readOutcome store source).map (source.normalized strip)

variable {store : Store} {source : Source} {strip : Bool}

theorem text?_readOutcome (store : Store) (source : Source) :
    (readOutcome store source).text? = reading? store source := by
  unfold readOutcome reading?
  cases (readSource store source.language.lexis source.names).outcome with
  | error fault => rfl
  | ok reading? => cases reading? <;> rfl

theorem outcome_readSource_of_reading? {reading : Reading} (h : reading? store source = some reading) :
    (readSource store source.language.lexis source.names).outcome = .ok (some reading) := by
  unfold reading? at h
  cases hread : (readSource store source.language.lexis source.names).outcome with
  | error fault =>
    rw [hread] at h
    cases h
  | ok reading? =>
    rw [hread] at h
    cases h
    rfl

theorem error?_readOutcome (store : Store) (source : Source) :
    (readOutcome store source).error? = scanError? store source := by
  unfold readOutcome scanError?
  cases (readSource store source.language.lexis source.names).outcome with
  | error fault => rfl
  | ok reading? => cases reading? <;> rfl

theorem text?_codeOutcome (store : Store) (strip : Bool) (source : Source) :
    (codeOutcome store strip source).text? = codeFile? store strip source := by
  unfold codeOutcome readOutcome codeFile?
  rw [normalizeSource, Run.outcome_bind]
  cases (readSource store source.language.lexis source.names).outcome with
  | error fault => rfl
  | ok reading? => cases reading? <;> rfl

theorem codeFile?_eq (store : Store) (strip : Bool) (source : Source) :
    codeFile? store strip source = (reading? store source).map (source.normalized strip) := by
  rw [← text?_codeOutcome, codeOutcome, FileOutcome.text?_map, text?_readOutcome]

theorem outcome_readSource (store : Store) (lexis : Lexis) (names : List String) :
    (readSource store lexis names).outcome =
      contentOf store names >>= Reading.ofContent? lexis (store.pathText names) := by
  simp only [readSource, Run.outcome_bind, Run.outcome_ofExcept, Run.outcome_noteIf, ok_bind]

theorem ofContent?_ne_invalidPath (lexis : Lexis) (path : String) (content : List UInt8)
    (fault : PathFault) : Reading.ofContent? lexis path content ≠ .error (.invalidPath fault) := by
  unfold Reading.ofContent?
  split
  · simp
  · split <;> simp

/-- Reading a file that can be asked for ends in a result or in a fault of the file. -/
theorem Source.IsAddressable.outcome_readSource_ne (h : source.IsAddressable) (lexis : Lexis)
    (fault : PathFault) :
    (readSource store lexis source.names).outcome ≠ .error (.invalidPath fault) := by
  rw [outcome_readSource, contentOf, if_neg (by simpa [Source.IsAddressable] using h)]
  cases store.fullRead source.names with
  | error cause => exact fun hread => ReadFault.noConfusion (Except.error.inj hread)
  | ok content => exact ofContent?_ne_invalidPath _ _ _ _

theorem outcome_readSource_of_not_addressable (h : ¬ source.IsAddressable) (lexis : Lexis) :
    (readSource store lexis source.names).outcome = .error (.invalidPath .nullInPath) := by
  rw [outcome_readSource, contentOf, if_pos (by simpa [Source.IsAddressable] using h)]
  rfl

theorem Source.IsAddressable.outcome_readOrSkip (h : source.IsAddressable) :
    (readOrSkip store source).outcome = .ok (readOutcome store source) := by
  unfold readOrSkip readOutcome
  cases hread : (readSource store source.language.lexis source.names).outcome with
  | ok reading? => cases reading? <;> simp [hread]
  | error fault =>
    cases fault with
    | unreadable path cause => simp [hread]
    | undecodable path fault => simp [hread]
    | invalidPath fault => exact absurd hread (h.outcome_readSource_ne _ fault)

theorem outcome_readOrSkip_of_not_addressable (h : ¬ source.IsAddressable) :
    (readOrSkip store source).outcome = .error .nullInPath := by
  unfold readOrSkip
  simp only [outcome_readSource_of_not_addressable h]

theorem outcome_normalizeOrSkip (store : Store) (strip : Bool) (source : Source) :
    (normalizeOrSkip store strip source).outcome =
      (FileOutcome.map (source.normalized strip)) <$> (readOrSkip store source).outcome := by
  rw [normalizeOrSkip, Run.outcome_bind]
  cases (readOrSkip store source).outcome with
  | error fault => rfl
  | ok outcome => cases outcome <;> rfl

theorem Source.IsAddressable.outcome_normalizeOrSkip (h : source.IsAddressable) :
    (normalizeOrSkip store strip source).outcome = .ok (codeOutcome store strip source) := by
  rw [SourceCensus.outcome_normalizeOrSkip, h.outcome_readOrSkip, map_ok, codeOutcome]

theorem outcome_normalizeOrSkip_of_not_addressable (h : ¬ source.IsAddressable) :
    (normalizeOrSkip store strip source).outcome = .error .nullInPath := by
  rw [outcome_normalizeOrSkip, outcome_readOrSkip_of_not_addressable h]
  rfl

end SourceCensus
