import SourceCensus.Scan.State

/-! # Line tallies -/

namespace SourceCensus

open Scan (LineKind)

/-- Numbers of blank, comment and code lines. -/
structure Tally where
  blank : Int := 0
  comment : Int := 0
  code : Int := 0
  deriving DecidableEq, Repr

namespace Tally

def total (t : Tally) : Int :=
  t.blank + t.comment + t.code

instance : Add Tally where
  add s t := ⟨s.blank + t.blank, s.comment + t.comment, s.code + t.code⟩

instance : Zero Tally where
  zero := {}

def ofKind : LineKind → Tally
  | .blank => ⟨1, 0, 0⟩
  | .comment => ⟨0, 1, 0⟩
  | .code => ⟨0, 0, 1⟩

def ofKinds (kinds : List LineKind) : Tally :=
  kinds.foldr (fun kind t => ofKind kind + t) 0

@[simp] theorem blank_add (s t : Tally) : (s + t).blank = s.blank + t.blank := rfl

@[simp] theorem comment_add (s t : Tally) : (s + t).comment = s.comment + t.comment := rfl

@[simp] theorem code_add (s t : Tally) : (s + t).code = s.code + t.code := rfl

@[simp] theorem blank_zero : (0 : Tally).blank = 0 := rfl

@[simp] theorem comment_zero : (0 : Tally).comment = 0 := rfl

@[simp] theorem code_zero : (0 : Tally).code = 0 := rfl

theorem total_add (s t : Tally) : (s + t).total = s.total + t.total := by
  simp only [total, blank_add, comment_add, code_add]
  omega

@[simp] theorem ofKinds_cons (kind : LineKind) (kinds : List LineKind) :
    ofKinds (kind :: kinds) = ofKind kind + ofKinds kinds := rfl

/-- Every line is counted once. -/
theorem total_ofKinds (kinds : List LineKind) : (ofKinds kinds).total = kinds.length := by
  induction kinds with
  | nil => rfl
  | cons kind kinds ih =>
    rw [ofKinds_cons, total_add, ih]
    cases kind <;> simp [ofKind, total] <;> omega

end Tally

end SourceCensus
