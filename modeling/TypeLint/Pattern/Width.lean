/-!
# Widths

A width bounds the lengths of the texts that an expression matches.  What stands behind a place can only be
looked at if its length is fixed.
-/

namespace TypeLint.Pattern

/-- Least and greatest length. -/
structure Width where
  least : Nat
  most : Nat
deriving DecidableEq

namespace Width

/-- Widths are not told apart beyond this. -/
def limit : Nat := Nat.pow 2 64

/-- Repetition without an upper bound counts as one with this bound. -/
def unbounded : Nat := 4294967295

/-- The empty text. -/
def zero : Width := ⟨0, 0⟩

/-- One after the other. -/
def add (a b : Width) : Width := ⟨min (a.least + b.least) limit, min (a.most + b.most) limit⟩

/-- Either. -/
def either (a b : Width) : Width := ⟨min a.least b.least, max a.most b.most⟩

/-- Repeated. -/
def times (w : Width) (least : Nat) (most : Option Nat) : Width :=
  let greatest := match most with
    | some n => w.most * n
    | none => if w.most = 0 then 0 else limit
  ⟨min (w.least * least) limit, min greatest limit⟩

end Width

end TypeLint.Pattern
