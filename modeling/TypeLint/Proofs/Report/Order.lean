import TypeLint.Report.Diagnostic

/-!
# The order of diagnostics

Diagnostics are sorted by file, line and column.

* `Text.le_trans`, `Text.le_total`, `Text.le_antisymm` — the order of texts is a linear order;
* `Span.Key.le_trans`, `Span.Key.le_total` — the keys of spans are ordered by file first, and then by line and column;
* `pairwise_mergeSort` — sorted diagnostics are in that order.
-/

namespace TypeLint

namespace Text

theorem le_trans {s t u : Text} (h : s.le t = true) (h' : t.le u = true) : s.le u = true := by
  induction s generalizing t u with
  | nil => rfl
  | cons a s ih =>
    cases t with
    | nil => simp [Text.le] at h
    | cons b t =>
      cases u with
      | nil => simp [Text.le] at h'
      | cons c u =>
        simp only [Text.le, Bool.or_eq_true, Bool.and_eq_true, decide_eq_true_eq] at h h' ⊢
        rcases h with h | ⟨rfl, h⟩
        · rcases h' with h' | ⟨rfl, -⟩
          · exact .inl (Nat.lt_trans h h')
          · exact .inl h
        · rcases h' with h' | ⟨rfl, h'⟩
          · exact .inl h'
          · exact .inr ⟨rfl, ih h h'⟩

theorem le_antisymm {s t : Text} (h : s.le t = true) (h' : t.le s = true) : s = t := by
  induction s generalizing t with
  | nil =>
    cases t with
    | nil => rfl
    | cons b t => simp [Text.le] at h'
  | cons a s ih =>
    cases t with
    | nil => simp [Text.le] at h
    | cons b t =>
      simp only [Text.le, Bool.or_eq_true, Bool.and_eq_true, decide_eq_true_eq] at h h'
      rcases h with h | ⟨rfl, h⟩
      · rcases h' with h' | ⟨rfl, -⟩ <;> omega
      · rcases h' with h' | ⟨-, h'⟩
        · omega
        · rw [ih h h']

theorem le_total (s t : Text) : s.le t = true ∨ t.le s = true := by
  induction s generalizing t with
  | nil => exact .inl rfl
  | cons a s ih =>
    cases t with
    | nil => exact .inr rfl
    | cons b t =>
      simp only [Text.le, Bool.or_eq_true, Bool.and_eq_true, decide_eq_true_eq]
      rcases Nat.lt_trichotomy a.val b.val with h | h | h
      · exact .inl (.inl h)
      · obtain rfl : a = b := by
          cases a
          cases b
          simp_all
        rcases ih t with ht | ht
        · exact .inl (.inr ⟨rfl, ht⟩)
        · exact .inr (.inr ⟨rfl, ht⟩)
      · exact .inr (.inl h)

end Text

namespace Report

open TypeLint.Tree

namespace Span.Key

/-- The order of the lines and columns alone. -/
def placeLe (a b : Key) : Prop := a.line < b.line ∨ a.line = b.line ∧ a.column ≤ b.column

theorem le_iff {a b : Key} :
    a.le b = true ↔ (a.file ≠ b.file ∧ a.file.le b.file = true) ∨ (a.file = b.file ∧ a.placeLe b) := by
  unfold Key.le placeLe
  by_cases h : a.file = b.file
  · simp [h]
  · simp [h]

theorem le_trans {a b c : Key} (h : a.le b = true) (h' : b.le c = true) : a.le c = true := by
  rw [le_iff] at h h' ⊢
  rcases h with ⟨hne, h⟩ | ⟨heq, h⟩
  · rcases h' with ⟨hne', h'⟩ | ⟨heq', -⟩
    · refine .inl ⟨?_, Text.le_trans h h'⟩
      intro hac
      exact hne (Text.le_antisymm h (hac ▸ h'))
    · exact .inl ⟨heq' ▸ hne, heq' ▸ h⟩
  · rcases h' with ⟨hne', h'⟩ | ⟨heq', h'⟩
    · exact .inl ⟨heq ▸ hne', heq ▸ h'⟩
    · refine .inr ⟨heq.trans heq', ?_⟩
      unfold placeLe at *
      omega

theorem le_total (a b : Key) : a.le b = true ∨ b.le a = true := by
  rw [le_iff, le_iff]
  by_cases h : a.file = b.file
  · have : a.placeLe b ∨ b.placeLe a := by
      unfold placeLe
      omega
    exact this.imp (fun hp => .inr ⟨h, hp⟩) fun hp => .inr ⟨h.symm, hp⟩
  · exact (Text.le_total a.file b.file).imp (fun hl => .inl ⟨h, hl⟩) fun hl => .inl ⟨Ne.symm h, hl⟩

end Span.Key

theorem pairwise_mergeSort (ds : List Diagnostic) :
    (ds.mergeSort fun a b => a.span.key.le b.span.key).Pairwise fun a b => a.span.key.le b.span.key = true := by
  refine List.pairwise_mergeSort ?_ ?_ ds
  · intro a b c h h'
    exact Span.Key.le_trans h h'
  · intro a b
    rw [Bool.or_eq_true]
    exact Span.Key.le_total _ _

end Report

end TypeLint
