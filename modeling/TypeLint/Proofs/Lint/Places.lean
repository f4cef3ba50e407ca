import TypeLint.Proofs.Lint.Coverage
import TypeLint.Proofs.Report.Order
import TypeLint.Proofs.Source.Places
import TypeLint.Proofs.Tree.References

/-!
# Where the diagnostics of a source are

Each diagnostic of a source is at the name that it is about, and no two are at the same place.

* `StandsAt`, `Before` — the place of a diagnostic, and the order of places;
* `Linter.head_of_mem_lintProgram` — the name that a diagnostic is about;
* `Linter.pairwise_lintProgram` — the diagnostics of a source follow each other in the order of their places;
* `Linter.lintSource_places` — and each stands at a word of a line of the source.
-/

namespace TypeLint.Lint

open Report Rule Source TypeLint.Tree
open CodePoint (lineFeed)

/-- The place of a diagnostic. -/
def StandsAt (d : Diagnostic) (p : Pos) : Prop :=
  d.span.line = some (p.line : Int) ∧ d.span.column = some (p.column : Int)

/-- The place of a diagnostic is before that of another one. -/
def Before (a b : Diagnostic) : Prop := ∃ p q, StandsAt a p ∧ StandsAt b q ∧ p.Before q

theorem standsAt_of_span {d : Diagnostic} {file : Option Text} {p : Pos}
    (h : d.span = .ofPlace file (.loc p.toLoc)) : StandsAt d p := by
  rw [StandsAt, h]
  exact ⟨rfl, rfl⟩

theorem StandsAt.unique {d : Diagnostic} {p q : Pos} (h : StandsAt d p) (h' : StandsAt d q) : p = q := by
  obtain ⟨hl, hc⟩ := h
  obtain ⟨hl', hc'⟩ := h'
  rw [hl] at hl'
  rw [hc] at hc'
  obtain ⟨line, column⟩ := p
  obtain ⟨line', column'⟩ := q
  obtain rfl : line = line' := Int.ofNat_inj.1 (Option.some.inj hl')
  obtain rfl : column = column' := Int.ofNat_inj.1 (Option.some.inj hc')
  rfl

theorem Before.asymm {a b : Diagnostic} (h : Before a b) : ¬ Before b a := by
  rintro ⟨q', p', hq', hp', hqp⟩
  obtain ⟨p, q, hp, hq, hpq⟩ := h
  rw [hp.unique hp', hq.unique hq'] at hpq
  exact hpq.asymm hqp

/-- Diagnostics can be put in the order of their places in only one way. -/
theorem eq_of_perm {ds ds' : List Diagnostic} (h : ds.Pairwise Before) (h' : ds'.Pairwise Before) (hp : ds.Perm ds') :
    ds = ds' :=
  hp.eq_of_pairwise (fun _ _ _ _ hab hba => absurd hba hab.asymm) h h'

/-- What a report says about the type reference that it is about. -/
theorem reference_of_isReport {root : Node} (hroot : root.Conforms) {l : Linter} {file : Option Text} {t : Address}
    {d : Diagnostic} (h : IsReport l file root t d) :
    ∃ n name loc, root.at? t = some n ∧ n.reference? = some (name, loc) ∧
      d.span = ⟨file, loc.line, loc.column, some loc⟩ ∧ Json.lookup (text "type") d.data = some (.str name) := by
  obtain ⟨n, name, i, ban, hn, hkind, hname, -, -, -, rfl⟩ := h
  obtain ⟨loc, hloc⟩ := Option.isSome_iff_exists.1 (hroot.at? hn).located
  refine ⟨n, name, loc, hn, ?_, ?_, rfl⟩
  · simp [Node.reference?, hkind, hname, hloc]
  · simp only [report, hloc]
    rfl

/-- Of two places in one file that differ, the lesser one is before the other. -/
theorem before_of_key_le {file : Option Text} {p q : Pos}
    (h : (Span.ofPlace file (.loc p.toLoc)).key.le (Span.ofPlace file (.loc q.toLoc)).key = true) (hne : p ≠ q) :
    p.Before q := by
  rcases Span.Key.le_iff.1 h with ⟨hfile, -⟩ | ⟨-, hle⟩
  · exact absurd rfl hfile
  · obtain ⟨line, column⟩ := p
    obtain ⟨line', column'⟩ := q
    simp only [Span.Key.placeLe, Span.key, Span.ofPlace, Pos.toLoc, Option.getD_some] at hle
    simp only [ne_eq, Pos.mk.injEq] at hne
    simp only [Pos.Before]
    omega

section Source

variable {source : Text} {p : Program} {root : Node} (hp : parse source = .ok p) (hroot : p.toNode = .ok root)
include hroot

/-- What a report says about the name that it is about. -/
theorem head_of_isReport {l : Linter} {file : Option Text} {t : Address} {d : Diagnostic}
    (h : IsReport l file root t d) :
    ∃ id ∈ p.heads, d.span = .ofPlace file (.loc id.pos.toLoc) ∧
      Json.lookup (text "type") d.data = some (.str id.text) := by
  have hc := Program.conforms hroot
  obtain ⟨n, name, loc, hn, href, hspan, hdata⟩ := reference_of_isReport hc h
  have hmem : (name, loc) ∈ root.references :=
    List.mem_filterMap.2 ⟨n, hc.enumerates_preorder.mem hn, href⟩
  obtain ⟨id, hid, he⟩ := List.mem_map.1 ((Program.references_sublist hroot).subset hmem)
  obtain ⟨rfl, rfl⟩ := Prod.mk.inj he
  exact ⟨id, hid, hspan, hdata⟩

theorem Linter.head_of_mem_lintProgram {l : Linter} {file : Option Text} {d : Diagnostic}
    (h : d ∈ l.lintProgram file root) :
    ∃ id ∈ p.heads, d.span = .ofPlace file (.loc id.pos.toLoc) ∧
      Json.lookup (text "type") d.data = some (.str id.text) := by
  obtain ⟨reports, hds, hmem, -⟩ := Linter.enumerates_reports (Program.conforms hroot) l file
  rw [Linter.lintProgram_eq, List.mem_mergeSort, ← hds] at h
  obtain ⟨⟨t, d⟩, hx, rfl⟩ := List.mem_map.1 h
  exact head_of_isReport hroot ((hmem t d).1 hx).2

include hp

theorem Linter.lintSource_eq (l : Linter) (file : Option Text) :
    l.lintSource file source = .ok (l.lintProgram file root) := by
  rw [Linter.lintSource, parseSource_eq_program.2 ⟨p, hp, hroot⟩]

/-- No two type references of a source are at the same place. -/
theorem pairwise_references : root.references.Pairwise fun a b => a.2 ≠ b.2 := by
  refine List.Pairwise.sublist (Program.references_sublist hroot) (List.pairwise_map.2 ?_)
  refine (heads_of_parse hp).2.imp ?_
  intro a b hab he
  rw [Pos.toLoc_inj he] at hab
  exact Pos.not_before_self _ hab

theorem address_eq_of_span_eq {l : Linter} {file : Option Text} {t t' : Address} {d d' : Diagnostic}
    (h : IsReport l file root t d) (h' : IsReport l file root t' d') (hs : d.span = d'.span) : t = t' := by
  have hc := Program.conforms hroot
  obtain ⟨n, name, loc, hn, href, hspan, -⟩ := reference_of_isReport hc h
  obtain ⟨n', name', loc', hn', href', hspan', -⟩ := reference_of_isReport hc h'
  have hloc : loc = loc' := by simpa [hspan, hspan'] using congrArg Span.origin hs
  exact (hc.enumerates_preorder.filterMap (f := Node.reference?)).key_eq (pairwise_references hp hroot)
    ⟨n, hn, href⟩ ⟨n', hn', href'⟩ hloc

/-- The spans of the diagnostics of a source differ. -/
theorem pairwise_span_ne (l : Linter) (file : Option Text) :
    (found l file root).Pairwise fun a b => a.span ≠ b.span := by
  refine (Linter.enumerates_reports (Program.conforms hroot) l file).pairwise ?_
  rintro t d t' d' ⟨-, h⟩ ⟨-, h'⟩ hne hs
  exact hne (address_eq_of_span_eq hp hroot h h' hs)

/-- The diagnostics of a source follow each other in the order of their places. -/
theorem Linter.pairwise_lintProgram (l : Linter) (file : Option Text) :
    (l.lintProgram file root).Pairwise Before := by
  -- sorting gives the weak order only, and differing spans make it strict
  have hdiffer : (l.lintProgram file root).Pairwise fun a b => a.span ≠ b.span := by
    rw [Linter.lintProgram_eq]
    exact (List.mergeSort_perm ..).symm.pairwise (pairwise_span_ne hp hroot l file) fun h => h.symm
  refine ((pairwise_mergeSort _).and hdiffer).imp_of_mem ?_
  rintro a b ha hb ⟨hle, hne⟩
  obtain ⟨id, -, hspan, -⟩ := Linter.head_of_mem_lintProgram hroot ha
  obtain ⟨id', -, hspan', -⟩ := Linter.head_of_mem_lintProgram hroot hb
  refine ⟨id.pos, id'.pos, standsAt_of_span hspan, standsAt_of_span hspan', ?_⟩
  rw [hspan, hspan'] at hle hne
  exact before_of_key_le hle fun he => hne (by rw [he])

end Source

/-- In the tree of a source, the diagnostics are at places that follow each other strictly, and at its place each of
them finds a name that is no part of a longer one: the name that it is about. -/
theorem Linter.lintSource_places {source : Text} {path : Option Text} {root : Node}
    (h : parseSource source path = .ok (.program root)) (l : Linter) (file : Option Text) :
    ∃ ds, l.lintSource file source = .ok ds ∧ ds.Pairwise Before ∧
      ∀ d ∈ ds, ∃ (i : Nat) (before name behind : Text),
        (source.splitOn lineFeed)[i]? = some (before ++ (name ++ behind)) ∧
        StandsAt d ⟨i + 1, before.length + 1⟩ ∧
        Json.lookup (text "type") d.data = some (.str name) ∧
        name? name = some (name, []) ∧ ∀ c ∈ behind.head?, isNamePart c = false := by
  obtain ⟨p, hp, hroot⟩ := parseSource_eq_program.1 h
  refine ⟨l.lintProgram file root, lintSource_eq hp hroot l file, Linter.pairwise_lintProgram hp hroot l file, ?_⟩
  intro d hd
  obtain ⟨id, hid, hspan, hdata⟩ := Linter.head_of_mem_lintProgram hroot hd
  obtain ⟨i, before, behind, hline, hpos, hname, hbehind⟩ := ((heads_of_parse hp).1 id hid).line
  refine ⟨i, before, id.text, behind, hline, ?_, hdata, hname, hbehind⟩
  rw [← hpos]
  exact standsAt_of_span hspan

theorem Linter.lintSource_places_behind_comment :
    ∃ l ds, Linter.ofRule (text "ban-types") [.arr [.str (text "A")]] = .ok l ∧
      l.lintSource none (text "/*\n*/ let a: A<A>") = .ok ds ∧ ds.length = 2 ∧ ds.Pairwise Before := by
  obtain ⟨l, root, hl, hroot, hlen⟩ : ∃ l root,
      Linter.ofRule (text "ban-types") [.arr [.str (text "A")]] = .ok l ∧
      parseSource (text "/*\n*/ let a: A<A>") none = .ok (.program root) ∧ (found l none root).length = 2 := by
    refine ⟨⟨[⟨text "^A$", ⟨{}, .seq [.anchor .lineStart, .char 'A', .anchor .lineEnd]⟩, []⟩],
      text "error"⟩, _, rfl, by cbv, by cbv⟩
  obtain ⟨ds, hds, hsorted, -⟩ := Linter.lintSource_places hroot l none
  refine ⟨l, ds, hl, hds, ?_, hsorted⟩
  rw [Linter.lintSource, hroot] at hds
  rw [← Except.ok.inj hds, Linter.lintProgram_eq, List.length_mergeSort, hlen]

end TypeLint.Lint
