import TypeLint.Proofs.Pattern.Simple
import TypeLint.Proofs.Pattern.Steps

/-!
# Reading simple patterns

The text of a simple pattern is read part by part: reading a part and what follows it is reading what follows it, with
the expression of the part added.

* `Simple.finish_atom`, `Simple.finish_branch`, `Simple.finish_choice` — what is added by an atom, a branch, a choice;
* `Simple.parse_between` — the expression of a choice between the anchors.
-/

namespace TypeLint.Pattern.Simple

open Progress

/-! ## pieces -/

/-- Characters that stand for themselves. -/
def plain (t : Text) : List Piece := t.map .plain

theorem plain_append (t u : Text) : plain (t ++ u) = plain t ++ plain u := List.map_append

theorem pieces_eq_plain {t : Text} (h : CodePoint.ofChar '\\' ∉ t) : pieces t = plain t := by
  fun_induction pieces t with
  | case1 => rfl
  | case2 c =>
    have hc : c ≠ CodePoint.ofChar '\\' := by rintro rfl; simp at h
    rw [if_neg hc]
    rfl
  | case3 => simp at h
  | case4 c d rest hc ih =>
    rw [ih (by simp_all)]
    rfl

/-- A letter is none of the characters with a meaning of their own. -/
theorem Letter.ne (c : Letter) {d : Char} (hd : (CodePoint.ofChar d).isWord = false) : c.1 ≠ CodePoint.ofChar d := by
  intro h
  have hc := c.2
  rw [h, hd] at hc
  contradiction

theorem skip?_cons (c : CodePoint) (rest : List Piece) (pos : Nat) (d : Char) :
    Cursor.skip? ⟨.plain c :: rest, pos⟩ d = if c = CodePoint.ofChar d then some ⟨rest, pos + 1⟩ else none := by
  simp [Cursor.skip?, Cursor.sees]

/-! ## classes -/

variable (p : Progress) (s : SetFrame) (tail : List Piece) (pos : Nat)

theorem finish_item (item : Item) (hdash : tail.head? ≠ some (.plain '-')) :
    ∃ pos', (p.inSet s ⟨plain item.text ++ tail, pos⟩).finish =
      (p.inSet { s with items := item.setItem :: s.items } ⟨tail, pos'⟩).finish := by
  have hclose : ∀ c : Letter, Piece.plain c.1 ≠ .plain ']' := fun c => by simpa using c.ne (d := ']') (by decide)
  cases item with
  | char c =>
    have hskip : Cursor.skip? ⟨tail, pos + 1⟩ '-' = none := by
      simpa [Cursor.skip?, Cursor.sees] using hdash
    refine ⟨pos + 1, finish_of_some ?_⟩
    simp [step, inSet, stepSet, Item.text, plain, Cursor.next?, hclose, setItem, hskip, Piece.text, bind, Except.bind,
      pure, Except.pure, Progress.goto, Item.setItem]
  | range lo hi ordered =>
    refine ⟨pos + 3, finish_of_some ?_⟩
    simp [step, inSet, stepSet, Item.text, plain, Cursor.next?, hclose, setItem, skip?_cons, Piece.text, bind,
      Except.bind, pure, Except.pure, Progress.goto, Item.setItem, ordered]

/-- The parts of a class are written without a dash before them. -/
theorem head?_items (items : List Item) (h : tail.head? ≠ some (.plain '-')) :
    (plain (items.flatMap Item.text) ++ tail).head? ≠ some (.plain '-') := by
  cases items with
  | nil => exact h
  | cons item items =>
    cases item with
    | char c => simpa [Item.text, plain] using c.ne (d := '-') (by decide)
    | range lo hi ordered => simpa [Item.text, plain] using lo.ne (d := '-') (by decide)

theorem finish_items (items : List Item) (hdash : tail.head? ≠ some (.plain '-')) :
    ∃ pos', (p.inSet s ⟨plain (items.flatMap Item.text) ++ tail, pos⟩).finish =
      (p.inSet { s with items := (items.map Item.setItem).reverse ++ s.items } ⟨tail, pos'⟩).finish := by
  induction items generalizing s pos with
  | nil => exact ⟨pos, rfl⟩
  | cons item items ih =>
    obtain ⟨mid, hitem⟩ := finish_item p s _ pos item (head?_items tail items hdash)
    obtain ⟨pos', hitems⟩ := ih { s with items := item.setItem :: s.items } mid
    refine ⟨pos', ?_⟩
    rw [List.flatMap_cons, plain_append, List.append_assoc, hitem, hitems]
    simp

/-- The end of a class. -/
theorem finish_closeSet (hset : p.set = none) (hs : s.items ≠ []) :
    (p.inSet s ⟨.plain ']' :: tail, pos⟩).finish =
      ((p.push (.set s.negated s.items.reverse)).goto ⟨tail, pos + 1⟩).finish := by
  refine finish_of_some ?_
  obtain ⟨cursor, set, frame, outer, flags, names, widths, asked⟩ := p
  obtain rfl : set = none := hset
  simp [step, inSet, stepSet, Cursor.next?, hs, closeSet, Piece.text, pure, Except.pure, bind, Except.bind,
    Progress.goto, Progress.push]

/-! ## steps outside of classes -/

section Outside

variable {p} (hset : p.set = none) (hv : p.frame.verbose = false)

include hset in
theorem finish_plain {c : CodePoint} {q : Progress} (hbar : c ≠ CodePoint.ofChar '|')
    (hclose : c ≠ CodePoint.ofChar ')')
    (h : (p.goto ⟨.plain c :: tail, pos⟩).stepPlain c pos ⟨tail, pos + 1⟩ = .ok q) :
    (p.goto ⟨.plain c :: tail, pos⟩).finish = q.finish := by
  refine finish_of_some ?_
  have hset' : (p.goto ⟨.plain c :: tail, pos⟩).set = none := hset
  simp only [step, hset', cursor_goto, Cursor.next?, if_neg hbar, if_neg hclose, Piece.text, List.length_singleton, h]
  rfl

include hset hv in
theorem finish_letter (c : Letter) :
    (p.goto ⟨.plain c.1 :: tail, pos⟩).finish = ((p.push (.char c.1)).goto ⟨tail, pos + 1⟩).finish := by
  refine finish_plain tail pos hset (c.ne (by decide)) (c.ne (by decide)) ?_
  have hv' : (p.goto ⟨.plain c.1 :: tail, pos⟩).frame.verbose = false := hv
  unfold stepPlain
  rw [hv']
  simp only [Bool.false_and, Bool.false_eq_true, if_false, if_neg (c.ne (d := '[') (by decide)),
    if_neg (c.ne (d := '?') (by decide)), if_neg (c.ne (d := '*') (by decide)), if_neg (c.ne (d := '+') (by decide)),
    if_neg (c.ne (d := '\x7b') (by decide)), if_neg (c.ne (d := '.') (by decide)),
    if_neg (c.ne (d := '(') (by decide)), if_neg (c.ne (d := '^') (by decide)),
    if_neg (c.ne (d := '$') (by decide))]
  rfl

include hset hv in
theorem finish_any :
    (p.goto ⟨.plain '.' :: tail, pos⟩).finish = ((p.push .any).goto ⟨tail, pos + 1⟩).finish := by
  refine finish_plain tail pos hset (by decide) (by decide) ?_
  have hv' : (p.goto ⟨.plain (CodePoint.ofChar '.') :: tail, pos⟩).frame.verbose = false := hv
  unfold stepPlain
  rw [hv']
  rfl

theorem openSet_goto (p : Progress) (cur : Cursor) (start : Nat) (after : Cursor) :
    (p.goto cur).openSet start after = p.openSet start after := by
  unfold openSet
  cases after.skip? '^' <;> rfl

/-- The beginning of a class. -/
theorem openSet_caret (negated : Bool) (start : Nat) (h : tail.head? ≠ some (.plain '^')) :
    ∃ pos', p.openSet start ⟨plain (text (if negated then "^" else "")) ++ tail, pos⟩ =
      p.inSet ⟨start, negated, []⟩ ⟨tail, pos'⟩ := by
  cases negated with
  | true => exact ⟨pos + 1, rfl⟩
  | false =>
    have hskip : Cursor.skip? ⟨tail, pos⟩ '^' = none := by simpa [Cursor.skip?, Cursor.sees] using h
    refine ⟨pos, ?_⟩
    unfold openSet
    rw [show plain (text (if false = true then "^" else "")) ++ tail = tail from rfl, hskip]

include hset hv in
theorem finish_set (negated : Bool) (first : Item) (others : List Item) :
    ∃ pos', (p.goto ⟨plain (Atom.set negated first others).text ++ tail, pos⟩).finish =
      ((p.push (Atom.set negated first others).regex).goto ⟨tail, pos'⟩).finish := by
  have hcaret : (plain ((first :: others).flatMap Item.text) ++ .plain ']' :: tail).head? ≠ some (.plain '^') := by
    cases first with
    | char c => simpa [Item.text, plain] using c.ne (d := '^') (by decide)
    | range lo hi ordered => simpa [Item.text, plain] using lo.ne (d := '^') (by decide)
  have htext : plain (Atom.set negated first others).text ++ tail = .plain '[' ::
      (plain (text (if negated then "^" else "")) ++
        (plain ((first :: others).flatMap Item.text) ++ .plain ']' :: tail)) := by
    rw [Atom.text, plain_append, plain_append, List.append_assoc, List.append_assoc]
    cases negated <;> rfl
  rw [htext]
  generalize hrest : plain (text (if negated then "^" else "")) ++ _ = rest
  have hopen : (p.goto ⟨.plain '[' :: rest, pos⟩).finish = (p.openSet pos ⟨rest, pos + 1⟩).finish := by
    refine finish_plain rest pos hset (by decide) (by decide) ?_
    have hv' : (p.goto ⟨.plain (CodePoint.ofChar '[') :: rest, pos⟩).frame.verbose = false := hv
    rw [← openSet_goto p ⟨.plain (CodePoint.ofChar '[') :: rest, pos⟩]
    unfold stepPlain
    rw [hv']
    rfl
  subst hrest
  obtain ⟨start, hstart⟩ := openSet_caret (p := p) _ (pos + 1) negated pos hcaret
  obtain ⟨last, hitems⟩ := finish_items p ⟨pos, negated, []⟩ (.plain ']' :: tail) start (first :: others)
    (by simp; decide)
  refine ⟨last + 1, ?_⟩
  rw [hopen, hstart, hitems, finish_closeSet _ _ _ _ hset (by simp)]
  simp [Atom.regex]

/-! ## repetition -/

/-- What follows is no mark behind a repetition. -/
def Settled (tail : List Piece) : Prop := ∀ pos, mode ⟨tail, pos⟩ = (.greedy, ⟨tail, pos⟩)

theorem settled_cons {c : CodePoint} (h : c ≠ CodePoint.ofChar '?') (h' : c ≠ CodePoint.ofChar '+') :
    Settled (.plain c :: tail) := by
  intro pos
  rw [mode, skip?_cons, if_neg h, skip?_cons, if_neg h']

theorem settled_atom (a : Atom) : Settled (plain a.text ++ tail) := by
  cases a with
  | char c => exact settled_cons _ (c.ne (by decide)) (c.ne (by decide))
  | any => exact settled_cons _ (by decide) (by decide)
  | set negated first others =>
    cases negated with
    | false => exact settled_cons _ (by decide) (by decide)
    | true => exact settled_cons _ (by decide) (by decide)
  | group body => exact settled_cons _ (by decide) (by decide)

variable {tail}

theorem settled_branch (b : Branch) (h : Settled tail) : Settled (plain b.text ++ tail) := by
  cases b with
  | empty => exact h
  | part a times rest =>
    rw [Branch.text, plain_append, plain_append, List.append_assoc, List.append_assoc]
    exact settled_atom _ a

theorem repeatLast_atom (a : Atom) (cur : Cursor) (start least : Nat) (most : Option Nat) (h : Settled tail) :
    ((p.push a.regex).goto cur).repeatLast start least most ⟨tail, pos⟩ =
      .ok ((p.push (.repeated least most .greedy a.regex)).goto ⟨tail, pos⟩) := by
  cases a <;> simp [repeatLast, Progress.push, h pos, Atom.regex, Progress.goto]

include hset hv in
/-- The mark behind an atom. -/
theorem finish_times (a : Atom) (times : Times) (h : Settled tail) :
    ∃ pos', ((p.push a.regex).goto ⟨plain times.mark ++ tail, pos⟩).finish =
      ((p.push (times.regex a.regex)).goto ⟨tail, pos'⟩).finish := by
  have hv' : ∀ cur, ((p.push a.regex).goto cur).frame.verbose = false := fun _ => hv
  have hmark : ∀ least most, ((p.push a.regex).goto ⟨plain times.mark ++ tail, pos⟩).repeatLast pos least most
      ⟨tail, pos + 1⟩ = .ok ((p.push (.repeated least most .greedy a.regex)).goto ⟨tail, pos + 1⟩) :=
    fun least most => repeatLast_atom (pos + 1) a _ pos least most h
  cases times with
  | once => exact ⟨pos, rfl⟩
  | optional =>
    refine ⟨pos + 1, finish_plain (p := p.push a.regex) tail pos hset (by decide) (by decide) ?_⟩
    rw [stepPlain, hv']
    exact hmark 0 (some 1)
  | star =>
    refine ⟨pos + 1, finish_plain (p := p.push a.regex) tail pos hset (by decide) (by decide) ?_⟩
    rw [stepPlain, hv']
    exact hmark 0 none
  | plus =>
    refine ⟨pos + 1, finish_plain (p := p.push a.regex) tail pos hset (by decide) (by decide) ?_⟩
    rw [stepPlain, hv']
    exact hmark 1 none

end Outside

/-! ## groups -/

/-- A frame in which a choice has been read. -/
def Choice.fill : Choice → Frame → Frame
  | .single b, f => { f with items := b.regexes.reverse ++ f.items }
  | .either b rest, f =>
    rest.fill { f with branches := .seq (b.regexes.reverse ++ f.items).reverse :: f.branches, items := [] }

/-- The branches of a frame, the first one first. -/
def all (f : Frame) : List Regex := (f.lastBranch :: f.branches).reverse

theorem body_eq_joined (f : Frame) : f.body = joined (all f) := by
  unfold Frame.body all
  cases f.branches with
  | nil => rfl
  | cons b bs =>
    have hne : ∀ r, (f.lastBranch :: b :: bs).reverse ≠ [r] := by
      intro r h
      have := congrArg List.length h
      simp at this
    rw [joined]
    · rfl
    · exact fun r h => hne r h

theorem all_fill (c : Choice) (f : Frame) (behind : List Regex) :
    all { c.fill f with items := behind.reverse ++ (c.fill f).items } =
      f.branches.reverse ++ c.branches f.items.reverse behind := by
  fun_induction Choice.fill c f with
  | case1 b f => simp [all, Choice.branches, Frame.lastBranch]
  | case2 b rest f ih =>
    rw [ih]
    simp [Choice.branches]

theorem fill_kind (c : Choice) (f : Frame) : (c.fill f).kind = f.kind := by
  fun_induction Choice.fill c f with
  | case1 b f => rfl
  | case2 b rest f ih => exact ih

theorem fill_verbose (c : Choice) (f : Frame) : (c.fill f).verbose = f.verbose := by
  fun_induction Choice.fill c f with
  | case1 b f => rfl
  | case2 b rest f ih => exact ih

/-- The expression of a group. -/
theorem body_fill (c : Choice) {f : Frame} (hbranches : f.branches = []) (hitems : f.items = []) :
    (c.fill f).body = joined (c.branches [] []) := by
  have hall := all_fill c f []
  rw [hbranches, hitems] at hall
  rw [body_eq_joined]
  exact congrArg joined hall

section Groups

variable {p} (hset : p.set = none) (hv : p.frame.verbose = false)

include hset in
/-- A bar ends a branch. -/
theorem finish_bar (hkind : ∀ index, p.frame.kind ≠ .conditional index) :
    (p.goto ⟨.plain '|' :: tail, pos⟩).finish =
      ({ p with frame := { p.frame with branches := p.frame.lastBranch :: p.frame.branches, items := [] } }.goto
        ⟨tail, pos + 1⟩).finish := by
  refine finish_of_some ?_
  have hset' : (p.goto ⟨.plain (CodePoint.ofChar '|') :: tail, pos⟩).set = none := hset
  have hbranch : (p.goto ⟨.plain (CodePoint.ofChar '|') :: tail, pos⟩).branch =
      .ok ({ p with frame := { p.frame with branches := p.frame.lastBranch :: p.frame.branches, items := [] } }.goto
        ⟨.plain (CodePoint.ofChar '|') :: tail, pos⟩) := by
    unfold Progress.branch
    split
    · next index _ _ hconditional _ => exact absurd hconditional (hkind index)
    · rfl
  simp only [step, hset', cursor_goto, Cursor.next?, if_true, hbranch]
  rfl

include hset hv in
/-- A group without a number begins. -/
theorem finish_enter :
    (p.goto ⟨plain (text "(?:") ++ tail, pos⟩).finish =
      ((p.enter (.flagged .empty .empty) pos).goto ⟨tail, pos + 3⟩).finish := by
  refine finish_plain (c := CodePoint.ofChar '(') _ pos hset (by decide) (by decide) ?_
  have hv' : ∀ cur, (p.goto cur).frame.verbose = false := fun _ => hv
  rw [stepPlain, hv']
  rfl

include hset in
/-- A group ends. -/
theorem finish_leave (start : Nat) (f : Frame) (hf : f.kind = .flagged .empty .empty) :
    ({ p.enter (.flagged .empty .empty) start with frame := f }.goto ⟨.plain ')' :: tail, pos⟩).finish =
      ((p.push (.flagged .empty .empty f.body)).goto ⟨tail, pos + 1⟩).finish := by
  refine finish_of_some ?_
  have hset' : ({ p.enter (.flagged .empty .empty) start with frame := f }.goto
    ⟨.plain (CodePoint.ofChar ')') :: tail, pos⟩).set = none := hset
  have hleave : ({ p.enter (.flagged .empty .empty) start with frame := f }.goto
      ⟨.plain (CodePoint.ofChar ')') :: tail, pos⟩).leave =
        some ((p.push (.flagged .empty .empty f.body)).goto ⟨.plain (CodePoint.ofChar ')') :: tail, pos⟩) := by
    simp [Progress.leave, Progress.enter, Progress.goto, Progress.push, Frame.regex, hf]
  simp only [step, hset', cursor_goto, Cursor.next?, hleave, if_true]
  rfl

end Groups

/-! ## patterns -/

mutual

theorem finish_atom : ∀ (a : Atom) {p : Progress}, p.set = none → p.frame.verbose = false →
    ∀ (tail : List Piece) (pos : Nat), ∃ pos',
      (p.goto ⟨plain a.text ++ tail, pos⟩).finish = ((p.push a.regex).goto ⟨tail, pos'⟩).finish
  | .char c, p, hset, hv, tail, pos => ⟨pos + 1, finish_letter tail pos hset hv c⟩
  | .any, p, hset, hv, tail, pos => ⟨pos + 1, finish_any tail pos hset hv⟩
  | .set negated first others, p, hset, hv, tail, pos => finish_set tail pos hset hv negated first others
  | .group body, p, hset, hv, tail, pos => by
    have htext : plain (Atom.group body).text ++ tail =
        plain (text "(?:") ++ (plain body.text ++ .plain ')' :: tail) := by
      rw [Atom.text, plain_append, plain_append, List.append_assoc, List.append_assoc]
      rfl
    have hv' : (p.enter (.flagged .empty .empty) pos).frame.verbose = false := by simp [Progress.enter, hv, Flags.empty]
    obtain ⟨last, hbody⟩ := finish_choice body (p := p.enter (.flagged .empty .empty) pos) hset hv' (by simp [enter])
      (.plain ')' :: tail) (settled_cons tail (by decide) (by decide)) (pos + 3)
    refine ⟨last + 1, ?_⟩
    rw [htext, finish_enter _ _ hset hv, hbody, finish_leave _ _ hset pos _ (fill_kind body _), body_fill _ rfl rfl]
    rfl

theorem finish_branch : ∀ (b : Branch) {p : Progress}, p.set = none → p.frame.verbose = false →
    ∀ (tail : List Piece), Settled tail → ∀ pos : Nat, ∃ pos', (p.goto ⟨plain b.text ++ tail, pos⟩).finish =
      ({ p with frame := { p.frame with items := b.regexes.reverse ++ p.frame.items } }.goto ⟨tail, pos'⟩).finish
  | .empty, p, hset, hv, tail, htail, pos => ⟨pos, rfl⟩
  | .part a times rest, p, hset, hv, tail, htail, pos => by
    have htext : plain (Branch.part a times rest).text ++ tail =
        plain a.text ++ (plain times.mark ++ (plain rest.text ++ tail)) := by
      rw [Branch.text, plain_append, plain_append, List.append_assoc, List.append_assoc]
    obtain ⟨mid, hatom⟩ := finish_atom a hset hv (plain times.mark ++ (plain rest.text ++ tail)) pos
    obtain ⟨mid', htimes⟩ := finish_times mid hset hv a times (settled_branch rest htail)
    obtain ⟨last, hrest⟩ := finish_branch rest (p := p.push (times.regex a.regex)) hset hv tail htail mid'
    refine ⟨last, ?_⟩
    rw [htext, hatom, htimes, hrest]
    simp [Branch.regexes, Progress.push]

theorem finish_choice : ∀ (c : Choice) {p : Progress}, p.set = none → p.frame.verbose = false →
    (∀ index, p.frame.kind ≠ .conditional index) → ∀ (tail : List Piece), Settled tail → ∀ pos : Nat,
      ∃ pos', (p.goto ⟨plain c.text ++ tail, pos⟩).finish =
        ({ p with frame := c.fill p.frame }.goto ⟨tail, pos'⟩).finish
  | .single b, p, hset, hv, hkind, tail, htail, pos => finish_branch b hset hv tail htail pos
  | .either b rest, p, hset, hv, hkind, tail, htail, pos => by
    have htext : plain (Choice.either b rest).text ++ tail =
        plain b.text ++ (.plain '|' :: (plain rest.text ++ tail)) := by
      rw [Choice.text, plain_append, plain_append, List.append_assoc, List.append_assoc]
      rfl
    obtain ⟨mid, hb⟩ := finish_branch b hset hv (.plain '|' :: (plain rest.text ++ tail))
      (settled_cons _ (by decide) (by decide)) pos
    obtain ⟨last, hrest⟩ := finish_choice rest
      (p := { p with frame := { p.frame with
        branches := .seq (b.regexes.reverse ++ p.frame.items).reverse :: p.frame.branches, items := [] } })
      hset hv hkind tail htail (mid + 1)
    refine ⟨last, ?_⟩
    rw [htext, hb, finish_bar _ _ (by exact hset) (by exact hkind)]
    exact hrest

end

/-! ## whole patterns -/

mutual

/-- There are no escapes. -/
theorem backslash_notMem_atom : ∀ a : Atom, CodePoint.ofChar '\\' ∉ a.text
  | .char c => by simpa [Atom.text] using (c.ne (d := '\\') (by decide)).symm
  | .any => by decide
  | .set negated first others => by
    have hitem : ∀ item : Item, CodePoint.ofChar '\\' ∉ item.text := by
      intro item
      cases item with
      | char c => simpa [Item.text] using (c.ne (d := '\\') (by decide)).symm
      | range lo hi ordered =>
        simpa [Item.text] using ⟨(lo.ne (d := '\\') (by decide)).symm, by decide, (hi.ne (d := '\\') (by decide)).symm⟩
    have hopen : CodePoint.ofChar '\\' ∉ text (if negated then "[^" else "[") := by cases negated <;> decide
    have hclose : CodePoint.ofChar '\\' ∉ text "]" := by decide
    simp [Atom.text, hopen, hclose, hitem]
  | .group body => by
    have hbody := backslash_notMem_choice body
    have hopen : CodePoint.ofChar '\\' ∉ text "(?:" := by decide
    have hclose : CodePoint.ofChar '\\' ∉ text ")" := by decide
    simp [Atom.text, hopen, hclose, hbody]

theorem backslash_notMem_branch : ∀ b : Branch, CodePoint.ofChar '\\' ∉ b.text
  | .empty => by simp [Branch.text]
  | .part a times rest => by
    have hatom := backslash_notMem_atom a
    have hrest := backslash_notMem_branch rest
    have hmark : CodePoint.ofChar '\\' ∉ times.mark := by cases times <;> decide
    simp [Branch.text, hatom, hrest, hmark]

theorem backslash_notMem_choice : ∀ c : Choice, CodePoint.ofChar '\\' ∉ c.text
  | .single b => backslash_notMem_branch b
  | .either b rest => by
    have hb := backslash_notMem_branch b
    have hrest := backslash_notMem_choice rest
    have hbar : CodePoint.ofChar '\\' ∉ text "|" := by decide
    simp [Choice.text, hb, hrest, hbar]

end

theorem checkBehind_joined (rs : List Regex) : (joined rs).checkBehind = checkAllBehind rs := by
  fun_cases joined rs with
  | case1 r =>
    rw [checkAllBehind, checkAllBehind]
    cases r.checkBehind <;> rfl
  | case2 => rw [Regex.checkBehind]

theorem checkBehind_times (times : Times) {r : Regex} (h : r.checkBehind = .ok ()) :
    (times.regex r).checkBehind = .ok () := by
  cases times with
  | once => exact h
  | _ => rw [Times.regex, Regex.checkBehind, h]

mutual

/-- Nothing is asserted about what stands behind. -/
theorem checkBehind_atom : ∀ a : Atom, a.regex.checkBehind = .ok ()
  | .char c => by rw [Atom.regex, Regex.checkBehind] <;> simp
  | .any => by rw [Atom.regex, Regex.checkBehind] <;> simp
  | .set negated first others => by rw [Atom.regex, Regex.checkBehind] <;> simp
  | .group body => by
    rw [Atom.regex, Regex.checkBehind, checkBehind_joined]
    exact checkBehind_choice body rfl rfl

theorem checkBehind_branch : ∀ b : Branch, checkAllBehind b.regexes = .ok ()
  | .empty => rfl
  | .part a times rest => by
    rw [Branch.regexes, checkAllBehind, checkBehind_times times (checkBehind_atom a)]
    exact checkBehind_branch rest

theorem checkBehind_choice : ∀ (c : Choice) {before behind : List Regex}, checkAllBehind before = .ok () →
    checkAllBehind behind = .ok () → checkAllBehind (c.branches before behind) = .ok ()
  | .single b, before, behind, hbefore, hbehind => by
    rw [Choice.branches, checkAllBehind, Regex.checkBehind, checkAllBehind_append, checkAllBehind_append, hbefore,
      checkBehind_branch b, hbehind]
    rfl
  | .either b rest, before, behind, hbefore, hbehind => by
    have hrest : checkAllBehind (rest.branches [] behind) = .ok () := checkBehind_choice rest rfl hbehind
    rw [Choice.branches, checkAllBehind, Regex.checkBehind, checkAllBehind_append, hbefore, checkBehind_branch b]
    exact hrest

end

/-- Reading a choice between the anchors to its end. -/
theorem finish_between (c : Choice) :
    ∃ q, (start (text "^" ++ c.text ++ text "$")).finish = .ok q ∧ q.flags = .empty ∧ q.asked = [] ∧
      q.frame.body = joined (c.branches [.anchor .lineStart] [.anchor .lineEnd]) := by
  have hpieces : pieces (text "^" ++ c.text ++ text "$") =
      .plain '^' :: (plain c.text ++ [.plain '$']) := by
    have hopen : CodePoint.ofChar '\\' ∉ text "^" := by decide
    have hclose : CodePoint.ofChar '\\' ∉ text "$" := by decide
    rw [pieces_eq_plain (by simp [hopen, hclose, backslash_notMem_choice c]), plain_append, plain_append,
      List.append_assoc]
    rfl
  let f : Frame := ⟨.whole, 0, false, none, [], [.anchor .lineStart]⟩
  let p : Progress := { start [] with frame := f }
  let q : Progress := { p with frame := c.fill f }
  have hfirst : (start (text "^" ++ c.text ++ text "$")).finish =
      (p.goto ⟨plain c.text ++ [.plain '$'], 1⟩).finish := by
    have hstart : start (text "^" ++ c.text ++ text "$") =
        (start []).goto ⟨.plain '^' :: (plain c.text ++ [.plain '$']), 0⟩ := by
      rw [← hpieces]
      rfl
    rw [hstart]
    exact finish_plain (p := start []) _ 0 rfl (by decide) (by decide) rfl
  obtain ⟨last, hmiddle⟩ := finish_choice c (p := p) rfl rfl (by simp [p, f]) [.plain '$']
    (settled_cons [] (by decide) (by decide)) 1
  have hlast : (q.goto ⟨[.plain '$'], last⟩).finish = ((q.push (.anchor .lineEnd)).goto ⟨[], last + 1⟩).finish := by
    refine finish_plain (p := q) [] last rfl (by decide) (by decide) ?_
    have hv : ∀ cur, (q.goto cur).frame.verbose = false := fun _ => fill_verbose c f
    rw [stepPlain, hv]
    rfl
  refine ⟨(q.push (.anchor .lineEnd)).goto ⟨[], last + 1⟩, ?_, rfl, rfl, ?_⟩
  · rw [hfirst, hmiddle]
    exact hlast.trans (finish_of_none rfl)
  · exact (body_eq_joined _).trans (congrArg joined (all_fill c f [.anchor .lineEnd]))

/-- The expression of a choice between the anchors. -/
theorem parse_between (c : Choice) : parse (text "^" ++ c.text ++ text "$") =
    .ok ⟨.empty, joined (c.branches [.anchor .lineStart] [.anchor .lineEnd])⟩ := by
  obtain ⟨q, hq, hflags, hasked, hbody⟩ := finish_between c
  have hbehind : q.frame.body.checkBehind = .ok () := by
    rw [hbody, checkBehind_joined]
    exact checkBehind_choice c rfl rfl
  have hcheckFlags : q.checkFlags = .ok () := by
    rw [checkFlags, hflags]
    rfl
  have hcheckAsked : q.checkAsked = .ok () := by
    rw [checkAsked, hasked]
    rfl
  rw [parse_eq, hq, ← hbody, ← hflags]
  simp only [bind, Except.bind, hcheckFlags, hcheckAsked, hbehind]
  rfl

end TypeLint.Pattern.Simple
