import TypeLint.Proofs.Lint.Coverage
import TypeLint.Proofs.Source.Acceptance
import TypeLint.Proofs.Source.Places
import TypeLint.Proofs.Tree.Binding
import TypeLint.Proofs.Tree.Trace

/-!
# The tree of a source

The tree of a source is visited in the order of the source, and none of its words is lost: the names, numbers and
strings of the text can be read off the tree, field by field.  At each node the parts bind as they are written.

* `spots_of_parse` — the spots of a program stand in its source one behind the other;
* `words_of_parse` — the words among them are the words that are delivered;
* `Along.leaves`, `Along.places`, `Along.namedPlaces` — what events along spots say about words and places;
* `parseSource_inOrder` — the nodes of a source are visited in the order of their places;
* `parseSource_leaves` — the words of a source are those of its tree;
* `parseSource_bound` — what holds at every node of the tree of a source.
-/

namespace TypeLint.Source

open TypeLint.Tree

/-! ## the places of spots -/

theorem Pos.Before.trans_not_before {p q r : Pos} (h : p.Before q) (h' : ¬ r.Before q) : p.Before r := by
  unfold Pos.Before at *
  omega

/-- A mark is read the same way wherever it stands, so its place is not kept. -/
theorem State.spots_of_isMark {t : Token} (ht : t.IsMark) {s s' : State} (h : s.step t = some s') :
    s'.spots = s.spots := by
  have h' : s.step ⟨t.kind, t.text, t.pos.next CodePoint.lineFeed⟩ = some s' := by
    rw [← h]
    exact State.step_of_isMark ht (by rfl) s
  have hword : t.kind.isWord = false := by rcases ht with hk | hk <;> rw [hk] <;> rfl
  rcases State.spots_step h with hs | ⟨-, hs⟩
  · rcases State.spots_step h' with hs' | ⟨-, hs'⟩
    · have hpos : t.pos = t.pos.next CodePoint.lineFeed := by simpa [hs, Token.spot, hword] using hs'
      have hbefore := t.pos.before_next CodePoint.lineFeed
      rw [← hpos] at hbefore
      exact absurd hbefore (Pos.not_before_self _)
    · exact hs'
  · exact hs

theorem State.spots_terminated? {s s' : State} (h : s.terminated? = some s') : s'.spots = s.spots :=
  State.spots_of_isMark (.inl rfl) h

/-- A lexeme adds nothing to the spots, or a spot at its place. -/
theorem State.spots_read {s s' : State} {pos : Pos} {kind : LexemeKind} {lexeme : Text}
    (h : s.read pos kind lexeme = some s') :
    s'.spots = s.spots ∨ ∃ u : Spot, u.pos = pos ∧ s'.spots = s.spots ++ [u] := by
  cases kind with
  | gap => exact .inl (by rw [Option.some.inj h])
  | lineEnd =>
    simp only [State.read, State.lineEnded?] at h
    split at h
    · exact .inl (State.spots_terminated? h)
    · exact .inl (by rw [Option.some.inj h])
  | semicolon => exact .inl (State.spots_terminated? h)
  | token k =>
    rcases State.spots_step h with hs | ⟨-, hs⟩
    · refine .inr ⟨Token.spot ⟨k, lexeme, pos⟩, ?_, hs⟩
      unfold Token.spot
      split <;> rfl
    · exact .inl hs

/-- What is read adds spots of the text, one behind the other. -/
theorem State.Reads.spots {s s' : State} {pos : Pos} {t : Text} (h : s.Reads pos t s') :
    ∃ us, s'.spots = s.spots ++ us ∧ (∀ u ∈ us, ¬ u.pos.Before pos) ∧ us.Pairwise fun a b => a.pos.Before b.pos := by
  induction h with
  | nil => exact ⟨[], by simp⟩
  | @cons s s₁ s' pos t lexeme rest kind scanned read reads ih =>
    obtain ⟨us, hus, hin, hord⟩ := ih
    have hnext : pos.Before (pos.after lexeme) := pos.before_after (splits_scan scanned).2
    have hfar : ∀ u ∈ us, ¬ u.pos.Before pos := fun u hu h => hin u hu (h.trans hnext)
    rcases State.spots_read read with hs | ⟨u, rfl, hs⟩
    · exact ⟨us, by rw [hus, hs], hfar, hord⟩
    · refine ⟨u :: us, by simp [hus, hs], ?_, ?_⟩
      · exact List.forall_mem_cons.2 ⟨Pos.not_before_self _, hfar⟩
      · exact List.pairwise_cons.2 ⟨fun v hv => hnext.trans_not_before (hin v hv), hord⟩

/-- The spots of a program stand in its source one behind the other. -/
theorem spots_of_parse {source : Text} {p : Program} (h : parse source = .ok p) :
    (∀ u ∈ p.spots, ¬ u.pos.Before .start) ∧ p.spots.Pairwise fun a b => a.pos.Before b.pos := by
  obtain ⟨s, hr, hs⟩ := parse_eq_ok_iff.1 h
  obtain ⟨us, hus, hin, hord⟩ := hr.spots
  obtain ⟨s', hs', hf⟩ := State.conclude?_eq_some.1 hs
  have hend : s'.spots = s.spots := by
    split at hs'
    · exact State.spots_terminated? hs'
    · rw [Option.some.inj hs']
  have hp : p.spots = us := by
    rw [show p.spots = s'.spots from State.spots_of_isMark (.inr rfl) hf, hend, hus]
    rfl
  rw [hp]
  exact ⟨hin, hord⟩

/-! ## the words of spots -/

/-- The token that a spot keeps. -/
def Spot.token? : Spot → Option Token
  | .word kind text pos => some ⟨kind, text, pos⟩
  | .sign _ => none

theorem Token.Adds.words {t : Token} {before behind : List Spot} (h : t.Adds before behind) :
    behind.filterMap Spot.token? = before.filterMap Spot.token? ++ [t].filter fun t => t.kind.isWord := by
  rcases h with rfl | ⟨hword, rfl⟩
  · rw [List.filterMap_append]
    cases hword : t.kind.isWord <;> simp [Token.spot, hword, Spot.token?]
  · simp [hword]

/-- The words among the tokens that are read are added to what is kept. -/
theorem State.words_run {ts : List Token} {s s' : State} (h : s.run ts = some s') :
    s'.spots.filterMap Spot.token? = s.spots.filterMap Spot.token? ++ ts.filter fun t => t.kind.isWord := by
  induction ts generalizing s with
  | nil =>
    obtain rfl := Option.some.inj h
    simp
  | cons t ts ih =>
    rw [State.run_cons] at h
    obtain ⟨s₁, hs₁, h⟩ := Option.bind_eq_some_iff.1 h
    rw [ih h, (State.spots_step hs₁).words, List.append_assoc, ← List.filter_append]
    rfl

/-- The words of a program are those of the tokens that are delivered. -/
theorem words_of_parse {source : Text} {p : Program} (h : parse source = .ok p) :
    ∃ ts : List Token, delivered source = ts.map Token.lexeme ∧
      p.spots.filterMap Spot.token? = ts.filter fun t => t.kind.isWord := by
  obtain ⟨ts, hts, pos, hrun⟩ := parse_delivers h
  refine ⟨ts, hts, ?_⟩
  have := State.words_run hrun
  simpa [State.spots, State.start, Scope.spots, stmtSpots, Terminal.isWord] using this

/-! ## words and places of events -/

/-- Events along spots keep their words, each once. -/
theorem Along.leaves {es : List Event} {ss : List Spot} (h : Along es ss) :
    List.Forall₂ Keeps (es.filterMap Event.leaf?) (ss.filterMap Spot.token?) := by
  induction h with
  | nil => exact .nil
  | sign _ ih | node _ _ _ ih | outside _ _ ih => exact ih
  | leaf kept _ ih | named _ _ kept _ ih | method _ _ kept _ _ _ ih => exact .cons kept ih

/-- Places of spots, none before one that stands earlier in the list. -/
structure Spot.Hold (ss : List Spot) (ps : List Pos) : Prop where
  ordered : ps.Pairwise fun p q => ¬ q.Before p
  mem : ∀ p ∈ ps, ∃ s ∈ ss, s.pos = p

namespace Spot.Hold

variable {ss : List Spot} {ps : List Pos} {s : Spot}

theorem skip (h : Hold ss ps) (s : Spot) : Hold (s :: ss) ps := by
  refine ⟨h.ordered, fun p hp => ?_⟩
  obtain ⟨u, hu, rfl⟩ := h.mem p hp
  exact ⟨u, List.mem_cons_of_mem s hu, rfl⟩

/-- The place of the first spot may be repeated. -/
theorem here (h : Hold (s :: ss) ps) (hs : ∀ u ∈ ss, s.pos.Before u.pos) : Hold (s :: ss) (s.pos :: ps) := by
  refine ⟨List.pairwise_cons.2 ⟨fun q hq => ?_, h.ordered⟩, ?_⟩
  · obtain ⟨u, hu, rfl⟩ := h.mem q hq
    rcases List.mem_cons.1 hu with rfl | hu
    · exact Pos.not_before_self _
    · exact (hs u hu).asymm
  · exact List.forall_mem_cons.2 ⟨⟨s, List.mem_cons_self, rfl⟩, h.mem⟩

end Spot.Hold

/-- The places of the chosen nodes among events. -/
def placesOf (chosen : Bool × Node → Bool) (es : List Event) : List (Option Loc) :=
  ((es.filterMap Event.visit?).filter chosen).map fun visit => visit.2.loc

section Places

variable {chosen : Bool × Node → Bool} {es : List Event} {b : Bool} {n : Node}

@[simp]
theorem placesOf_leaf (l : Leaf) : placesOf chosen (.leaf l :: es) = placesOf chosen es := rfl

theorem placesOf_chosen (h : chosen (b, n) = true) : placesOf chosen (.node b n :: es) = n.loc :: placesOf chosen es := by
  simp [placesOf, Event.visit?, h]

theorem placesOf_other (h : chosen (b, n) = false) : placesOf chosen (.node b n :: es) = placesOf chosen es := by
  simp [placesOf, Event.visit?, h]

theorem inOrder_of_isNamed (b : Bool) (h : isNamed n.kind = true) : inOrder (b, n) = true := by
  unfold inOrder
  cases hk : n.kind <;> simp_all [isNamed]

end Places

/-- Events along ordered spots: the nodes that are not left out stand in the order of their places. -/
theorem Along.places {es : List Event} {ss : List Spot} (h : Along es ss)
    (hs : ss.Pairwise fun a b => a.pos.Before b.pos) :
    ∃ ps : List Pos, placesOf inOrder es = ps.map (fun p => some p.toLoc) ∧ Spot.Hold ss ps := by
  induction h with
  | nil => exact ⟨[], rfl, .nil, by simp⟩
  | sign _ ih | leaf _ _ ih =>
    obtain ⟨ps, hps, hold⟩ := ih hs.of_cons
    exact ⟨ps, hps, hold.skip _⟩
  | named isNamed place _ _ ih =>
    obtain ⟨ps, hps, hold⟩ := ih hs.of_cons
    refine ⟨_ :: ps, ?_, (hold.skip _).here (List.pairwise_cons.1 hs).1⟩
    rw [placesOf_chosen (inOrder_of_isNamed _ isNamed), placesOf_leaf, hps, place]
    rfl
  | @method _ _ _ b' _ f _ _ _ _ isNamed place _ isFunction below _ ih =>
    obtain ⟨ps, hps, hold⟩ := ih hs.of_cons
    have hbehind := (List.pairwise_cons.1 hs).1
    refine ⟨_ :: _ :: ps, ?_, ((hold.skip _).here hbehind).here hbehind⟩
    have hfunction : inOrder (b', f) = true := by simp [inOrder, isFunction]
    rw [placesOf_chosen (inOrder_of_isNamed _ isNamed), placesOf_leaf, placesOf_chosen hfunction, hps, place, below]
    rfl
  | @node _ _ _ b n place _ _ ih =>
    obtain ⟨ps, hps, hold⟩ := ih hs
    cases hn : inOrder (b, n) with
    | false => exact ⟨ps, by rw [placesOf_other hn, hps], hold⟩
    | true =>
      refine ⟨_ :: ps, ?_, hold.here (List.pairwise_cons.1 hs).1⟩
      rw [placesOf_chosen hn, hps, place]
      rfl
  | outside out _ ih =>
    obtain ⟨ps, hps, hold⟩ := ih hs
    exact ⟨ps, by rw [placesOf_other out, hps], hold⟩

/-- The nodes with a word of their own are at different spots. -/
theorem Along.namedPlaces {es : List Event} {ss : List Spot} (h : Along es ss) :
    ∃ ps : List Pos, placesOf (fun visit => isNamed visit.2.kind) es = ps.map (fun p => some p.toLoc) ∧
      ps.Sublist (ss.map Spot.pos) := by
  induction h with
  | nil => exact ⟨[], rfl, .slnil⟩
  | sign _ ih | leaf _ _ ih =>
    obtain ⟨ps, hps, hsub⟩ := ih
    exact ⟨ps, hps, hsub.cons _⟩
  | named isNamed place _ _ ih =>
    obtain ⟨ps, hps, hsub⟩ := ih
    refine ⟨_ :: ps, ?_, hsub.cons_cons _⟩
    rw [placesOf_chosen isNamed, placesOf_leaf, hps, place]
    rfl
  | method isNamed place _ isFunction _ _ ih =>
    obtain ⟨ps, hps, hsub⟩ := ih
    refine ⟨_ :: ps, ?_, hsub.cons_cons _⟩
    rw [placesOf_chosen isNamed, placesOf_leaf, placesOf_other (by simp [isFunction, Source.isNamed]), hps, place]
    rfl
  | node _ unnamed _ ih =>
    obtain ⟨ps, hps, hsub⟩ := ih
    exact ⟨ps, by rw [placesOf_other unnamed, hps], hsub⟩
  | @outside _ _ b n out _ ih =>
    obtain ⟨ps, hps, hsub⟩ := ih
    have hn : isNamed n.kind = false := by
      by_contra hn
      rw [inOrder_of_isNamed b (by simpa using hn)] at out
      simp at out
    exact ⟨ps, by rw [placesOf_other hn, hps], hsub⟩

end TypeLint.Source

namespace TypeLint.Lint

open Source TypeLint.Tree

/-- The walk through the tree of a source follows the source.  Without the operations, and without the members inside
the class of a `new` expression, no node is before one that is visited earlier; and the nodes with a word of their own
are all behind those that are visited earlier. -/
theorem parseSource_inOrder {source : Text} {path : Option Text} {root : Node}
    (h : parseSource source path = .ok (.program root)) :
    root.visits.map Prod.snd = root.walk ∧
    (∃ ps : List Pos, ((root.visits.filter inOrder).map fun visit => visit.2.loc) = ps.map (fun p => some p.toLoc) ∧
      ps.Pairwise fun p q => ¬ q.Before p) ∧
    ∃ ps : List Pos, (root.walk.filter fun n => isNamed n.kind).map Node.loc = ps.map (fun p => some p.toLoc) ∧
      ps.Pairwise Pos.Before := by
  obtain ⟨p, hp, hroot⟩ := parseSource_eq_program.1 h
  obtain ⟨hkind, hloc, es, hes, halong⟩ := Program.along hroot
  obtain ⟨hstart, hord⟩ := spots_of_parse hp
  have hwalk := (Program.conforms hroot).visits_eq_walk
  refine ⟨hwalk, ?_, ?_⟩
  · obtain ⟨ps, hps, hold⟩ := halong.places hord
    refine ⟨.start :: ps, ?_, List.pairwise_cons.2 ⟨fun q hq => ?_, hold.ordered⟩⟩
    · show placesOf inOrder (root.events false) = _
      rw [hes, placesOf_chosen (by simp [inOrder, hkind]), hps, hloc]
      rfl
    · obtain ⟨u, hu, rfl⟩ := hold.mem q hq
      exact hstart u hu
  · obtain ⟨ps, hps, hsub⟩ := halong.namedPlaces
    refine ⟨ps, ?_, (List.pairwise_map.2 hord).sublist hsub⟩
    rw [← hps, ← placesOf_other (by simp [isNamed, hkind] : isNamed root.kind = false), ← hes, ← hwalk,
      List.filter_map, List.map_map]
    rfl

theorem parseSource_inOrder_new :
    ∃ root, parseSource (text "a * new b.C(1) + c.d") none = .ok (.program root) ∧
      ∃ ps : List Pos, ((root.visits.filter inOrder).map fun visit => visit.2.loc) = ps.map (fun p => some p.toLoc) ∧
        (ps.Pairwise fun p q => ¬ q.Before p) ∧ ps.length = 8 ∧ root.walk.length = 11 := by
  obtain ⟨root, hroot, hlen, hwalk⟩ : ∃ root, parseSource (text "a * new b.C(1) + c.d") none = .ok (.program root) ∧
      (root.visits.filter inOrder).length = 8 ∧ root.visits.length = 11 := by
    exact ⟨_, parseSource_eq_program.2 ⟨_, by rw [parse_eq_runFor]; cbv, by rfl⟩, by rfl, by rfl⟩
  obtain ⟨hvisits, ⟨ps, hps, hord⟩, -⟩ := parseSource_inOrder hroot
  refine ⟨root, hroot, ps, hps, hord, ?_, ?_⟩
  · have := congrArg List.length hps
    simpa [hlen] using this.symm
  · rw [← hvisits, List.length_map, hwalk]

/-- The words of a source are those of its tree: the names, numbers and strings among the tokens that are delivered are
what the fields of the tree keep, one for one and in the same order. -/
theorem parseSource_leaves {source : Text} {path : Option Text} {root : Node}
    (h : parseSource source path = .ok (.program root)) :
    ∃ ts : List Token, delivered source = ts.map Token.lexeme ∧
      List.Forall₂ Keeps root.leaves (ts.filter fun t => t.kind.isWord) := by
  obtain ⟨p, hp, hroot⟩ := parseSource_eq_program.1 h
  obtain ⟨ts, hts, hwords⟩ := words_of_parse hp
  obtain ⟨-, -, es, hes, halong⟩ := Program.along hroot
  refine ⟨ts, hts, ?_⟩
  rw [← hwords, Node.leaves, hes]
  exact halong.leaves

theorem parseSource_leaves_literals :
    ∃ root, parseSource (text "let x: 'a' = new b.C<1>(true)") none = .ok (.program root) ∧
      ∃ ts : List Token, delivered (text "let x: 'a' = new b.C<1>(true)") = ts.map Token.lexeme ∧
        List.Forall₂ Keeps root.leaves (ts.filter fun t => t.kind.isWord) ∧ root.leaves.length = 6 := by
  obtain ⟨root, hroot, hlen⟩ : ∃ root,
      parseSource (text "let x: 'a' = new b.C<1>(true)") none = .ok (.program root) ∧ root.leaves.length = 6 := by
    exact ⟨_, parseSource_eq_program.2 ⟨_, by rw [parse_eq_runFor]; cbv, by rfl⟩, by rfl⟩
  obtain ⟨ts, hts, hkept⟩ := parseSource_leaves hroot
  exact ⟨root, hroot, ts, hts, hkept, hlen⟩

/-- At every node of the tree of a source the parts bind as they are written. -/
theorem parseSource_bound {source : Text} {path : Option Text} {root : Node}
    (h : parseSource source path = .ok (.program root)) : ∀ n ∈ root.walk, n.Bound := by
  obtain ⟨p, hp, hroot⟩ := parseSource_eq_program.1 h
  rw [Node.walk_eq]
  exact Program.bound (proper_of_parse hp) hroot

theorem parseSource_bound_operators :
    ∃ root, parseSource (text "let x: a.B[] | 1 = y = new d.E<F>(1 * 2 - 3)") none = .ok (.program root) ∧
      (∀ n ∈ root.walk, n.Bound) ∧ root.visits.length = 18 := by
  obtain ⟨root, hroot, hlen⟩ : ∃ root,
      parseSource (text "let x: a.B[] | 1 = y = new d.E<F>(1 * 2 - 3)") none = .ok (.program root) ∧
      root.visits.length = 18 := by
    exact ⟨_, parseSource_eq_program.2 ⟨_, by rw [parse_eq_runFor]; cbv, by rfl⟩, by rfl⟩
  exact ⟨root, hroot, parseSource_bound hroot, hlen⟩

end TypeLint.Lint
