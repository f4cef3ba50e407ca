import TypeLint.Proofs.Pattern.Enclosed
import TypeLint.Proofs.Pattern.Reading
import TypeLint.Rule.Ban

/-!
# The patterns of bans

A ban puts its pattern between two anchors before it is read.  The second anchor can complete a pattern that ends with a
backslash, and a bar outside of groups keeps each anchor to one branch.

* `compile_valid` — which patterns are accepted;
* `applies_simple` — which names a simple pattern matches.
-/

namespace TypeLint.Rule

open Pattern

theorem compile_singleton (raw : Text) :
    compile [.arr [.str raw]] = match parse (Ban.anchored raw) with
      | .ok e => .ok [⟨Ban.anchored raw, e, []⟩]
      | .error error => .error ⟨0, .pattern raw error⟩ := by
  simp only [compile, compileFrom, Ban.ofEntry, Ban.ofPattern]
  cases parse (Ban.anchored raw) <;> rfl

theorem compile_singleton_eq_ok {raw : Text} {bans : List Ban} (h : compile [.arr [.str raw]] = .ok bans) :
    ∃ e, parse (Ban.anchored raw) = .ok e ∧ bans = [⟨Ban.anchored raw, e, []⟩] := by
  rw [compile_singleton] at h
  split at h
  · next e he => exact ⟨e, he, (Except.ok.inj h).symm⟩
  · simp at h

/-- A fault of a pattern has a wording. -/
theorem message?_of_isFault (raw : Text) {error : Error} (h : error.isFault = true) :
    ∃ reason, (BanError.mk 0 (.pattern raw error)).message? =
      some (text "ban entry 0: invalid pattern " ++ raw.quoted ++ text ": " ++ reason) := by
  have hentry : text "ban entry " ++ Text.ofNat 0 ++ text ": invalid pattern " =
      text "ban entry 0: invalid pattern " := rfl
  rcases error with ⟨fault, pos⟩ | fault | _ | _ | _
  · exact ⟨fault.describeAt (Ban.anchored raw) pos, by rw [← hentry]; rfl⟩
  · exact ⟨fault.message, by rw [← hentry]; rfl⟩
  all_goals simp [Error.isFault] at h

/-- An error that is no fault is about a number of repetitions. -/
theorem parse_anchored_error {raw : Text} {error : Error} (h : parse (Ban.anchored raw) = .error error) :
    error.isFault = true ∨ error = .repeatTooLarge ∨ error = .tooManyDigits := by
  rcases error with _ | _ | _ | _ | _
  · exact .inl rfl
  · exact .inl rfl
  · exact .inr (.inl rfl)
  · exact .inr (.inr rfl)
  · rw [Ban.anchored, List.append_assoc] at h
    exact absurd h (parse_anchor_ne_flagConflict (by simp [text]))

/-- A pattern that is accepted can be read alone, unless it ends with a backslash that nothing follows: the backslash
takes the second anchor.  Any other pattern that cannot be read alone is refused with a message, or it has a number of
repetitions that cannot be counted. -/
theorem compile_valid (raw : Text) :
    (∀ bans, compile [.arr [.str raw]] = .ok bans → ((∃ e, parse raw = .ok e) ↔ ¬Dangles raw)) ∧
    (∀ error, parse raw = .error error → ¬Dangles raw →
      ∃ e, compile [.arr [.str raw]] = .error e ∧
        ((∃ reason, e.message? = some (text "ban entry 0: invalid pattern " ++ raw.quoted ++ text ": " ++ reason)) ∨
          error = .repeatTooLarge ∨ error = .tooManyDigits)) := by
  constructor
  · intro bans hbans
    constructor
    · rintro ⟨e, he⟩ hdangles
      obtain ⟨error, herror⟩ := parse_of_dangles hdangles
      simp [he] at herror
    · intro hdangles
      obtain ⟨e', he', -⟩ := compile_singleton_eq_ok hbans
      obtain ⟨e, he, -⟩ := (follows_parse hdangles).ok e' he'
      exact ⟨e, he⟩
  · intro error herror hdangles
    cases hanchored : parse (Ban.anchored raw) with
    | ok e' =>
      obtain ⟨e, he, -⟩ := (follows_parse hdangles).ok e' hanchored
      simp [he] at herror
    | error error' =>
      refine ⟨⟨0, .pattern raw error'⟩, by rw [compile_singleton, hanchored], ?_⟩
      rcases parse_anchored_error hanchored with hfault | hcount
      · exact .inl (message?_of_isFault raw hfault)
      · -- an uncountable repetition is found by both readings
        rcases (follows_parse hdangles).error error' hanchored with hfault | hsame
        · exact .inl (message?_of_isFault raw hfault)
        · obtain rfl : error' = error := by simpa [hsame] using herror
          exact .inr hcount

/-- A parenthesis that is not closed is refused, alone and between the anchors. -/
theorem compile_valid_parenthesis :
    ∃ e, compile [.arr [.str (text "Foo(")]] = .error e ∧
      ∃ reason, e.message? = some (text "ban entry 0: invalid pattern 'Foo(': " ++ reason) := by
  obtain ⟨e, he, hmessage | hcount | hcount⟩ :=
    (compile_valid (text "Foo(")).2 (.at .unterminatedGroup 3) rfl (by decide)
  · exact ⟨e, he, hmessage⟩
  · simp at hcount
  · simp at hcount

/-- A lonely backslash is no pattern, and it is accepted. -/
theorem compile_backslash :
    (∃ error, parse (text "\\") = .error error) ∧ ∃ bans, compile [.arr [.str (text "\\")]] = .ok bans :=
  ⟨⟨_, rfl⟩, ⟨_, rfl⟩⟩

/-! ## what simple patterns match -/

/-- The ban of a choice between simple patterns. -/
theorem compile_choice (c : Simple.Choice) :
    ∃ ban, compile [.arr [.str c.text]] = .ok [ban] ∧ ∀ s, ban.applies s = c.between.search s := by
  have hparse := Simple.parse_between c
  refine ⟨_, by rw [compile_singleton, Ban.anchored, hparse], fun s => ?_⟩
  rw [Ban.applies, Simple.matcher_joined]
  rfl

/-- Without a bar outside of groups, a simple pattern is matched by its words, each alone or with a line feed behind it.
With bars, only the first branch has an anchor before it and only the last one has an anchor behind it: a text without
line feeds is matched if it begins with a word of the first branch, ends with a word of the last branch, or has a word
of another branch anywhere. -/
theorem applies_simple :
    (∀ r : Simple.Branch, ∃ ban, compile [.arr [.str r.text]] = .ok [ban] ∧
      ∀ s, ban.applies s = true ↔ s ∈ r.language ∨ ∃ t, s = t ++ [.lineFeed] ∧ t ∈ r.language) ∧
    (∀ (first : Simple.Branch) (middle : List Simple.Branch) (last : Simple.Branch),
      ∃ ban, compile [.arr [.str (.intercalate (text "|") ((first :: (middle ++ [last])).map (·.text)))]] = .ok [ban] ∧
        ∀ s, .lineFeed ∉ s → (ban.applies s = true ↔
          (∃ u, u <+: s ∧ u ∈ first.language) ∨ (∃ r ∈ middle, ∃ u, u <:+: s ∧ u ∈ r.language) ∨
            ∃ u, u <:+ s ∧ u ∈ last.language)) := by
  constructor
  · intro r
    obtain ⟨ban, hban, happlies⟩ := compile_choice (.single r)
    refine ⟨ban, hban, fun s => ?_⟩
    rw [happlies, Simple.search_single]
  · intro first middle last
    obtain ⟨ban, hban, happlies⟩ := compile_choice (.ofList (first :: middle) last)
    rw [Simple.Choice.text_ofList] at hban
    refine ⟨ban, hban, fun s hs => ?_⟩
    rw [happlies]
    exact Simple.search_ofList first middle last hs

/-- The last branch has no anchor before it. -/
theorem applies_simple_digits :
    ∃ ban, compile [.arr [.str (text "a|[0-9]+")]] = .ok [ban] ∧ ban.applies (text "x7") = true := by
  let letterA : Simple.Branch := .part (.char ⟨'a', by decide⟩) .once .empty
  let digit : Simple.Item := .range ⟨'0', by decide⟩ ⟨'9', by decide⟩ (by decide)
  let digits : Simple.Branch := .part (.set false digit []) .plus .empty
  obtain ⟨ban, hban, happlies⟩ := applies_simple.2 letterA [] digits
  refine ⟨ban, hban, (happlies (text "x7") (by decide)).2 (.inr (.inr ⟨text "7", by decide, ?_⟩))⟩
  have hdigit : text "7" ∈ (Simple.Atom.set false digit []).language :=
    ⟨'7', ⟨digit, by simp, by decide, by decide⟩, rfl⟩
  have hplus := Language.append_mem_mul hdigit (Language.nil_mem_kstar (Simple.Atom.set false digit []).language)
  exact Language.append_mem_mul hplus Language.nil_mem_one

end TypeLint.Rule
