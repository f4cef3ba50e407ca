import TypeLint.Proofs.Rule.Schema
import TypeLint.Rule.BanTypes

/-!
# The entries of bans

Each entry of a list becomes one ban, and the first entry that is none stops the list.  What an entry has to look like
is said twice: by the schema of the options, and by how an entry is read.  The two differ only in a message that is
`null`, which is no text for the schema and no message for the reading.

* `EntryOf` — the pattern and the message of an entry;
* `Ban.ofEntry_cases` — an entry has a pattern and a message, or it is no ban;
* `compileFrom_eq_ok_iff`, `compileFrom_eq_error_iff` — what becomes of a list of entries;
* `IsEntry`, `validate_eq_ok_iff` — the entries that fit the schema;
* `compile_entrywise` — a list of entries is compiled entry by entry;
* `validate_shapes` — options that fit the schema are refused for a pattern only.
-/

namespace TypeLint.Rule

open Pattern Schema

/-! ## one entry -/

/-- The pattern and the message of an entry.  A message that is left out or `null` is empty. -/
inductive EntryOf : Json → Text → Text → Prop
  | name (raw : Text) : EntryOf (.arr [.str raw]) raw []
  | null (raw : Text) : EntryOf (.arr [.str raw, .null]) raw []
  | message (raw message : Text) : EntryOf (.arr [.str raw, .str message]) raw message

theorem EntryOf.ofEntry {entry : Json} {raw message : Text} (h : EntryOf entry raw message) :
    Ban.ofEntry entry = Ban.ofPattern raw message := by
  cases h <;> rfl

/-- An entry has a pattern and a message, or it is no ban. -/
theorem Ban.ofEntry_cases (entry : Json) :
    (∃ raw message, EntryOf entry raw message) ∨
      Ban.ofEntry entry = .error .notText ∨ Ban.ofEntry entry = .error .shape := by
  unfold Ban.ofEntry
  split
  · exact .inl ⟨_, _, .name _⟩
  · exact .inl ⟨_, _, .null _⟩
  · exact .inl ⟨_, _, .message _ _⟩
  · exact .inr (.inl rfl)
  · exact .inr (.inl rfl)
  · exact .inr (.inr rfl)

theorem Ban.ofPattern_eq_ok_iff {raw message : Text} {ban : Ban} :
    Ban.ofPattern raw message = .ok ban ↔
      ∃ e, parse (Ban.anchored raw) = .ok e ∧ ban = ⟨Ban.anchored raw, e, message⟩ := by
  unfold Ban.ofPattern
  cases parse (Ban.anchored raw) <;> simp [eq_comm]

theorem Ban.ofPattern_eq_error_iff {raw message : Text} {fault : EntryFault} :
    Ban.ofPattern raw message = .error fault ↔
      ∃ error, parse (Ban.anchored raw) = .error error ∧ fault = .pattern raw error := by
  unfold Ban.ofPattern
  cases parse (Ban.anchored raw) <;> simp [eq_comm]

/-- The ban of an entry: its pattern between two anchors, and its message. -/
theorem Ban.ofEntry_eq_ok_iff {entry : Json} {ban : Ban} :
    Ban.ofEntry entry = .ok ban ↔ ∃ raw message e, EntryOf entry raw message ∧ parse (Ban.anchored raw) = .ok e ∧
      ban = ⟨Ban.anchored raw, e, message⟩ := by
  constructor
  · intro h
    rcases Ban.ofEntry_cases entry with ⟨raw, message, hentry⟩ | hfault | hfault
    · obtain ⟨e, he, rfl⟩ := Ban.ofPattern_eq_ok_iff.1 (hentry.ofEntry ▸ h)
      exact ⟨raw, message, e, hentry, he, rfl⟩
    · simp [hfault] at h
    · simp [hfault] at h
  · rintro ⟨raw, message, e, hentry, he, rfl⟩
    exact hentry.ofEntry ▸ Ban.ofPattern_eq_ok_iff.2 ⟨e, he, rfl⟩

/-- Only an entry that has a pattern fails because of it. -/
theorem Ban.ofEntry_eq_pattern_iff {entry : Json} {raw : Text} {error : Error} :
    Ban.ofEntry entry = .error (.pattern raw error) ↔
      (∃ message, EntryOf entry raw message) ∧ parse (Ban.anchored raw) = .error error := by
  constructor
  · intro h
    rcases Ban.ofEntry_cases entry with ⟨raw', message, hentry⟩ | hfault | hfault
    · obtain ⟨error', he, hfault⟩ := Ban.ofPattern_eq_error_iff.1 (hentry.ofEntry ▸ h)
      obtain ⟨rfl, rfl⟩ : raw = raw' ∧ error = error' := by simpa using hfault
      exact ⟨⟨message, hentry⟩, he⟩
    · simp [hfault] at h
    · simp [hfault] at h
  · rintro ⟨⟨message, hentry⟩, he⟩
    exact hentry.ofEntry ▸ Ban.ofPattern_eq_error_iff.2 ⟨error, he, rfl⟩

/-- The checks of the shape are passed exactly by the entries that have a pattern and a message. -/
theorem exists_entryOf_iff {entry : Json} : (∃ raw message, EntryOf entry raw message) ↔
    Ban.ofEntry entry ≠ .error .shape ∧ Ban.ofEntry entry ≠ .error .notText := by
  constructor
  · rintro ⟨raw, message, hentry⟩
    rw [hentry.ofEntry]
    constructor <;> simp [Ban.ofPattern_eq_error_iff]
  · rintro ⟨hshape, htext⟩
    rcases Ban.ofEntry_cases entry with hentry | hfault | hfault
    · exact hentry
    · exact absurd hfault htext
    · exact absurd hfault hshape

/-! ## lists of entries -/

theorem compileFrom_eq_ok_iff {i : Nat} {entries : List Json} {bans : List Ban} :
    compileFrom i entries = .ok bans ↔ List.Forall₂ (fun entry ban => Ban.ofEntry entry = .ok ban) entries bans := by
  induction entries generalizing i bans with
  | nil => simp [compileFrom, eq_comm]
  | cons entry rest ih =>
    rw [compileFrom, List.forall₂_cons_left_iff]
    simp only [← ih (i := i + 1)]
    cases Ban.ofEntry entry with
    | error fault => simp
    | ok ban => cases compileFrom (i + 1) rest <;> simp [Except.map, eq_comm]

theorem compile_append {X Y : List Json} {bans : List Ban} :
    compile (X ++ Y) = .ok bans ↔ ∃ x y, compile X = .ok x ∧ compile Y = .ok y ∧ bans = x ++ y := by
  simp only [compile, compileFrom_eq_ok_iff]
  constructor
  · intro h
    have hx := List.forall₂_take X.length h
    have hy := List.forall₂_drop X.length h
    rw [List.take_left' rfl] at hx
    rw [List.drop_left' rfl] at hy
    exact ⟨_, _, hx, hy, (List.take_append_drop _ _).symm⟩
  · rintro ⟨x, y, hx, hy, rfl⟩
    exact List.rel_append hx hy

theorem exists_compileFrom_iff {i : Nat} {entries : List Json} :
    (∃ bans, compileFrom i entries = .ok bans) ↔ ∀ entry ∈ entries, ∃ ban, Ban.ofEntry entry = .ok ban := by
  induction entries generalizing i with
  | nil => simp [compileFrom]
  | cons entry rest ih =>
    rw [List.forall_mem_cons, ← ih (i := i + 1), compileFrom]
    cases Ban.ofEntry entry with
    | error fault => simp
    | ok ban => cases compileFrom (i + 1) rest <;> simp [Except.map]

/-- A list of entries fails with the first one that is no ban, whatever follows it. -/
theorem compileFrom_eq_error_iff {i : Nat} {entries : List Json} {e : BanError} :
    compileFrom i entries = .error e ↔ ∃ before entry behind, entries = before ++ entry :: behind ∧
      e.index = i + before.length ∧ (∀ b ∈ before, ∃ ban, Ban.ofEntry b = .ok ban) ∧
      Ban.ofEntry entry = .error e.fault := by
  induction entries generalizing i with
  | nil => simp [compileFrom]
  | cons entry rest ih =>
    cases hentry : Ban.ofEntry entry with
    | error fault =>
      constructor
      · intro h
        simp only [compileFrom, hentry, Except.error.injEq] at h
        subst h
        exact ⟨[], entry, rest, rfl, rfl, by simp, hentry⟩
      · rintro ⟨_ | ⟨b, before⟩, entry', behind, heq, hindex, hbefore, hfault⟩
        · obtain ⟨rfl, rfl⟩ := List.cons.inj heq
          obtain rfl : fault = e.fault := by simpa [hentry] using hfault
          simp only [compileFrom, hentry]
          rw [show i = e.index from hindex.symm]
        · obtain ⟨rfl, -⟩ := List.cons.inj heq
          simp [hentry] at hbefore
    | ok ban =>
      have hrest : compileFrom i (entry :: rest) = .error e ↔ compileFrom (i + 1) rest = .error e := by
        rw [compileFrom, hentry]
        cases compileFrom (i + 1) rest <;> simp [Except.map]
      rw [hrest, ih]
      constructor
      · rintro ⟨before, entry', behind, rfl, hindex, hbefore, hfault⟩
        exact ⟨entry :: before, entry', behind, rfl, by simp [hindex]; omega, by simpa [hentry] using hbefore, hfault⟩
      · rintro ⟨_ | ⟨b, before⟩, entry', behind, heq, hindex, hbefore, hfault⟩
        · obtain ⟨rfl, rfl⟩ := List.cons.inj heq
          simp [hentry] at hfault
        · obtain ⟨rfl, rfl⟩ := List.cons.inj heq
          refine ⟨before, entry', behind, rfl, ?_, fun b hb => hbefore b (List.mem_cons_of_mem _ hb), hfault⟩
          rw [hindex, List.length_cons]
          omega

theorem compile_one_eq_ok_iff {entry : Json} {bans : List Ban} :
    compile [entry] = .ok bans ↔ ∃ ban, Ban.ofEntry entry = .ok ban ∧ bans = [ban] := by
  simp only [compile, compileFrom]
  cases Ban.ofEntry entry <;> simp [Except.map, eq_comm]

theorem compile_one_eq_error_iff {entry : Json} {e : BanError} :
    compile [entry] = .error e ↔ Ban.ofEntry entry = .error e.fault ∧ e.index = 0 := by
  obtain ⟨index, fault⟩ := e
  simp only [compile, compileFrom]
  cases Ban.ofEntry entry <;> simp [Except.map, eq_comm, and_comm]

theorem exists_compile_one_iff {entry : Json} :
    (∃ bans, compile [entry] = .ok bans) ↔ ∃ ban, Ban.ofEntry entry = .ok ban := by
  simp [compile_one_eq_ok_iff]

/-- A list of entries has bans exactly if each entry alone has one, and then it has one ban for each entry, in their
order: the pattern between two anchors, and the message.  Any other list fails as the first entry does that fails alone,
with the position of that entry, whatever follows.  The bans of two lists, one behind the other, are those of the first
and then those of the second, and of the bans that apply to a name the first one counts. -/
theorem compile_entrywise (entries : List Json) :
    ((∃ bans, compile entries = .ok bans) ↔ ∀ entry ∈ entries, ∃ bans, compile [entry] = .ok bans) ∧
    (∀ bans, compile entries = .ok bans → List.Forall₂ (fun entry ban => ∃ raw, EntryOf entry raw ban.message ∧
      ban.pattern = text "^" ++ raw ++ text "$" ∧ parse ban.pattern = .ok ban.expression) entries bans) ∧
    (∀ e, compile entries = .error e ↔ ∃ before entry behind, entries = before ++ entry :: behind ∧
      e.index = before.length ∧ (∀ b ∈ before, ∃ bans, compile [b] = .ok bans) ∧
      compile [entry] = .error ⟨0, e.fault⟩) ∧
    ∀ more x y, compile entries = .ok x → compile more = .ok y → compile (entries ++ more) = .ok (x ++ y) ∧
      ∀ name, firstMatch (x ++ y) name = (firstMatch x name).or (firstMatch y name) := by
  refine ⟨?_, fun bans h => ?_, fun e => ?_, fun more x y hx hy => ?_⟩
  · simp only [exists_compile_one_iff]
    exact exists_compileFrom_iff
  · refine (compileFrom_eq_ok_iff.1 h).imp fun entry ban hban => ?_
    obtain ⟨raw, message, e, hentry, he, rfl⟩ := Ban.ofEntry_eq_ok_iff.1 hban
    exact ⟨raw, hentry, rfl, he⟩
  · simp only [exists_compile_one_iff, compile_one_eq_error_iff, and_true]
    simp only [compile, compileFrom_eq_error_iff, Nat.zero_add]
  · exact ⟨compile_append.2 ⟨x, y, hx, hy, rfl⟩, fun name => List.find?_append⟩

/-- The second of three entries fails, though the third one is none either; and a list whose message is `null` is put
behind another one. -/
theorem compile_entrywise_parenthesis :
    (∃ e, compile [.arr [.str (text "A")], .arr [.str (text "Foo(")], .null] = .error e ∧ e.index = 1 ∧
      compile [.arr [.str (text "Foo(")]] = .error ⟨0, e.fault⟩) ∧
    ∃ x y, compile [.arr [.str (text "A"), .str (text "no")]] = .ok x ∧
      compile [.arr [.str (text "A*"), .null]] = .ok y ∧
      compile [.arr [.str (text "A"), .str (text "no")], .arr [.str (text "A*"), .null]] = .ok (x ++ y) ∧
      (x ++ y).map Ban.pattern = [text "^A$", text "^A*$"] ∧
      firstMatch (x ++ y) (text "A") = (firstMatch x (text "A")).or (firstMatch y (text "A")) := by
  constructor
  · obtain ⟨fault, hfault⟩ : ∃ fault, compile [.arr [.str (text "Foo(")]] = .error ⟨0, fault⟩ := ⟨_, rfl⟩
    have hfirst := ((compile_entrywise [.arr [.str (text "A")], .arr [.str (text "Foo(")], .null]).2.2.1 ⟨1, fault⟩).2
      ⟨[.arr [.str (text "A")]], _, [.null], rfl, rfl, by simpa using ⟨_, rfl⟩, hfault⟩
    exact ⟨⟨1, fault⟩, hfirst, rfl, hfault⟩
  · obtain ⟨x, y, hx, hy, hpatterns⟩ : ∃ x y, compile [.arr [.str (text "A"), .str (text "no")]] = .ok x ∧
        compile [.arr [.str (text "A*"), .null]] = .ok y ∧ (x ++ y).map Ban.pattern = [text "^A$", text "^A*$"] :=
      ⟨_, _, rfl, rfl, rfl⟩
    obtain ⟨hboth, hmatch⟩ := (compile_entrywise _).2.2.2 _ x y hx hy
    exact ⟨x, y, hx, hy, hboth, hpatterns, hmatch (text "A")⟩

/-! ## entries that fit the schema -/

/-- An entry: a name, and maybe a message. -/
inductive IsEntry : Json → Prop
  | name (raw : Text) : IsEntry (.arr [.str raw])
  | message (raw message : Text) : IsEntry (.arr [.str raw, .str message])

theorem conforms_string {v : Json} : Conforms (.mk (some .string) none none .any) v ↔ ∃ s, v = .str s := by
  constructor
  · rintro ⟨hasType, -, -, -⟩
    obtain ⟨⟩ := hasType _ rfl
    exact ⟨_, rfl⟩
  · rintro ⟨s, rfl⟩
    exact .mk (by rintro _ ⟨⟩; exact .string s) (by simp) (by simp) (by simp)

theorem conforms_entry {v : Json} : Conforms (.mk (some .array) (some 1) (some 2)
    (.positional [.mk (some .string) none none .any, .mk (some .string) none none .any])) v ↔ IsEntry v := by
  constructor
  · intro h
    obtain ⟨vs, rfl⟩ : ∃ vs, v = .arr vs := by
      obtain ⟨hasType, -, -, -⟩ := h
      obtain ⟨⟩ := hasType _ rfl
      exact ⟨_, rfl⟩
    obtain ⟨-, hlong, hshort, hitems⟩ := conforms_arr.1 h
    match vs with
    | [] => exact absurd (hlong 1 rfl) (by decide)
    | [a] =>
      obtain ⟨raw, rfl⟩ := conforms_string.1 (hitems 0 _ a rfl rfl)
      exact .name raw
    | [a, b] =>
      obtain ⟨raw, rfl⟩ := conforms_string.1 (hitems 0 _ a rfl rfl)
      obtain ⟨message, rfl⟩ := conforms_string.1 (hitems 1 _ b rfl rfl)
      exact .message raw message
    | a :: b :: c :: vs =>
      have htwo := hshort 2 rfl
      simp only [List.length_cons] at htwo
      omega
  · have hstring : ∀ {vs : List Json}, (∀ w ∈ vs, ∃ s, w = .str s) → ∀ (i : Nat) s w,
        [Schema.mk (some .string) none none .any, .mk (some .string) none none .any][i]? = some s → vs[i]? = some w →
        Conforms s w := by
      intro vs hvs i s w hs hw
      obtain rfl : s = .mk (some .string) none none .any := by simpa using List.mem_of_getElem? hs
      exact conforms_string.2 (hvs w (List.mem_of_getElem? hw))
    rintro (raw | ⟨raw, message⟩)
    · exact conforms_arr.2 ⟨by rintro _ ⟨⟩; exact .array _, by simp, by simp, hstring (by simp)⟩
    · exact conforms_arr.2 ⟨by rintro _ ⟨⟩; exact .array _, by simp, by simp, hstring (by simp)⟩

theorem validate_eq_ok_iff (rule : Text) (options : List Json) :
    validate rule BanTypes.info.schema (.arr options) = .ok () ↔ ∀ v ∈ options, IsEntry v := by
  rw [validate_eq_ok_iff_conforms rfl]
  simp only [← conforms_entry]
  constructor
  · intro h v hv
    obtain ⟨i, hi⟩ := List.mem_iff_getElem?.1 hv
    exact (conforms_arr.1 h).2.2.2 i _ v rfl hi
  · intro h
    refine conforms_arr.2 ⟨by rintro _ ⟨⟩; exact .array _, by simp, by simp, ?_⟩
    rintro i _ w ⟨⟩ hw
    exact h w (List.mem_of_getElem? hw)

/-- What is wrong with a value itself can be told, if it is too few or too many items for a short number. -/
theorem isTold_of_fails {type : Option ValueType} {least most : Option Int} {items : Items} {v : Json} {f : Schema.Fault}
    (hleast : ∀ l ∈ least, (Text.ofInt? l).isSome = true) (hmost : ∀ m ∈ most, (Text.ofInt? m).isSome = true)
    (h : Fails (.mk type least most items) v f) : f.isTold = true := by
  cases h with
  | wrongType => rfl
  | tooFew => exact hleast _ rfl
  | tooMany => exact hmost _ rfl

/-- What is wrong with options can be told. -/
theorem isTold_of_faultAt {v : Json} {path : List Nat} {f : Schema.Fault} (h : FaultAt BanTypes.info.schema v path f) :
    f.isTold = true := by
  have hinside : ∀ {s : Schema} {v : Json} {i : Nat} {path : List Nat}, FaultAt s v (i :: path) f →
      ∃ vs, v = .arr vs := fun hf => by
    by_contra hv
    exact not_faultAt_cons (not_exists.1 hv) _ _ _ hf
  match path with
  | [] => exact isTold_of_fails (by simp) (by simp) (faultAt_nil.1 h)
  | i :: path =>
    obtain ⟨options, rfl⟩ := hinside h
    obtain ⟨entrySchema, entry, ⟨⟩, -, h⟩ := faultAt_cons.1 h
    match path with
    | [] => exact isTold_of_fails (by simp; decide) (by simp; decide) (faultAt_nil.1 h)
    | j :: path =>
      obtain ⟨parts, rfl⟩ := hinside h
      obtain ⟨partSchema, part, hschema, -, h⟩ := faultAt_cons.1 h
      obtain rfl : partSchema = .mk (some .string) none none .any := by simpa using List.mem_of_getElem? hschema
      match path with
      | [] => exact isTold_of_fails (by simp) (by simp) (faultAt_nil.1 h)
      | k :: path =>
        obtain ⟨items, rfl⟩ := hinside h
        obtain ⟨_, _, ⟨⟩, -, -⟩ := faultAt_cons.1 h

theorem message?_of_validate {rule : Text} {v : Json} {e : OptionsError}
    (h : validate rule BanTypes.info.schema v = .error e) : e.message? = some e.message := by
  have hfinds := finds_check BanTypes.info.schema [] v rfl
  cases hcheck : check [] v BanTypes.info.schema with
  | ok u => simp [validate, hcheck] at h
  | error violation =>
    rw [hcheck] at hfinds
    obtain ⟨path, -, hfault, -⟩ := hfinds
    obtain rfl : ⟨rule, violation⟩ = e := by simpa [validate, hcheck] using h
    rw [OptionsError.message?, if_pos (isTold_of_faultAt hfault)]

/-- What fits the schema is what has a pattern and a message, unless the message is `null`. -/
theorem isEntry_iff_entryOf {entry : Json} :
    IsEntry entry ↔ (∃ raw message, EntryOf entry raw message) ∧ ∀ name, entry ≠ .arr [name, .null] := by
  constructor
  · rintro (raw | ⟨raw, message⟩)
    · exact ⟨⟨raw, [], .name raw⟩, by simp⟩
    · exact ⟨⟨raw, message, .message raw message⟩, by simp⟩
  · rintro ⟨⟨raw, message, hentry⟩, hnull⟩
    cases hentry with
    | name => exact .name raw
    | null => exact absurd rfl (hnull _)
    | message => exact .message raw message

/-- The message of an error of a pattern goes on with a colon behind the position of the entry. -/
theorem message?_of_pattern {e : BanError} {raw : Text} {error : Error} (h : e.fault = .pattern raw error) (i : Nat)
    (t : Text) : e.message? ≠ some (text "ban entry " ++ .ofNat i ++ CodePoint.ofChar ' ' :: t) := by
  intro hmessage
  simp only [BanError.message?, h, Option.map_eq_some_iff] at hmessage
  obtain ⟨reason, -, hmessage⟩ := hmessage
  simp only [List.append_assoc] at hmessage
  obtain ⟨-, hcolon, -⟩ := ofNat_append_cons_inj (by decide) (by decide) (List.append_cancel_left hmessage)
  exact absurd hcolon (by decide)

/-- Options fit the schema exactly if each entry passes the checks of its shape and has no message that is `null`.  Then
only a pattern can be at fault, that of the entry which the error is about. -/
theorem validate_shapes (rule : Text) (options : List Json) :
    (∀ entry, (∃ raw message, EntryOf entry raw message) ↔
      ∀ e, compile [entry] = .error e → e.fault ≠ .shape ∧ e.fault ≠ .notText) ∧
    (validate rule BanTypes.info.schema (.arr options) = .ok () ↔ ∀ entry ∈ options,
      (∀ e, compile [entry] = .error e → e.fault ≠ .shape ∧ e.fault ≠ .notText) ∧
        ∀ name, entry ≠ .arr [name, .null]) ∧
    (validate rule BanTypes.info.schema (.arr options) = .ok () → ∀ e, compile options = .error e →
      (∃ entry raw message error, options[e.index]? = some entry ∧ EntryOf entry raw message ∧
        parse (text "^" ++ raw ++ text "$") = .error error ∧ e.fault = .pattern raw error) ∧
      ∀ i, e.message? ≠ some (text "ban entry " ++ .ofNat i ++ text " must be [name] or [name, message]") ∧
        e.message? ≠ some (text "ban entry " ++ .ofNat i ++ text " must contain strings")) := by
  have hshape : ∀ entry, (∃ raw message, EntryOf entry raw message) ↔
      ∀ e, compile [entry] = .error e → e.fault ≠ .shape ∧ e.fault ≠ .notText := by
    intro entry
    simp only [exists_entryOf_iff, compile_one_eq_error_iff]
    constructor
    · rintro ⟨hshape, htext⟩ e ⟨hfault, -⟩
      exact ⟨fun h => hshape (h ▸ hfault), fun h => htext (h ▸ hfault)⟩
    · intro h
      exact ⟨fun hfault => (h ⟨0, .shape⟩ ⟨hfault, rfl⟩).1 rfl, fun hfault => (h ⟨0, .notText⟩ ⟨hfault, rfl⟩).2 rfl⟩
  refine ⟨hshape, ?_, fun hvalid e he => ?_⟩
  · simp only [validate_eq_ok_iff, isEntry_iff_entryOf, hshape]
  · obtain ⟨before, entry, behind, rfl, hindex, -, hfault⟩ := compileFrom_eq_error_iff.1 he
    have hentry := (isEntry_iff_entryOf.1 ((validate_eq_ok_iff rule _).1 hvalid entry (by simp))).1
    obtain ⟨raw, message, hentry⟩ := hentry
    obtain ⟨error, hparse, hpattern⟩ := Ban.ofPattern_eq_error_iff.1 (hentry.ofEntry ▸ hfault)
    refine ⟨⟨entry, raw, message, error, ?_, hentry, hparse, hpattern⟩, fun i => ?_⟩
    · simp [hindex]
    · exact ⟨message?_of_pattern hpattern i _, message?_of_pattern hpattern i _⟩

/-- Options of the right shape with a pattern that cannot be read; with a message that is `null` they do not fit. -/
theorem validate_shapes_parenthesis :
    validate BanTypes.id BanTypes.info.schema (.arr [.arr [.str (text "Foo(")]]) = .ok () ∧
    (∃ e, compile [.arr [.str (text "Foo(")]] = .error e ∧
      ∃ entry raw message error, [Json.arr [.str (text "Foo(")]][e.index]? = some entry ∧ EntryOf entry raw message ∧
        parse (text "^" ++ raw ++ text "$") = .error error ∧ e.fault = .pattern raw error) ∧
    validate BanTypes.id BanTypes.info.schema (.arr [.arr [.str (text "Foo"), .null]]) ≠ .ok () := by
  have hvalid : validate BanTypes.id BanTypes.info.schema (.arr [.arr [.str (text "Foo(")]]) = .ok () := rfl
  obtain ⟨e, he⟩ : ∃ e, compile [.arr [.str (text "Foo(")]] = .error e := ⟨_, rfl⟩
  refine ⟨hvalid, ⟨e, he, ((validate_shapes BanTypes.id _).2.2 hvalid e he).1⟩, fun hnull => ?_⟩
  exact ((validate_shapes BanTypes.id _).2.1.1 hnull _ List.mem_cons_self).2 _ rfl

end TypeLint.Rule
