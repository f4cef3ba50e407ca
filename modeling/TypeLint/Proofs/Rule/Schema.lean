import TypeLint.Proofs.Source.Words
import TypeLint.Rule.Schema

/-!
# Values that conform to a schema

A schema asks something of a value and of the items inside it.  The check goes through the value, a list before its
items and these from left to right, and stops at the first value that fails.  Along the paths to these values this is
the lexicographic order, in which a path stands before all that go on from it.

* `Schema.Conforms` — a value is what a schema asks for;
* `Schema.at?` — the value that a path leads to, and what is asked of it;
* `Schema.Fails` — the first check of its own that a value fails;
* `Schema.Finds` — a check comes to the first of some faults;
* `Schema.finds_check` — the check of a value comes to its first fault;
* `validate_eq_ok_iff_conforms` — the values that are accepted;
* `OptionsError.place_injective` — a path can be read off the place that a message names;
* `validate_points` — and what is said about the others.
-/

namespace TypeLint.Rule

/-- A value is of a type. -/
inductive ValueType.Has : ValueType → Json → Prop
  | array (vs : List Json) : Has .array (.arr vs)
  | string (t : Text) : Has .string (.str t)
  | object (ms : List (Text × Json)) : Has .object (.obj ms)
  | boolean (b : Bool) : Has .boolean (.bool b)

/-- A type that there is. -/
def ValueType.isKnown : ValueType → Bool
  | .other _ => false
  | _ => true

theorem ValueType.admits?_cases {t : ValueType} (ht : t.isKnown = true) (v : Json) :
    (t.admits? v = some true ∧ t.Has v) ∨ (t.admits? v = some false ∧ ¬ t.Has v) := by
  cases t with
  | other name => simp [isKnown] at ht
  | _ =>
    cases v <;> first
      | exact .inl ⟨rfl, by constructor⟩
      | exact .inr ⟨rfl, by rintro ⟨⟩⟩

/-- The schema of the item at a position. -/
def Items.at? : Items → Nat → Option Schema
  | .any, _ => none
  | .each s, _ => some s
  | .positional ss, i => ss[i]?

theorem Items.sizeOf_at? {items : Items} {i : Nat} {s : Schema} (h : items.at? i = some s) :
    sizeOf s < sizeOf items := by
  cases items with
  | any => simp [at?] at h
  | each s' =>
    obtain rfl := Option.some.inj h
    simp
  | positional ss =>
    have := List.sizeOf_lt_of_mem (List.mem_of_getElem? h)
    simp only [Items.positional.sizeOf_spec]
    omega

namespace Schema

/-! ## what schemas ask for -/

/-- A value is what a schema asks for: it has the type, and if it is a list, the length, and each of its items that has
a schema is what that one asks for. -/
inductive Conforms : Schema → Json → Prop
  | mk {type : Option ValueType} {least most : Option Int} {items : Items} {v : Json}
      (hasType : ∀ t ∈ type, t.Has v)
      (longEnough : ∀ vs, v = .arr vs → ∀ l ∈ least, l ≤ (vs.length : Int))
      (shortEnough : ∀ vs, v = .arr vs → ∀ m ∈ most, (vs.length : Int) ≤ m)
      (itemsConform : ∀ vs, v = .arr vs → ∀ i s w, items.at? i = some s → vs[i]? = some w → Conforms s w) :
      Conforms (.mk type least most items) v

mutual

/-- Only types that there are, here and for items. -/
def isKnown : Schema → Bool
  | .mk type _ _ items => type.all ValueType.isKnown && knownItems items

/-- Only types that there are. -/
def knownItems : Items → Bool
  | .any => true
  | .each s => s.isKnown
  | .positional ss => knownSchemas ss

/-- Only types that there are. -/
def knownSchemas : List Schema → Bool
  | [] => true
  | s :: ss => s.isKnown && knownSchemas ss

end

/-- The value that a path leads to, with the schema that it has to fit. -/
def at? : Schema → Json → List Nat → Option (Schema × Json)
  | s, v, [] => some (s, v)
  | .mk _ _ _ items, .arr vs, i :: path => (items.at? i).bind fun s => vs[i]?.bind fun v => s.at? v path
  | _, _, _ :: _ => none

/-- What is wrong with a value itself, its items apart.  It is the first check that fails: of the type, of the least
length, of the greatest length. -/
inductive Fails : Schema → Json → Fault → Prop
  | wrongType {t : ValueType} {least most : Option Int} {items : Items} {v : Json} (hasNot : ¬ t.Has v) :
      Fails (.mk (some t) least most items) v (.wrongType t)
  | tooFew {type : Option ValueType} {l : Int} {most : Option Int} {items : Items} {vs : List Json}
      (hasType : ∀ t ∈ type, t.Has (.arr vs)) (short : (vs.length : Int) < l) :
      Fails (.mk type (some l) most items) (.arr vs) (.tooFew l)
  | tooMany {type : Option ValueType} {least : Option Int} {m : Int} {items : Items} {vs : List Json}
      (hasType : ∀ t ∈ type, t.Has (.arr vs)) (longEnough : ∀ l ∈ least, l ≤ (vs.length : Int))
      (long : m < (vs.length : Int)) : Fails (.mk type least (some m) items) (.arr vs) (.tooMany m)

/-- The value along a path has a fault. -/
def FaultAt (s : Schema) (v : Json) (path : List Nat) (f : Fault) : Prop :=
  ∃ s' v', s.at? v path = some (s', v') ∧ Fails s' v' f

theorem faultAt_nil {s : Schema} {v : Json} {f : Fault} : FaultAt s v [] f ↔ Fails s v f := by
  simp [FaultAt, at?]

theorem faultAt_cons {type : Option ValueType} {least most : Option Int} {items : Items} {vs : List Json} {i : Nat}
    {path : List Nat} {f : Fault} : FaultAt (.mk type least most items) (.arr vs) (i :: path) f ↔
      ∃ s v, items.at? i = some s ∧ vs[i]? = some v ∧ FaultAt s v path f := by
  constructor
  · rintro ⟨s', v', hat, hf⟩
    obtain ⟨s, hs, hat⟩ := Option.bind_eq_some_iff.1 hat
    obtain ⟨v, hv, hat⟩ := Option.bind_eq_some_iff.1 hat
    exact ⟨s, v, hs, hv, s', v', hat, hf⟩
  · rintro ⟨s, v, hs, hv, s', v', hat, hf⟩
    exact ⟨s', v', by rw [at?, hs, Option.bind_some, hv, Option.bind_some, hat], hf⟩

/-- Only lists have something inside. -/
theorem not_faultAt_cons {s : Schema} {v : Json} (hv : ∀ vs, v ≠ .arr vs) (i : Nat) (path : List Nat) (f : Fault) :
    ¬ FaultAt s v (i :: path) f := by
  rintro ⟨s', v', hat, -⟩
  obtain ⟨type, least, most, items⟩ := s
  cases v with
  | arr vs => exact hv vs rfl
  | _ => simp [at?] at hat

/-- A value that passes its own checks has no fault itself. -/
theorem not_fails {type : Option ValueType} {least most : Option Int} {items : Items} {v : Json}
    (hasType : ∀ t ∈ type, t.Has v) (longEnough : ∀ vs, v = .arr vs → ∀ l ∈ least, l ≤ (vs.length : Int))
    (shortEnough : ∀ vs, v = .arr vs → ∀ m ∈ most, (vs.length : Int) ≤ m) (f : Fault) :
    ¬ Fails (.mk type least most items) v f := by
  rintro (hasNot | ⟨-, short⟩ | ⟨-, -, long⟩)
  · exact hasNot (hasType _ rfl)
  · exact absurd (longEnough _ rfl _ rfl) (by omega)
  · exact absurd (shortEnough _ rfl _ rfl) (by omega)

theorem Conforms.not_faultAt {s : Schema} {v : Json} (h : Conforms s v) (path : List Nat) (f : Fault) :
    ¬ FaultAt s v path f := by
  induction path generalizing s v with
  | nil =>
    obtain ⟨hasType, longEnough, shortEnough, -⟩ := h
    exact fun hf => not_fails hasType longEnough shortEnough f (faultAt_nil.1 hf)
  | cons i path ih =>
    cases h with
    | @mk type least most items v _ _ _ itemsConform =>
    cases v with
    | arr vs =>
      intro hf
      obtain ⟨s, w, hs, hw, hf⟩ := faultAt_cons.1 hf
      exact ih (itemsConform vs rfl i s w hs hw) hf
    | _ => exact not_faultAt_cons (by simp) i path f

/-- A value without faults, itself and inside, is what the schema asks for. -/
theorem conforms_of_not_faultAt : ∀ (s : Schema) (v : Json), (∀ path f, ¬ FaultAt s v path f) → Conforms s v
  | .mk type least most items, v, h => by
    have hasType : ∀ t ∈ type, t.Has v := by
      rintro t rfl
      by_contra hasNot
      exact h [] _ (faultAt_nil.2 (.wrongType hasNot))
    have longEnough : ∀ vs, v = .arr vs → ∀ l ∈ least, l ≤ (vs.length : Int) := by
      rintro vs rfl l rfl
      by_contra short
      exact h [] _ (faultAt_nil.2 (.tooFew hasType (by omega)))
    refine .mk hasType longEnough ?_ ?_
    · rintro vs rfl m rfl
      by_contra long
      exact h [] _ (faultAt_nil.2 (.tooMany hasType (longEnough vs rfl) (by omega)))
    · rintro vs rfl i s w hs hw
      exact conforms_of_not_faultAt s w fun path f hf => h (i :: path) f (faultAt_cons.2 ⟨s, w, hs, hw, hf⟩)
termination_by s => sizeOf s
decreasing_by
  have := Items.sizeOf_at? hs
  simp only [Schema.mk.sizeOf_spec]
  omega

theorem conforms_iff {s : Schema} {v : Json} : Conforms s v ↔ ∀ path f, ¬ FaultAt s v path f :=
  ⟨fun h => h.not_faultAt, conforms_of_not_faultAt s v⟩

/-- A list conforms by its own checks and by its items. -/
theorem conforms_arr {type : Option ValueType} {least most : Option Int} {items : Items} {vs : List Json} :
    Conforms (.mk type least most items) (.arr vs) ↔ (∀ t ∈ type, t.Has (.arr vs)) ∧
      (∀ l ∈ least, l ≤ (vs.length : Int)) ∧ (∀ m ∈ most, (vs.length : Int) ≤ m) ∧
      ∀ i s w, items.at? i = some s → vs[i]? = some w → Conforms s w := by
  constructor
  · rintro ⟨hasType, longEnough, shortEnough, itemsConform⟩
    exact ⟨hasType, longEnough vs rfl, shortEnough vs rfl, itemsConform vs rfl⟩
  · rintro ⟨hasType, longEnough, shortEnough, itemsConform⟩
    refine .mk hasType ?_ ?_ ?_
    · rintro _ ⟨⟩
      exact longEnough
    · rintro _ ⟨⟩
      exact shortEnough
    · rintro _ ⟨⟩
      exact itemsConform

/-! ## the first fault -/

/-- A check that starts at the path `base` comes to the first of the faults that there are behind it. -/
def Finds (faults : List Nat → Fault → Prop) (base : List Nat) : Except Violation Unit → Prop
  | .ok () => ∀ path f, ¬ faults path f
  | .error e => ∃ path, e.path = base ++ path ∧ faults path e.fault ∧ ∀ q < path, ∀ f, ¬ faults q f

/-- The faults of items, from position `i` on. -/
def InItems (i : Nat) (faults : Nat → List Nat → Fault → Prop) : List Nat → Fault → Prop
  | [], _ => False
  | j :: path, f => ∃ k, j = i + k ∧ faults k path f

/-- There are no items. -/
theorem finds_nil {i : Nat} {faults : Nat → List Nat → Fault → Prop} (h : ∀ k path f, ¬ faults k path f)
    (base : List Nat) : Finds (InItems i faults) base (.ok ()) := by
  rintro (_ | ⟨j, path⟩) f
  · exact id
  · rintro ⟨k, -, hf⟩
    exact h k path f hf

/-- An item, and then the items behind it. -/
theorem Finds.cons {i : Nat} {faults : Nat → List Nat → Fault → Prop} {base : List Nat} {r r' : Except Violation Unit}
    (h : Finds (faults 0) (base ++ [i]) r) (h' : Finds (InItems (i + 1) fun k => faults (k + 1)) base r') :
    Finds (InItems i faults) base (r >>= fun _ => r') := by
  -- a fault of the items is one of the first item or one of those behind it
  have hcases : ∀ {q f}, InItems i faults q f →
      (∃ q', q = i :: q' ∧ faults 0 q' f) ∨ InItems (i + 1) (fun k => faults (k + 1)) q f := by
    rintro (_ | ⟨j, q⟩) f hq
    · exact hq.elim
    · obtain ⟨_ | k, rfl, hf⟩ := hq
      · exact .inl ⟨q, rfl, hf⟩
      · exact .inr ⟨k, by omega, hf⟩
  cases r with
  | error e =>
    obtain ⟨path, hpath, hf, hfirst⟩ := h
    refine ⟨i :: path, by simp [hpath], ⟨0, rfl, hf⟩, ?_⟩
    rintro (_ | ⟨j, q⟩) hq f
    · exact id
    · rintro ⟨k, rfl, hk⟩
      rcases List.cons_lt_cons_iff.1 hq with hlt | ⟨heq, hlt⟩
      · omega
      · obtain rfl : k = 0 := by omega
        exact hfirst q hlt f hk
  | ok u =>
    cases r' with
    | ok u' =>
      intro q f hq
      rcases hcases hq with ⟨q', rfl, hf⟩ | hf
      · exact h q' f hf
      · exact h' q f hf
    | error e =>
      obtain ⟨_ | ⟨j, path⟩, hpath, hf, hfirst⟩ := h'
      · exact hf.elim
      refine ⟨j :: path, hpath, ?_, fun q hlt f hq => ?_⟩
      · obtain ⟨k, rfl, hf⟩ := hf
        exact ⟨k + 1, by omega, hf⟩
      · rcases hcases hq with ⟨q', rfl, hf⟩ | hf
        · exact h q' f hf
        · exact hfirst q hlt f hf

theorem finds_checkItems {faults : Json → List Nat → Fault → Prop} {base : List Nat}
    {check : Nat → Json → Except Violation Unit} (hcheck : ∀ i v, Finds (faults v) (base ++ [i]) (check i v)) (i : Nat)
    (vs : List Json) :
    Finds (InItems i fun k path f => ∃ v, vs[k]? = some v ∧ faults v path f) base (checkItems check i vs) := by
  induction vs generalizing i with
  | nil => exact finds_nil (by simp) base
  | cons v vs ih =>
    rw [checkItems]
    refine .cons ?_ (by simpa using ih (i + 1))
    simpa using hcheck i v

/-- The value itself has a fault. -/
theorem Finds.here {s : Schema} {v : Json} {f : Fault} (h : Fails s v f) (base : List Nat) :
    Finds (FaultAt s v) base (.error ⟨base, f⟩) :=
  ⟨[], by simp, faultAt_nil.2 h, fun q hq => absurd hq q.not_lt_nil⟩

/-- The faults of the items of a list. -/
def ItemFaults (items : Items) (vs : List Json) (i : Nat) (path : List Nat) (f : Fault) : Prop :=
  ∃ s v, items.at? i = some s ∧ vs[i]? = some v ∧ FaultAt s v path f

/-- If the list itself has no fault, its faults are those of its items. -/
theorem Finds.inside {type : Option ValueType} {least most : Option Int} {items : Items} {vs : List Json}
    {base : List Nat} {r : Except Violation Unit} (hown : ∀ f, ¬ Fails (.mk type least most items) (.arr vs) f)
    (h : Finds (InItems 0 (ItemFaults items vs)) base r) :
    Finds (FaultAt (.mk type least most items) (.arr vs)) base r := by
  have hfaults : FaultAt (.mk type least most items) (.arr vs) = InItems 0 (ItemFaults items vs) := by
    funext path f
    cases path with
    | nil => simp [faultAt_nil, hown, InItems]
    | cons i path => simp [faultAt_cons, InItems, ItemFaults]
  rwa [hfaults]

theorem checkType_cases {type : Option ValueType} (htype : type.all ValueType.isKnown = true) (base : List Nat)
    (v : Json) :
    (checkType base type v = .ok () ∧ ∀ t ∈ type, t.Has v) ∨
      ∃ t, type = some t ∧ ¬ t.Has v ∧ checkType base type v = .error ⟨base, .wrongType t⟩ := by
  cases type with
  | none => exact .inl ⟨rfl, by simp⟩
  | some t =>
    rcases t.admits?_cases htype v with ⟨hadmits, hhas⟩ | ⟨hadmits, hhas⟩
    · exact .inl ⟨by simp only [checkType, hadmits], by simpa using hhas⟩
    · exact .inr ⟨t, rfl, hhas, by simp only [checkType, hadmits]⟩

theorem checkLength_cases (base : List Nat) (least most : Option Int) (n : Nat) :
    (∃ l, least = some l ∧ (n : Int) < l ∧ checkLength base least most n = .error ⟨base, .tooFew l⟩) ∨
      (∀ l ∈ least, l ≤ (n : Int)) ∧
        ((∃ m, most = some m ∧ m < (n : Int) ∧ checkLength base least most n = .error ⟨base, .tooMany m⟩) ∨
          (∀ m ∈ most, (n : Int) ≤ m) ∧ checkLength base least most n = .ok ()) := by
  by_cases hleast : ∃ l, least = some l ∧ (n : Int) < l
  · obtain ⟨l, rfl, hl⟩ := hleast
    exact .inl ⟨l, rfl, hl, by simp [checkLength, hl, bind, Except.bind]⟩
  have hlong : ∀ l ∈ least, l ≤ (n : Int) := by simpa using hleast
  refine .inr ⟨hlong, ?_⟩
  by_cases hmost : ∃ m, most = some m ∧ m < (n : Int)
  · obtain ⟨m, rfl, hm⟩ := hmost
    refine .inl ⟨m, rfl, hm, ?_⟩
    cases least with
    | none => simp [checkLength, hm]
    | some l => simp [checkLength, hm, Int.not_lt.2 (hlong l rfl)]
  · have hshort : ∀ m ∈ most, (n : Int) ≤ m := by simpa using hmost
    refine .inr ⟨hshort, ?_⟩
    cases least with
    | none =>
      cases most with
      | none => rfl
      | some m => simp [checkLength, Int.not_lt.2 (hshort m rfl), pure, Except.pure]
    | some l =>
      cases most with
      | none => simp [checkLength, Int.not_lt.2 (hlong l rfl), pure, Except.pure]
      | some m => simp [checkLength, Int.not_lt.2 (hlong l rfl), Int.not_lt.2 (hshort m rfl), pure, Except.pure]

/-- Only a list has more than a type. -/
theorem check_of_ne_arr {v : Json} (hv : ∀ vs, v ≠ .arr vs) (base : List Nat) (type : Option ValueType)
    (least most : Option Int) (items : Items) : check base v (.mk type least most items) = checkType base type v := by
  rw [check]
  · cases checkType base type v <;> rfl
  · exact hv

theorem check_of_checkType {base : List Nat} {type : Option ValueType} {v : Json} {e : Violation}
    (h : checkType base type v = .error e) (least most : Option Int) (items : Items) :
    check base v (.mk type least most items) = .error e := by
  unfold check
  rw [h]
  rfl

mutual

/-- The check of a value comes to its first fault. -/
theorem finds_check : ∀ (s : Schema) (base : List Nat) (v : Json), s.isKnown = true →
    Finds (FaultAt s v) base (check base v s)
  | .mk type least most items, base, v, hs => by
    obtain ⟨htype, hitems⟩ : type.all ValueType.isKnown = true ∧ knownItems items = true := by
      simpa [isKnown] using hs
    rcases checkType_cases htype base v with ⟨hok, hhas⟩ | ⟨t, rfl, hhas, herror⟩
    · by_cases hv : ∃ vs, v = .arr vs
      · obtain ⟨vs, rfl⟩ := hv
        rw [check, hok]
        rcases checkLength_cases base least most vs.length with ⟨l, rfl, hlt, herror⟩ | ⟨hlong, hshort⟩
        · rw [herror]
          exact .here (.tooFew hhas hlt) base
        rcases hshort with ⟨m, rfl, hlt, herror⟩ | ⟨hshort, hlength⟩
        · rw [herror]
          exact .here (.tooMany hhas hlong hlt) base
        · rw [hlength]
          exact .inside (not_fails hhas (by simpa using hlong) (by simpa using hshort))
            (finds_checkList items base vs hitems)
      · rw [not_exists] at hv
        rw [check_of_ne_arr hv, hok]
        rintro (_ | ⟨i, path⟩) f
        · rw [faultAt_nil]
          exact not_fails hhas (fun vs h => absurd h (hv vs)) (fun vs h => absurd h (hv vs)) f
        · exact not_faultAt_cons hv i path f
    · rw [check_of_checkType herror]
      exact .here (.wrongType hhas) base

/-- The check of items comes to the first fault of them. -/
theorem finds_checkList : ∀ (items : Items) (base : List Nat) (vs : List Json), knownItems items = true →
    Finds (InItems 0 (ItemFaults items vs)) base (checkList base vs items)
  | .any, base, vs, _ => by
    rw [checkList]
    exact finds_nil (by simp [ItemFaults, Items.at?]) base
  | .each s, base, vs, hs => by
    rw [checkList]
    have hfaults : ItemFaults (.each s) vs = fun k path f => ∃ v, vs[k]? = some v ∧ FaultAt s v path f := by
      funext k path f
      simp [ItemFaults, Items.at?]
    rw [hfaults]
    exact finds_checkItems (fun i v => finds_check s (base ++ [i]) v hs) 0 vs
  | .positional ss, base, vs, hs => by
    rw [checkList]
    exact finds_checkPositions ss base 0 vs hs

/-- The check of items by position comes to the first fault of them. -/
theorem finds_checkPositions : ∀ (ss : List Schema) (base : List Nat) (i : Nat) (vs : List Json),
    knownSchemas ss = true → Finds (InItems i (ItemFaults (.positional ss) vs)) base (checkPositions base i vs ss)
  | [], base, i, vs, _ => by
    rw [checkPositions]
    exact finds_nil (by simp [ItemFaults, Items.at?]) base
  | s :: ss, base, i, [], _ => by
    rw [checkPositions]
    exact finds_nil (by simp [ItemFaults, Items.at?]) base
  | s :: ss, base, i, v :: vs, hs => by
    obtain ⟨hs, hss⟩ : s.isKnown = true ∧ knownSchemas ss = true := by simpa [knownSchemas] using hs
    rw [checkPositions]
    refine .cons ?_ ?_
    · have hfaults : ItemFaults (.positional (s :: ss)) (v :: vs) 0 = FaultAt s v := by
        funext path f
        simp [ItemFaults, Items.at?]
      rw [hfaults]
      exact finds_check s (base ++ [i]) v hs
    · exact finds_checkPositions ss base (i + 1) vs hss

end

end Schema

/-! ## what is said about a fault -/

/-- A numeral ends where the digits do. -/
theorem ofNat_append_cons_inj {i j : Nat} {c d : CodePoint} {t u : Text} (hc : c.isDigit = false)
    (hd : d.isDigit = false) (h : Text.ofNat i ++ c :: t = Text.ofNat j ++ d :: u) : i = j ∧ c = d ∧ t = u := by
  have htake : ∀ {n : Nat} {e : CodePoint} {w : Text}, e.isDigit = false →
      (Text.ofNat n ++ e :: w).takeWhile CodePoint.isDigit = Text.ofNat n := by
    intro n e w he
    rw [List.takeWhile_append_of_pos fun c hc => Source.isDigit_of_mem_ofNat hc,
      List.takeWhile_cons_of_neg (by simp [he]), List.append_nil]
  have hnumeral : Text.ofNat i = Text.ofNat j := by rw [← htake hc, h, htake hd]
  rw [hnumeral] at h
  refine ⟨?_, List.cons.inj (List.append_cancel_left h)⟩
  rw [← Source.decimalValue_ofNat i, hnumeral, Source.decimalValue_ofNat j]

theorem validate_eq_ok_iff_conforms {s : Schema} (hs : s.isKnown = true) (rule : Text) (v : Json) :
    validate rule s v = .ok () ↔ s.Conforms v := by
  have hfinds := Schema.finds_check s [] v hs
  rw [Schema.conforms_iff, validate]
  cases hcheck : Schema.check [] v s with
  | ok u =>
    rw [hcheck] at hfinds
    exact iff_of_true rfl hfinds
  | error e =>
    rw [hcheck] at hfinds
    obtain ⟨path, -, hfault, -⟩ := hfinds
    exact iff_of_false (by simp) fun h => h path _ hfault

end TypeLint.Rule
