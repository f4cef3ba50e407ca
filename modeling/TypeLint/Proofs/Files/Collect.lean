import TypeLint.Files.Tree
import TypeLint.Proofs.Report.Order

/-!
# Collected files

A target names a file, or a directory with files below it, and more than one target can lead to the same file.  Of each
file the first path to it is kept, and the paths are sorted name by name.

* `Path.keyLe_iff` — paths are in the order of their names, and names in that of their code points;
* `Entry.WellFormed` — what a file system can hold, and `Entry.WellFormed.mem_filesIn_iff` the files below a directory;
* `FileTree.find_eq_ok_iff`, `FileTree.find_below` — what a path leads to, and what it leads on to;
* `FileTree.Reaches` — the files that a target stands for, and `FileTree.mem_candidates` that these are its candidates;
* `FileTree.mem_map_firstPaths`, `FileTree.first_of_mem_firstPaths` — the first path to each place;
* `FileTree.collect_files` — which files are collected, by which paths, and in which order.
-/

namespace TypeLint

/-! ## the order of paths -/

/-- One text comes before another: at the first difference it ends or has the smaller code point. -/
def Text.Precedes (s t : Text) : Prop := List.Lex (fun a b : CodePoint => a.val < b.val) s t

theorem Text.le_iff {s t : Text} : s.le t = true ↔ s = t ∨ s.Precedes t := by
  induction s generalizing t with
  | nil =>
    cases t with
    | nil => simp [Text.le]
    | cons b t => exact iff_of_true rfl (.inr .nil)
  | cons a s ih =>
    cases t with
    | nil =>
      have hnot : ¬ Text.Precedes (a :: s) [] := by
        intro h
        cases h
      simp [Text.le, hnot]
    | cons b t =>
      simp only [Text.le, Bool.or_eq_true, Bool.and_eq_true, decide_eq_true_eq, ih]
      constructor
      · rintro (hlt | ⟨rfl, rfl | hst⟩)
        · exact .inr (.rel hlt)
        · exact .inl rfl
        · exact .inr (.cons hst)
      · rintro (heq | hst)
        · obtain ⟨rfl, rfl⟩ := List.cons.inj heq
          exact .inr ⟨rfl, .inl rfl⟩
        · cases hst with
          | rel hlt => exact .inl hlt
          | cons hst => exact .inr ⟨rfl, .inr hst⟩

namespace Files

namespace Path

/-- One path comes before another: at the first difference it ends or has the smaller name. -/
def Precedes (p q : Path) : Prop := List.Lex Text.Precedes p.key q.key

theorem keyLe_iff {s t : List Text} : keyLe s t = true ↔ s = t ∨ List.Lex Text.Precedes s t := by
  induction s generalizing t with
  | nil =>
    cases t with
    | nil => simp [keyLe]
    | cons b t => exact iff_of_true rfl (.inr .nil)
  | cons a s ih =>
    cases t with
    | nil =>
      have hnot : ¬ List.Lex Text.Precedes (a :: s) [] := by
        intro h
        cases h
      simp [keyLe, hnot]
    | cons b t =>
      rw [keyLe]
      by_cases hab : a = b
      · subst hab
        rw [if_pos rfl, ih]
        constructor
        · rintro (rfl | hst)
          · exact .inl rfl
          · exact .inr (.cons hst)
        · rintro (heq | hst)
          · exact .inl (List.cons.inj heq).2
          · cases hst with
            | rel hlt => exact absurd hlt (List.lex_irrefl (fun c : CodePoint => Nat.lt_irrefl c.val) a)
            | cons hst => exact .inr hst
      · rw [if_neg hab, Text.le_iff]
        constructor
        · rintro (heq | hlt)
          · exact absurd heq hab
          · exact .inr (.rel hlt)
        · rintro (heq | hst)
          · exact absurd (List.cons.inj heq).1 hab
          · cases hst with
            | rel hlt => exact .inr hlt
            | cons hst => exact absurd rfl hab

theorem keyLe_trans {s t u : List Text} (h : keyLe s t = true) (h' : keyLe t u = true) : keyLe s u = true := by
  induction s generalizing t u with
  | nil => rfl
  | cons a s ih =>
    cases t with
    | nil => simp [keyLe] at h
    | cons b t =>
      cases u with
      | nil => simp [keyLe] at h'
      | cons c u =>
        simp only [keyLe] at h h' ⊢
        by_cases hab : a = b
        · subst hab
          by_cases hac : a = c
          · simp only [hac, if_true] at h h' ⊢
            exact ih h h'
          · simpa [hac] using h'
        · simp only [hab, if_false] at h
          by_cases hbc : b = c
          · subst hbc
            simpa [hab] using h
          · simp only [hbc, if_false] at h'
            have hac : a ≠ c := by
              rintro rfl
              exact hab (Text.le_antisymm h h')
            simpa [hac] using Text.le_trans h h'

theorem keyLe_total (s t : List Text) : keyLe s t = true ∨ keyLe t s = true := by
  induction s generalizing t with
  | nil => exact .inl rfl
  | cons a s ih =>
    cases t with
    | nil => exact .inr rfl
    | cons b t =>
      by_cases hab : a = b
      · simpa [keyLe, hab] using ih t
      · simpa [keyLe, hab, Ne.symm hab] using Text.le_total a b

end Path

/-! ## file trees -/

namespace Entry

/-- A name that something in a directory can have: a single one, and not that of the directory above. -/
def IsName (name : Text) : Prop :=
  name ≠ Path.up ∧ FileTree.isInvalid name = false ∧ CodePoint.ofChar '/' ∉ name

instance : DecidablePred IsName := fun _ => inferInstanceAs (Decidable (_ ∧ _ ∧ _))

/-- A file or directory as a file system holds it: what is in a directory has names, and these are different. -/
inductive WellFormed : Entry → Prop
  | file (bytes : List UInt8) : WellFormed (.file bytes)
  | dir {entries : List (Text × Entry)} (distinct : (entries.map Prod.fst).Nodup)
      (named : ∀ entry ∈ entries, IsName entry.1) (below : ∀ entry ∈ entries, entry.2.WellFormed) :
      WellFormed (.dir entries)

theorem at?_append (e : Entry) (xs ys : List Text) : e.at? (xs ++ ys) = (e.at? xs).bind (·.at? ys) := by
  induction xs generalizing e with
  | nil => rfl
  | cons name xs ih => cases h : e.child? name <;> simp [at?, h, ih]

section WellFormed

variable {e e' : Entry} {entries : List (Text × Entry)} {name : Text} {names : List Text}

/-- What a directory holds under a name is the entry of that name. -/
theorem WellFormed.child?_eq_some_iff (h : (Entry.dir entries).WellFormed) :
    (Entry.dir entries).child? name = some e ↔ (name, e) ∈ entries := by
  obtain _ | ⟨distinct, -, -⟩ := h
  simp only [child?]
  induction entries with
  | nil => simp
  | cons entry entries ih =>
    obtain ⟨key, first⟩ := entry
    obtain ⟨hnew, distinct⟩ := List.nodup_cons.1 distinct
    by_cases hkey : key = name
    · subst hkey
      have hrest : (key, e) ∉ entries := fun hmem => hnew (List.mem_map.2 ⟨_, hmem, rfl⟩)
      simp [hrest, eq_comm]
    · simpa [hkey, Ne.symm hkey] using ih distinct

theorem WellFormed.child? (h : e.WellFormed) (hchild : e.child? name = some e') :
    IsName name ∧ e'.WellFormed := by
  cases e with
  | file bytes => simp [Entry.child?] at hchild
  | dir entries =>
    have hmem := h.child?_eq_some_iff.1 hchild
    obtain _ | ⟨-, named, below⟩ := h
    exact ⟨named _ hmem, below _ hmem⟩

theorem child?_of_at?_cons (h : e.at? (name :: names) = some e') :
    ∃ inner, e.child? name = some inner ∧ inner.at? names = some e' := by
  simpa [at?, Option.bind_eq_some_iff] using h

/-- What stands below is in order too, and so are the names that lead to it. -/
theorem WellFormed.at? (h : e.WellFormed) (hat : e.at? names = some e') :
    (∀ name ∈ names, IsName name) ∧ e'.WellFormed := by
  induction names generalizing e with
  | nil =>
    obtain rfl : e = e' := by simpa [Entry.at?] using hat
    exact ⟨by simp, h⟩
  | cons name names ih =>
    obtain ⟨inner, hchild, hat⟩ := child?_of_at?_cons hat
    obtain ⟨hname, hinner⟩ := h.child? hchild
    obtain ⟨hnames, he'⟩ := ih hinner hat
    exact ⟨List.forall_mem_cons.2 ⟨hname, hnames⟩, he'⟩

/-- The first name leads to a file, or to a directory in which the others lead on. -/
theorem mem_filesIn : names ∈ filesIn entries ↔ ∃ entry ∈ entries,
    (∃ bytes, entry.2 = .file bytes ∧ names = [entry.1]) ∨
      ∃ inner rest, entry.2 = .dir inner ∧ rest ∈ filesIn inner ∧ names = entry.1 :: rest := by
  induction entries with
  | nil => simp [filesIn]
  | cons entry entries ih =>
    obtain ⟨name, file | inner⟩ := entry
    · simp [filesIn, ih]
    · simp [filesIn, ih, eq_comm]

/-- The listed names are those that lead to a file. -/
theorem WellFormed.mem_filesIn_iff (h : (Entry.dir entries).WellFormed) :
    names ∈ filesIn entries ↔ ∃ bytes, (Entry.dir entries).at? names = some (.file bytes) := by
  induction names generalizing entries with
  | nil =>
    rw [mem_filesIn]
    simp [Entry.at?]
  | cons name names ih =>
    have hentry : ∀ entry ∈ entries, entry.2.WellFormed := by
      obtain _ | ⟨-, -, below⟩ := h
      exact below
    rw [mem_filesIn]
    constructor
    · rintro ⟨⟨key, e⟩, hmem, ⟨bytes, rfl, hnames⟩ | ⟨inner, rest, rfl, hrest, hnames⟩⟩
      · obtain ⟨rfl, rfl⟩ := List.cons.inj hnames
        exact ⟨bytes, by simp [Entry.at?, h.child?_eq_some_iff.2 hmem]⟩
      · obtain ⟨rfl, rfl⟩ := List.cons.inj hnames
        obtain ⟨bytes, hat⟩ := (ih (hentry _ hmem)).1 hrest
        exact ⟨bytes, by simp [Entry.at?, h.child?_eq_some_iff.2 hmem, hat]⟩
    · rintro ⟨bytes, hat⟩
      obtain ⟨e, hchild, hat⟩ := child?_of_at?_cons hat
      have hmem := h.child?_eq_some_iff.1 hchild
      refine ⟨(name, e), hmem, ?_⟩
      cases e with
      | file bytes' =>
        cases names with
        | nil => exact .inl ⟨bytes', rfl, rfl⟩
        | cons name' names => simp [Entry.at?, Entry.child?] at hat
      | dir inner => exact .inr ⟨inner, names, rfl, (ih (hentry _ hmem)).2 ⟨bytes, hat⟩, rfl⟩

end WellFormed

end Entry

/-! ## what paths lead to -/

namespace Path

/-- The place that a name leads to from another place. -/
def enter (place : List Text) (name : Text) : List Text := if name = up then place.dropLast else place ++ [name]

/-- The place that a path starts at. -/
def start (cwd : List Text) (p : Path) : List Text := if p.root = .relative then cwd else []

theorem resolve_eq (cwd : List Text) (p : Path) : p.resolve cwd = p.names.foldl enter (p.start cwd) := rfl

/-- Further names behind a path. -/
def below (p : Path) (names : List Text) : Path := { p with names := p.names ++ names }

theorem foldl_enter {names : List Text} (h : up ∉ names) (place : List Text) :
    names.foldl enter place = place ++ names := by
  induction names generalizing place with
  | nil => simp
  | cons name names ih =>
    rw [List.mem_cons, not_or] at h
    obtain ⟨hname, h⟩ := h
    rw [List.foldl_cons, ih h, enter, if_neg (Ne.symm hname), List.append_assoc, List.singleton_append]

theorem slash_mem_written {r : Root} (h : r ≠ .relative) : CodePoint.ofChar '/' ∈ Root.written r := by
  cases r with
  | relative => exact absurd rfl h
  | root => decide
  | doubleRoot => decide

/-- The key of a path says where it leads, since no name is written like a root. -/
theorem resolve_eq_of_key_eq {p q : Path} (hp : ∀ name ∈ p.names.head?, CodePoint.ofChar '/' ∉ name)
    (hq : ∀ name ∈ q.names.head?, CodePoint.ofChar '/' ∉ name) (h : p.key = q.key) (cwd : List Text) :
    p.resolve cwd = q.resolve cwd := by
  rw [resolve_eq, resolve_eq, start, start]
  unfold key at h
  by_cases hproot : p.root = .relative
  · by_cases hqroot : q.root = .relative
    · rw [if_pos hproot, if_pos hqroot] at h ⊢
      rw [h]
    · rw [if_pos hproot, if_neg hqroot] at h
      exact absurd (slash_mem_written hqroot) (hp _ (by simp [h]))
  · by_cases hqroot : q.root = .relative
    · rw [if_neg hproot, if_pos hqroot] at h
      exact absurd (slash_mem_written hproot) (hq _ (by simp [← h]))
    · rw [if_neg hproot, if_neg hqroot] at h ⊢
      rw [(List.cons.inj h).2]

theorem resolve_below {names : List Text} (h : up ∉ names) (p : Path) (cwd : List Text) :
    (p.below names).resolve cwd = p.resolve cwd ++ names := by
  have happend : (p.below names).resolve cwd = (p.names ++ names).foldl enter (p.start cwd) := rfl
  rw [happend, List.foldl_append, foldl_enter h, resolve_eq]

theorem suffix_below {names : List Text} (h : names ≠ []) (p : Path) :
    (p.below names).suffix = suffixOf (names.getLastD []) := by
  have hlast := List.getLast?_eq_some_getLast h
  simp [suffix, below, List.getLastD_eq_getLast?, List.getLast?_append, hlast]

end Path

namespace FileTree

variable {t : FileTree} {p target : Path} {e : Entry}

theorem follow_eq_ok_iff {place place' : List Text} {name : Text} : t.follow place name = .ok place' ↔
    (∃ entries, t.root.at? place = some (.dir entries)) ∧ place' = Path.enter place name := by
  unfold follow Path.enter
  rcases t.root.at? place with _ | ⟨_ | entries⟩ <;> simp [eq_comm]

/-- If names lead anywhere, the names alone say where. -/
theorem eq_of_foldlM_follow {names place place' : List Text} (h : names.foldlM t.follow place = .ok place') :
    place' = names.foldl Path.enter place := by
  induction names generalizing place with
  | nil => simpa [pure, Except.pure, eq_comm] using h
  | cons name names ih =>
    rw [List.foldlM_cons] at h
    cases hstep : t.follow place name with
    | error fault => simp [hstep, bind, Except.bind] at h
    | ok next =>
      obtain ⟨-, rfl⟩ := follow_eq_ok_iff.1 hstep
      rw [hstep] at h
      exact ih h

theorem find_eq_ok_iff : t.find p = .ok e ↔ p.names.any isInvalid = false ∧
    (∃ place, p.names.foldlM t.follow (p.start t.cwd) = .ok place) ∧ t.root.at? (p.resolve t.cwd) = some e := by
  unfold find
  rw [← Path.start]
  cases hvalid : p.names.any isInvalid with
  | true => simp [bind, Except.bind]
  | false =>
    cases hplace : p.names.foldlM t.follow (p.start t.cwd) with
    | error fault => simp [bind, Except.bind]
    | ok place =>
      have hresolve : place = p.resolve t.cwd := eq_of_foldlM_follow hplace
      rw [← hresolve]
      cases hat : t.root.at? place <;> simp [bind, Except.bind, pure, Except.pure, hat]

theorem at?_resolve (h : t.find p = .ok e) : t.root.at? (p.resolve t.cwd) = some e := (find_eq_ok_iff.1 h).2.2

/-- Names lead through the directories above a file. -/
theorem foldlM_follow_below {place names : List Text} {bytes : List UInt8} (h : Path.up ∉ names)
    (hat : t.root.at? (place ++ names) = some (.file bytes)) :
    names.foldlM t.follow place = .ok (place ++ names) := by
  induction names generalizing place with
  | nil => simp [pure, Except.pure]
  | cons name names ih =>
    rw [List.mem_cons, not_or] at h
    obtain ⟨hname, h⟩ := h
    have hdir : ∃ entries, t.root.at? place = some (.dir entries) := by
      rw [Entry.at?_append] at hat
      rcases hplace : t.root.at? place with _ | ⟨_ | entries⟩
      · simp [hplace] at hat
      · simp [hplace, Entry.at?, Entry.child?] at hat
      · exact ⟨entries, rfl⟩
    have hstep : t.follow place name = .ok (place ++ [name]) :=
      follow_eq_ok_iff.2 ⟨hdir, by rw [Path.enter, if_neg (Ne.symm hname)]⟩
    have hrest : names.foldlM t.follow (place ++ [name]) = .ok (place ++ [name] ++ names) := by
      apply ih h
      rw [List.append_assoc]
      exact hat
    rw [List.foldlM_cons, hstep]
    simpa [bind, Except.bind] using hrest

/-- The first name of a path that leads anywhere is one that something in a directory has. -/
theorem isName_of_find {name : Text} {rest : List Text} (ht : t.root.WellFormed) (h : t.find p = .ok e)
    (hnames : p.names = name :: rest) (hup : name ≠ Path.up) : Entry.IsName name := by
  obtain ⟨-, ⟨place, hplace⟩, hat⟩ := find_eq_ok_iff.1 h
  have hresolve : place = p.resolve t.cwd := eq_of_foldlM_follow hplace
  rw [hnames, List.foldlM_cons] at hplace
  have hexists : ∃ inner, t.root.at? (Path.enter (p.start t.cwd) name) = some inner := by
    cases hstep : t.follow (p.start t.cwd) name with
    | error fault => simp [hstep, bind, Except.bind] at hplace
    | ok next =>
      obtain ⟨-, rfl⟩ := follow_eq_ok_iff.1 hstep
      rw [hstep] at hplace
      cases rest with
      | nil =>
        obtain rfl : Path.enter (p.start t.cwd) name = place := by simpa [bind, Except.bind, pure, Except.pure] using hplace
        exact ⟨e, hresolve ▸ hat⟩
      | cons second rest =>
        -- the second name is looked up in what the first one leads to
        simp only [bind, Except.bind, List.foldlM_cons] at hplace
        cases hnext : t.follow (Path.enter (p.start t.cwd) name) second with
        | error fault => simp [hnext] at hplace
        | ok place' =>
          obtain ⟨⟨entries, hdir⟩, -⟩ := follow_eq_ok_iff.1 hnext
          exact ⟨_, hdir⟩
  obtain ⟨inner, hinner⟩ := hexists
  rw [Path.enter, if_neg hup] at hinner
  exact (ht.at? hinner).1 name (by simp)

/-- A path that leads to a directory leads on to the files below it. -/
theorem find_below {entries : List (Text × Entry)} {names : List Text} {bytes : List UInt8} (ht : t.root.WellFormed)
    (h : t.find target = .ok (.dir entries)) (hat : (Entry.dir entries).at? names = some (.file bytes)) :
    t.find (target.below names) = .ok (.file bytes) ∧
      (target.below names).resolve t.cwd = target.resolve t.cwd ++ names := by
  obtain ⟨hvalid, ⟨place, hplace⟩, hdir⟩ := find_eq_ok_iff.1 h
  have hresolve : place = target.resolve t.cwd := eq_of_foldlM_follow hplace
  have hnames := ((ht.at? hdir).2.at? hat).1
  have hup : Path.up ∉ names := fun hmem => (hnames _ hmem).1 rfl
  have hfile : t.root.at? (target.resolve t.cwd ++ names) = some (.file bytes) := by
    rw [Entry.at?_append, hdir]
    exact hat
  have hbelow := Path.resolve_below hup target t.cwd
  refine ⟨find_eq_ok_iff.2 ⟨?_, ⟨place ++ names, ?_⟩, ?_⟩, hbelow⟩
  · have hrest : names.any isInvalid = false := by
      rw [List.any_eq_false]
      intro name hmem
      simp [(hnames name hmem).2.1]
    rw [Path.below, List.any_append, hvalid, hrest, Bool.or_false]
  · have hstart : (target.below names).start t.cwd = target.start t.cwd := rfl
    rw [hstart, Path.below, List.foldlM_append, hplace]
    rw [← hresolve] at hfile
    exact foldlM_follow_below hup hfile
  · rw [hbelow]
    exact hfile

/-! ## what targets reach -/

/-- The file that names lead to from a target is one that the target stands for: the target names that file, or a
directory above it, and then the file has one of the suffixes. -/
inductive Reaches (t : FileTree) (suffixes : List Text) (target : Path) : (names : List Text) → Prop
  | named {bytes : List UInt8} (h : t.find target = .ok (.file bytes)) : Reaches t suffixes target []
  | below {entries : List (Text × Entry)} {names : List Text} {bytes : List UInt8}
      (h : t.find target = .ok (.dir entries))
      (file : t.root.at? (target.resolve t.cwd ++ names) = some (.file bytes))
      (suffix : Path.suffixOf (names.getLastD []) ∈ suffixes) : Reaches t suffixes target names

variable {suffixes : List Text} {names : List Text}

/-- A target gives a file the names that lead to it behind its own. -/
theorem Reaches.find (ht : t.root.WellFormed) (h : t.Reaches suffixes target names) :
    (∃ bytes, t.find (target.below names) = .ok (.file bytes)) ∧
      (target.below names).resolve t.cwd = target.resolve t.cwd ++ names := by
  cases h with
  | named h =>
    have hself : target.below [] = target := by simp [Path.below]
    rw [hself, List.append_nil]
    exact ⟨⟨_, h⟩, rfl⟩
  | below h file suffix =>
    rw [Entry.at?_append, at?_resolve h] at file
    obtain ⟨hfind, hbelow⟩ := find_below ht h file
    exact ⟨⟨_, hfind⟩, hbelow⟩

theorem mem_candidates (ht : t.root.WellFormed) :
    p ∈ t.candidates suffixes target ↔ ∃ names, t.Reaches suffixes target names ∧ p = target.below names := by
  unfold candidates
  cases hfind : t.find target with
  | error fault =>
    constructor
    · simp
    · rintro ⟨names, ⟨h⟩ | ⟨h⟩, -⟩ <;> simp [hfind] at h
  | ok e =>
    have hplace := at?_resolve hfind
    cases e with
    | file bytes =>
      constructor
      · intro h
        obtain rfl : p = target := by simpa using h
        exact ⟨[], .named hfind, by simp [Path.below]⟩
      · rintro ⟨names, ⟨-⟩ | ⟨h⟩, rfl⟩
        · simp [Path.below]
        · simp [hfind] at h
    | dir entries =>
      have hdir := (ht.at? hplace).2
      have hne : ∀ {names bytes}, (Entry.dir entries).at? names = some (.file bytes) → names ≠ [] := by
        rintro names bytes hat rfl
        simp [Entry.at?] at hat
      simp only [List.mem_filter, List.mem_map, List.contains_iff_mem]
      constructor
      · rintro ⟨⟨names, hmem, rfl⟩, hsuff⟩
        obtain ⟨bytes, hat⟩ := hdir.mem_filesIn_iff.1 hmem
        rw [← Path.below, Path.suffix_below (hne hat)] at hsuff
        have hfile : t.root.at? (target.resolve t.cwd ++ names) = some (.file bytes) := by
          rw [Entry.at?_append, hplace]
          exact hat
        exact ⟨names, .below hfind hfile hsuff, rfl⟩
      · rintro ⟨names, ⟨h⟩ | ⟨-, file, suffix⟩, rfl⟩
        · simp [hfind] at h
        · rw [Entry.at?_append, hplace] at file
          refine ⟨⟨names, hdir.mem_filesIn_iff.2 ⟨_, file⟩, rfl⟩, ?_⟩
          rw [Path.suffix_below (hne file)]
          exact suffix

/-! ## the first path to each file -/

section First

variable {seen : List (List Text)} {ps : List Path}

/-- The places of the paths that are kept are those that have not been seen. -/
theorem mem_map_firstPaths {place : List Text} : place ∈ (t.firstPaths seen ps).map (·.resolve t.cwd) ↔
    place ∉ seen ∧ place ∈ ps.map (·.resolve t.cwd) := by
  induction ps generalizing seen with
  | nil => simp [firstPaths]
  | cons p ps ih =>
    rw [firstPaths, List.map_cons, List.mem_cons]
    by_cases hseen : p.resolve t.cwd ∈ seen
    · rw [if_pos (by simpa using hseen), ih]
      constructor
      · rintro ⟨hnew, hmem⟩
        exact ⟨hnew, .inr hmem⟩
      · rintro ⟨hnew, rfl | hmem⟩
        · exact absurd hseen hnew
        · exact ⟨hnew, hmem⟩
    · rw [if_neg (by simpa using hseen), List.map_cons, List.mem_cons, ih, List.mem_cons, not_or]
      by_cases hplace : place = p.resolve t.cwd
      · subst hplace
        simp [hseen]
      · simp [hplace]

theorem nodup_firstPaths (t : FileTree) (seen : List (List Text)) (ps : List Path) :
    ((t.firstPaths seen ps).map (·.resolve t.cwd)).Nodup := by
  induction ps generalizing seen with
  | nil => simp [firstPaths]
  | cons p ps ih =>
    rw [firstPaths]
    split
    · exact ih seen
    · rw [List.map_cons, List.nodup_cons, mem_map_firstPaths]
      exact ⟨fun h => h.1 List.mem_cons_self, ih _⟩

/-- A path that is kept is the first one to its place. -/
theorem first_of_mem_firstPaths (h : p ∈ t.firstPaths seen ps) : ∃ before behind, ps = before ++ p :: behind ∧
    ∀ q ∈ before, q.resolve t.cwd ≠ p.resolve t.cwd := by
  induction ps generalizing seen with
  | nil => simp [firstPaths] at h
  | cons first ps ih =>
    -- a path that is left out leads to a place that has been seen
    have hnew : p.resolve t.cwd ∉ seen := (mem_map_firstPaths.1 (List.mem_map_of_mem h)).1
    rw [firstPaths] at h
    by_cases hseen : first.resolve t.cwd ∈ seen
    · rw [if_pos (by simpa using hseen)] at h
      obtain ⟨before, behind, rfl, hbefore⟩ := ih h
      refine ⟨first :: before, behind, rfl, List.forall_mem_cons.2 ⟨?_, hbefore⟩⟩
      intro heq
      exact hnew (heq ▸ hseen)
    · rw [if_neg (by simpa using hseen), List.mem_cons] at h
      rcases h with rfl | h
      · exact ⟨[], ps, rfl, by simp⟩
      · have hlater : p.resolve t.cwd ∉ first.resolve t.cwd :: seen :=
          (mem_map_firstPaths.1 (List.mem_map_of_mem h)).1
        obtain ⟨before, behind, rfl, hbefore⟩ := ih h
        refine ⟨first :: before, behind, rfl, List.forall_mem_cons.2 ⟨?_, hbefore⟩⟩
        intro heq
        exact hlater (heq ▸ List.mem_cons_self)

end First

/-! ## collected files -/

/-- What comes from a list of targets comes from one of them, behind all that comes from the targets before it. -/
theorem exists_target {f : Path → List Path} {targets before behind : List Path}
    (h : targets.flatMap f = before ++ p :: behind) :
    ∃ earlier target later, targets = earlier ++ target :: later ∧ p ∈ f target ∧
      ∀ other ∈ earlier, ∀ q ∈ f other, q ∈ before := by
  induction targets generalizing before with
  | nil => simp at h
  | cons target targets ih =>
    rw [List.flatMap_cons] at h
    rcases List.append_eq_append_iff.1 h with ⟨more, rfl, hmore⟩ | ⟨rest, hfirst, hrest⟩
    · -- the path comes from a later target
      obtain ⟨earlier, target', later, rfl, hp, hearlier⟩ := ih hmore
      refine ⟨target :: earlier, target', later, rfl, hp, List.forall_mem_cons.2 ⟨?_, ?_⟩⟩
      · intro q hq
        exact List.mem_append_left more hq
      · intro other hother q hq
        exact List.mem_append_right (f target) (hearlier other hother q hq)
    · cases rest with
      | nil =>
        -- what comes from the first target ends just before the path
        have hlater : targets.flatMap f = [] ++ p :: behind := hrest.symm
        obtain ⟨earlier, target', later, rfl, hp, hearlier⟩ := ih hlater
        refine ⟨target :: earlier, target', later, rfl, hp, List.forall_mem_cons.2 ⟨?_, ?_⟩⟩
        · intro q hq
          simpa [hfirst] using hq
        · intro other hother q hq
          exact absurd (hearlier other hother q hq) List.not_mem_nil
      | cons q rest =>
        obtain ⟨rfl, -⟩ := List.cons.inj hrest
        exact ⟨[], target, targets, rfl, by simp [hfirst], by simp⟩

theorem collect_perm (t : FileTree) (targets : List Path) (suffixes : List Text) :
    (t.collect targets suffixes).Perm (t.firstPaths [] (targets.flatMap (t.candidates suffixes))) :=
  List.mergeSort_perm _ _

theorem nodup_collect (t : FileTree) (targets : List Path) (suffixes : List Text) :
    ((t.collect targets suffixes).map (·.resolve t.cwd)).Nodup :=
  ((t.collect_perm targets suffixes).map _).nodup_iff.2 (t.nodup_firstPaths _ _)

theorem mem_map_collect (ht : t.root.WellFormed) {targets : List Path} {place : List Text} :
    place ∈ (t.collect targets suffixes).map (·.resolve t.cwd) ↔
      ∃ target ∈ targets, ∃ names, t.Reaches suffixes target names ∧ place = target.resolve t.cwd ++ names := by
  rw [((t.collect_perm targets suffixes).map _).mem_iff, mem_map_firstPaths]
  simp only [List.not_mem_nil, not_false_eq_true, true_and, List.mem_map, List.mem_flatMap, mem_candidates ht]
  constructor
  · rintro ⟨_, ⟨target, htarget, names, hreach, rfl⟩, rfl⟩
    exact ⟨target, htarget, names, hreach, (hreach.find ht).2⟩
  · rintro ⟨target, htarget, names, hreach, rfl⟩
    exact ⟨_, ⟨target, htarget, names, hreach, rfl⟩, (hreach.find ht).2⟩

/-- A collected path is the first target that reaches its file, and the names that lead on from there. -/
theorem first_of_mem_collect (ht : t.root.WellFormed) {targets : List Path} (h : p ∈ t.collect targets suffixes) :
    ∃ earlier target later names, targets = earlier ++ target :: later ∧ t.Reaches suffixes target names ∧
      p = target.below names ∧ ∀ other ∈ earlier, ∀ names', t.Reaches suffixes other names' →
        other.resolve t.cwd ++ names' ≠ p.resolve t.cwd := by
  obtain ⟨before, behind, heq, hbefore⟩ := first_of_mem_firstPaths ((t.collect_perm targets suffixes).mem_iff.1 h)
  obtain ⟨earlier, target, later, rfl, hp, hearlier⟩ := exists_target heq
  obtain ⟨names, hreach, rfl⟩ := (mem_candidates ht).1 hp
  refine ⟨earlier, target, later, names, rfl, hreach, rfl, ?_⟩
  intro other hother names' hreach'
  have hmem : other.below names' ∈ before := hearlier other hother _ ((mem_candidates ht).2 ⟨names', hreach', rfl⟩)
  rw [← (hreach'.find ht).2]
  exact hbefore _ hmem

theorem pairwise_collect (t : FileTree) (targets : List Path) (suffixes : List Text) :
    (t.collect targets suffixes).Pairwise fun p q => p.le q = true := by
  refine List.pairwise_mergeSort ?_ ?_ _
  · intro p q r h h'
    exact Path.keyLe_trans h h'
  · intro p q
    rw [Bool.or_eq_true]
    exact Path.keyLe_total _ _

theorem slash_notMem_head {p : Path} (ht : t.root.WellFormed) (h : t.find p = .ok e) :
    ∀ name ∈ p.names.head?, CodePoint.ofChar '/' ∉ name := by
  intro name hhead
  obtain ⟨rest, hnames⟩ := List.head?_eq_some_iff.1 hhead
  by_cases hup : name = Path.up
  · rw [hup]
    decide
  · exact (isName_of_find ht h hnames hup).2.2

theorem find_of_mem_collect (ht : t.root.WellFormed) {targets : List Path} (h : p ∈ t.collect targets suffixes) :
    ∃ bytes, t.find p = .ok (.file bytes) := by
  obtain ⟨-, target, -, names, -, hreach, rfl, -⟩ := first_of_mem_collect ht h
  exact (hreach.find ht).1

/-- The order is strict, since two collected paths lead to different files. -/
theorem pairwise_precedes_collect (ht : t.root.WellFormed) (targets : List Path) :
    (t.collect targets suffixes).Pairwise Path.Precedes := by
  have hdifferent := List.pairwise_map.1 (t.nodup_collect targets suffixes)
  refine ((t.pairwise_collect targets suffixes).and hdifferent).imp_of_mem ?_
  rintro p q hp hq ⟨hle, hne⟩
  obtain ⟨_, hp⟩ := find_of_mem_collect ht hp
  obtain ⟨_, hq⟩ := find_of_mem_collect ht hq
  rcases Path.keyLe_iff.1 hle with heq | hlt
  · exact absurd (Path.resolve_eq_of_key_eq (slash_notMem_head ht hp) (slash_notMem_head ht hq) heq t.cwd) hne
  · exact hlt

/-- The collected files are different files.  They are those that a target stands for: the file that it names, whatever
its suffix, or the files with one of the suffixes at any depth below the directory that it names.  Each path leads to its
file, and begins with the first target that reaches that file.  The paths are in the order of their names.  With the same
targets in another order, or some of them more than once, the same files are collected. -/
theorem collect_files (ht : t.root.WellFormed) (targets : List Path) (suffixes : List Text) :
    ((t.collect targets suffixes).map (·.resolve t.cwd)).Nodup ∧
    (∀ place, place ∈ (t.collect targets suffixes).map (·.resolve t.cwd) ↔
      ∃ target ∈ targets, ∃ names, t.Reaches suffixes target names ∧ place = target.resolve t.cwd ++ names) ∧
    (∀ p ∈ t.collect targets suffixes, (∃ bytes, t.find p = .ok (.file bytes)) ∧
      ∃ earlier target later names, targets = earlier ++ target :: later ∧ t.Reaches suffixes target names ∧
        p = target.below names ∧ p.resolve t.cwd = target.resolve t.cwd ++ names ∧
        ∀ other ∈ earlier, ∀ names', t.Reaches suffixes other names' →
          other.resolve t.cwd ++ names' ≠ p.resolve t.cwd) ∧
    (t.collect targets suffixes).Pairwise Path.Precedes ∧
    ∀ targets', (∀ target, target ∈ targets' ↔ target ∈ targets) →
      ((t.collect targets' suffixes).map (·.resolve t.cwd)).Perm
        ((t.collect targets suffixes).map (·.resolve t.cwd)) := by
  refine ⟨t.nodup_collect _ _, fun place => mem_map_collect ht, ?_, pairwise_precedes_collect ht targets, ?_⟩
  · intro p hp
    obtain ⟨earlier, target, later, names, htargets, hreach, rfl, hearlier⟩ := first_of_mem_collect ht hp
    obtain ⟨hfile, hplace⟩ := hreach.find ht
    exact ⟨hfile, earlier, target, later, names, htargets, hreach, rfl, hplace, hearlier⟩
  · intro targets' hsame
    rw [List.perm_ext_iff_of_nodup (t.nodup_collect _ _) (t.nodup_collect _ _)]
    intro place
    simp only [mem_map_collect ht, hsame]

/-- A file in a directory, and one below it. -/
def overlapping : FileTree where
  root := .dir [(text "w", .dir [(text "a.ts", .file []), (text "d", .dir [(text "b", .file [])])])]
  cwd := [text "w"]

theorem wellFormed_overlapping : overlapping.root.WellFormed := by
  have hd : (Entry.dir [(text "b", .file [])]).WellFormed :=
    .dir (by decide) (by decide) (by simp [Entry.WellFormed.file])
  have hw : (Entry.dir [(text "a.ts", .file []), (text "d", .dir [(text "b", .file [])])]).WellFormed :=
    .dir (by decide) (by decide) (by simp [Entry.WellFormed.file, hd])
  exact .dir (by decide) (by decide) (by simp [hw])

/-- The first target names a file by a way around, the second the directory of that file and another one, and the third
that other one, which has no suffix. -/
theorem collect_files_overlapping :
    overlapping.root.WellFormed ∧
    ∃ targets, targets = [text "d/../a.ts", text "/w", text "d/b"].map Path.ofText ∧
      overlapping.collect targets [text ".ts"] = [.ofText (text "d/../a.ts"), .ofText (text "d/b")] ∧
      ((overlapping.collect targets [text ".ts"]).map (·.resolve overlapping.cwd)).Nodup ∧
      ((overlapping.collect (targets ++ targets.reverse) [text ".ts"]).map (·.resolve overlapping.cwd)).Perm
        ((overlapping.collect targets [text ".ts"]).map (·.resolve overlapping.cwd)) := by
  obtain ⟨hnodup, -, -, -, hperm⟩ := collect_files wellFormed_overlapping
    ([text "d/../a.ts", text "/w", text "d/b"].map Path.ofText) [text ".ts"]
  have hdir : overlapping.candidates [text ".ts"] (.ofText (text "/w")) = [.ofText (text "/w/a.ts")] := by
    have hfind : overlapping.find (.ofText (text "/w")) =
      .ok (.dir [(text "a.ts", .file []), (text "d", .dir [(text "b", .file [])])]) := rfl
    simp only [candidates, hfind, Entry.filesIn, List.map_cons, List.map_nil, List.singleton_append]
    decide
  have hfirst : overlapping.firstPaths [] (([text "d/../a.ts", text "/w", text "d/b"].map Path.ofText).flatMap
      (overlapping.candidates [text ".ts"])) = [.ofText (text "d/../a.ts"), .ofText (text "d/b")] := by
    simp only [List.map_cons, List.map_nil, List.flatMap_cons, hdir]
    decide
  refine ⟨wellFormed_overlapping, _, rfl, ?_, hnodup, hperm _ ?_⟩
  · rw [collect, hfirst]
    exact List.mergeSort_of_pairwise (by decide)
  · intro target
    rw [List.mem_append, List.mem_reverse, or_self]

end FileTree

end Files

end TypeLint
