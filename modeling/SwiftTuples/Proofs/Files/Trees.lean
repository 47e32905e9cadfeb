import Mathlib.Data.List.Nodup
import SwiftTuples.Proofs.Files.Steps
import SwiftTuples.Selection
/-!
# What stands in a tree of files

A tree is asked by names: at each place a file stands, or a directory, or nothing. The order in
which a directory lists its entries is no matter for that. Names lead to a file exactly where the
walk of the tree finds one, unless a pruned name is among them (`mem_files`). That holds of the
trees that a disk can hold, and of every picture that is put together from named files
(`WellFormed.insert`).
-/

namespace SwiftTuples

namespace FileTree

/-- A tree that a disk can hold: in every directory the entries have names, and different ones. -/
inductive WellFormed : FileTree → Prop
  | file (bytes : ByteArray) : WellFormed (.file bytes)
  | directory {entries : List (Text × FileTree)} (names : ∀ e ∈ entries, Path.IsName e.1)
      (distinct : (entries.map (·.1)).Nodup) (inner : ∀ e ∈ entries, WellFormed e.2) :
      WellFormed (.directory entries)

/-- What stands at a place, whatever a directory there holds. -/
inductive Kind where
  | file (bytes : ByteArray)
  | directory

/-- A directory stands there. -/
def Kind.isDirectory : Kind → Bool
  | file _ => false
  | directory => true

@[simp] theorem Kind.isDirectory_iff {kind : Kind} : kind.isDirectory ↔ kind = .directory := by
  cases kind <;> simp [isDirectory]

/-- The kind of a tree. -/
def kind : FileTree → Kind
  | .file bytes => .file bytes
  | .directory _ => .directory

/-- What stands where the names lead. -/
def kindAt? (t : FileTree) (names : List Text) : Option Kind := (t.get? names).map kind

/-- A file stands where the names lead. -/
def HasFile (t : FileTree) (names : List Text) : Prop :=
  ∃ bytes, t.kindAt? names = some (.file bytes)

variable {t u : FileTree} {entries : List (Text × FileTree)} {n : Text} {names more : List Text}

/-! ## Looking up -/

@[simp] theorem get?_nil (t : FileTree) : t.get? [] = some t := by cases t <;> rfl

theorem get?_cons (t : FileTree) (n : Text) (names : List Text) :
    t.get? (n :: names) = (t.entries.lookup n).bind (·.get? names) := by
  rw [get?]
  cases t.entries.lookup n <;> rfl

theorem get?_append (t : FileTree) (names more : List Text) :
    t.get? (names ++ more) = (t.get? names).bind (·.get? more) := by
  induction names generalizing t with
  | nil => simp
  | cons n names ih =>
    rw [List.cons_append, get?_cons, get?_cons]
    cases t.entries.lookup n with
    | none => rfl
    | some inner => exact ih inner

/-- What names lead to is below a directory. -/
theorem kindAt?_of_append (h : (t.kindAt? (names ++ n :: more)).isSome) :
    t.kindAt? names = some .directory := by
  rw [kindAt?, Option.isSome_map, get?_append] at h
  rw [kindAt?]
  cases hget : t.get? names with
  | none => simp [hget] at h
  | some u =>
    cases u with
    | file bytes => simp [hget, get?_cons, entries] at h
    | directory entries => rfl

/-- A directory has an entry of a name when something stands there. -/
theorem isSome_lookup (h : t.get? names = some (.directory entries)) :
    (entries.lookup n).isSome = (t.kindAt? (names ++ [n])).isSome := by
  rw [kindAt?, get?_append, h, Option.bind_some, get?_cons]
  cases hlookup : entries.lookup n with
  | none => simp [FileTree.entries, hlookup]
  | some inner => simp [FileTree.entries, hlookup]

/-- Names lead into the entry that the first of them is of. -/
theorem kindAt?_directory_cons {m : Text} : (directory ((m, t) :: entries)).kindAt? (n :: names) =
    if n = m then t.kindAt? names else (directory entries).kindAt? (n :: names) := by
  rw [kindAt?, kindAt?, kindAt?, get?_cons, get?_cons, FileTree.entries, FileTree.entries,
    List.lookup_cons]
  by_cases hn : n = m
  · simp [hn]
  · simp [hn, beq_eq_false_iff_ne.2 hn]

/-- Nothing is below a file. -/
theorem kindAt?_file_cons {bytes : ByteArray} : (file bytes).kindAt? (n :: names) = none := rfl

/-- A file that a directory gets at its end changes what stands at its name alone. -/
theorem eq_of_kindAt?_ne {m : Text} {bytes : ByteArray}
    (h : (directory entries).kindAt? names ≠
      (directory (entries ++ [(m, .file bytes)])).kindAt? names) : names = [m] := by
  cases names with
  | nil => exact absurd rfl h
  | cons n more =>
    induction entries with
    | nil =>
      rw [List.nil_append, kindAt?_directory_cons] at h
      split at h
      · next hn =>
        cases more with
        | nil => rw [hn]
        | cons => exact absurd rfl h
      · exact absurd rfl h
    | cons e entries ih =>
      rw [List.cons_append, kindAt?_directory_cons, kindAt?_directory_cons] at h
      split at h
      · exact absurd rfl h
      · exact ih h

/-! ## Trees that a disk can hold -/

theorem lookup_eq_some_iff (h : (entries.map (·.1)).Nodup) :
    entries.lookup n = some t ↔ (n, t) ∈ entries := by
  induction entries with
  | nil => simp
  | cons e entries ih =>
    obtain ⟨m, v⟩ := e
    rw [List.map_cons, List.nodup_cons] at h
    rw [List.lookup_cons, List.mem_cons, Prod.mk.injEq]
    by_cases hn : n = m
    · subst hn
      have hmem : (n, t) ∉ entries := fun hmem => h.1 (List.mem_map.2 ⟨_, hmem, rfl⟩)
      simp [hmem, eq_comm]
    · simp [beq_eq_false_iff_ne.2 hn, hn, ih h.2]

/-- What stands in such a tree is such a tree, and names lead there. -/
theorem WellFormed.get? (h : t.WellFormed) (hget : t.get? names = some u) :
    u.WellFormed ∧ ∀ n ∈ names, Path.IsName n := by
  induction names generalizing t with
  | nil =>
    rw [get?_nil, Option.some.injEq] at hget
    exact ⟨hget ▸ h, by simp⟩
  | cons n names ih =>
    rw [get?_cons] at hget
    obtain ⟨v, hlookup, hv⟩ := Option.bind_eq_some_iff.1 hget
    cases h with
    | file bytes => simp [entries] at hlookup
    | directory hnames distinct inner =>
      have hmem := (lookup_eq_some_iff distinct).1 hlookup
      obtain ⟨hu, hmore⟩ := ih (inner _ hmem) hv
      exact ⟨hu, List.forall_mem_cons.2 ⟨hnames _ hmem, hmore⟩⟩

theorem WellFormed.isName (h : t.WellFormed) (hkind : (t.kindAt? names).isSome) :
    ∀ n ∈ names, Path.IsName n := by
  rw [kindAt?, Option.isSome_map] at hkind
  obtain ⟨u, hu⟩ := Option.isSome_iff_exists.1 hkind
  exact (h.get? hu).2

/-! ## The walk of a tree -/

theorem mem_filesAmong : names ∈ filesAmong entries ↔
    ∃ e ∈ entries, Selection.isPruned e.1 = false ∧ ∃ more ∈ e.2.files, names = e.1 :: more := by
  induction entries with
  | nil => simp [filesAmong]
  | cons e entries ih =>
    rw [filesAmong, List.mem_append, ih, List.exists_mem_cons_iff]
    refine or_congr_left ?_
    cases Selection.isPruned e.1 with
    | true => simp
    | false => simp [eq_comm]

/-- **The walk finds the files that no pruned name leads to.** -/
theorem mem_files (h : t.WellFormed) :
    names ∈ t.files ↔ t.HasFile names ∧ ∀ n ∈ names, Selection.isPruned n = false := by
  induction h generalizing names with
  | file bytes =>
    cases names with
    | nil => simp [files, HasFile, kindAt?, kind]
    | cons n names => simp [files, HasFile, kindAt?, get?_cons, entries]
  | @directory entries hnames distinct inner ih =>
    rw [files, mem_filesAmong]
    constructor
    · rintro ⟨⟨n, v⟩, hmem, hpruned, more, hmore, rfl⟩
      obtain ⟨⟨bytes, hkind⟩, hall⟩ := (ih _ hmem).1 hmore
      refine ⟨⟨bytes, ?_⟩, List.forall_mem_cons.2 ⟨hpruned, hall⟩⟩
      rwa [kindAt?, get?_cons, FileTree.entries, (lookup_eq_some_iff distinct).2 hmem,
        Option.bind_some]
    · rintro ⟨⟨bytes, hkind⟩, hall⟩
      cases names with
      | nil => simp [kindAt?, kind] at hkind
      | cons n names =>
        rw [kindAt?, get?_cons, Option.map_bind] at hkind
        obtain ⟨v, hlookup, hv⟩ := Option.bind_eq_some_iff.1 hkind
        rw [List.forall_mem_cons] at hall
        have hmem := (lookup_eq_some_iff distinct).1 hlookup
        exact ⟨(n, v), hmem, hall.1, names, (ih _ hmem).2 ⟨⟨bytes, hv⟩, hall.2⟩, rfl⟩

/-! ## Putting files in -/

theorem map_fst_put : ((put n t entries).map (·.1)) =
    if n ∈ entries.map (·.1) then entries.map (·.1) else entries.map (·.1) ++ [n] := by
  induction entries with
  | nil => rfl
  | cons e entries ih =>
    obtain ⟨m, v⟩ := e
    by_cases hm : m = n
    · simp [put, hm]
    · simp only [put, if_neg hm, List.map_cons, List.mem_cons, Ne.symm hm, false_or, ih]
      split <;> rfl

theorem mem_put {e : Text × FileTree} (h : e ∈ put n t entries) : e = (n, t) ∨ e ∈ entries := by
  induction entries with
  | nil => exact .inl (List.mem_singleton.1 h)
  | cons f entries ih =>
    obtain ⟨m, v⟩ := f
    rw [put] at h
    split at h
    · next hm =>
      subst hm
      exact (List.mem_cons.1 h).imp_right (List.mem_cons_of_mem _)
    · rcases List.mem_cons.1 h with h | h
      · exact .inr (List.mem_cons.2 (.inl h))
      · exact (ih h).imp_right (List.mem_cons_of_mem _)

/-- The entries of any tree, as those of a directory, are such that a disk can hold them. -/
theorem WellFormed.ofEntries (h : t.WellFormed) : (FileTree.directory t.entries).WellFormed := by
  cases h with
  | file bytes => exact .directory (by simp [entries]) (by simp [entries]) (by simp [entries])
  | directory hnames distinct inner => exact .directory hnames distinct inner

/-- A tree with something put in where names lead can be held again. -/
theorem WellFormed.insert (h : t.WellFormed) (hu : u.WellFormed)
    (hnames : ∀ n ∈ names, Path.IsName n) : (t.insert names u).WellFormed := by
  induction names generalizing t with
  | nil =>
    unfold FileTree.insert
    split
    · exact h
    · exact hu
  | cons n names ih =>
    obtain ⟨hn, hnames⟩ := List.forall_mem_cons.1 hnames
    rw [FileTree.insert]
    cases h.ofEntries with
    | directory hentries distinct inner =>
      -- what is put into: the entry of that name, or a directory that is made for it
      have hinner : ((t.entries.lookup n).getD (.directory [])).WellFormed := by
        cases hlookup : t.entries.lookup n with
        | none => exact .directory (by simp) (by simp) (by simp)
        | some v => exact inner _ ((lookup_eq_some_iff distinct).1 hlookup)
      refine .directory (fun e he => ?_) ?_ fun e he => ?_
      · rcases mem_put he with rfl | he
        · exact hn
        · exact hentries e he
      · rw [map_fst_put]
        split
        · exact distinct
        · next hmem => exact List.nodup_append.2 ⟨distinct, List.nodup_singleton n,
            fun m hm k hk he => hmem (List.mem_singleton.1 hk ▸ he ▸ hm)⟩
      · rcases mem_put he with rfl | he
        · exact ih hinner hnames
        · exact inner e he

end FileTree

end SwiftTuples
