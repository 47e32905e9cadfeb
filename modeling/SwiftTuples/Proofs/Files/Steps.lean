import Mathlib.Data.Char
import Mathlib.Data.List.Lex
import SwiftTuples.Path
/-!
# Steps of paths

What joining names to a path and dropping its stay do to its steps, and what the order of paths is
when it is said by steps. The text of a path is opened only here; elsewhere a path is what it says.
-/

namespace SwiftTuples

namespace Path

/-- A name that something in a directory can have. -/
def IsName (n : Text) : Prop := n ≠ [] ∧ '/' ∉ n ∧ n ≠ ['.'] ∧ n ≠ ['.', '.']

instance : DecidablePred IsName := fun n =>
  inferInstanceAs (Decidable (n ≠ [] ∧ '/' ∉ n ∧ n ≠ ['.'] ∧ n ≠ ['.', '.']))

variable {n : Text} {names : List Text} {p q d : Path}

/-! ## Pieces between slashes -/

@[simp] theorem split_nil : split [] = [[]] := rfl

@[simp] theorem split_slash (t : Text) : split ('/' :: t) = [] :: split t := rfl

theorem split_ne_nil (t : Text) : split t ≠ [] := by
  fun_cases split t <;> simp_all

/-- A slash parts the pieces before it from those after it. -/
theorem split_append_slash (s t : Text) : split (s ++ '/' :: t) = split s ++ split t := by
  fun_induction split s with
  | case1 => rfl
  | case2 rest ih => rw [List.cons_append, split_slash, ih, List.cons_append]
  | case3 c rest hc piece pieces hsplit ih =>
    rw [List.cons_append, split.eq_3 _ _ hc, ih, hsplit]
    rfl
  | case4 c rest hc hsplit => exact absurd hsplit (split_ne_nil rest)

@[simp] theorem split_stay (t : Text) : split ('.' :: '/' :: t) = ['.'] :: split t :=
  split_append_slash ['.'] t

theorem split_eq_singleton (h : '/' ∉ n) : split n = [n] := by
  induction n with
  | nil => rfl
  | cons c n ih =>
    rw [List.mem_cons, not_or] at h
    rw [split.eq_3 _ _ (Ne.symm h.1), ih h.2]

/-- The first piece goes up to the first slash. -/
theorem head?_split (t : Text) : (split t).head? = some (t.takeWhile (· != '/')) := by
  fun_induction split t with
  | case1 => rfl
  | case2 rest => rfl
  | case3 c rest hc piece pieces hsplit ih =>
    rw [hsplit, List.head?_cons, Option.some.injEq] at ih
    rw [List.head?_cons, List.takeWhile_cons_of_pos (by simpa using hc), ih]
  | case4 c rest hc hsplit => exact absurd hsplit (split_ne_nil rest)

/-- A name takes a step into what it names. -/
theorem IsName.ofPiece? (h : IsName n) : Step.ofPiece? n = some (.name n) := by
  obtain ⟨hempty, -, hhere, hup⟩ := h
  simp [Step.ofPiece?, hempty, hhere, hup]

@[simp] theorem Step.ofPiece?_nil : Step.ofPiece? [] = none := rfl

@[simp] theorem Step.ofPiece?_here : Step.ofPiece? ['.'] = none := rfl

theorem Step.ofPiece?_ne_here (piece : Text) : Step.ofPiece? piece ≠ some .here := by
  unfold Step.ofPiece?
  split
  · nofun
  · split <;> nofun

/-- What a path says before the first slash decides: where it starts. -/
def lead (p : Path) : List Step :=
  if p.isAbsolute then [.root] else if p.pieces.head? == some ['.'] then [.here] else []

/-- The steps of a path are where it starts and what its pieces say. -/
theorem steps_eq (p : Path) : p.steps = p.lead ++ p.pieces.filterMap Step.ofPiece? := by
  rw [steps, lead]
  split
  · rfl
  · split <;> rfl

/-! ## Joining -/

/-- The pieces of a path with a name joined to it: a slash at the end of the path is used again. -/
theorem pieces_join (hd : d.text ≠ []) (hn : '/' ∉ n) :
    ∃ front, front ≠ [] ∧ (d.join n).pieces = front ++ [n] ∧
      (d.pieces = front ++ [[]] ∨ d.pieces = front) := by
  -- a slash at the end ends in an empty piece, which the name takes the place of
  by_cases hslash : d.text.getLast? = some '/'
  · obtain ⟨before, hbefore⟩ := List.getLast?_eq_some_iff.1 hslash
    refine ⟨split before, split_ne_nil before, ?_, .inl ?_⟩
    · rw [join, if_pos (by simp [hslash]), pieces, hbefore, List.append_assoc,
        List.singleton_append, split_append_slash, split_eq_singleton hn]
    · rw [pieces, hbefore, split_append_slash, split_nil]
  · refine ⟨d.pieces, split_ne_nil _, ?_, .inr rfl⟩
    rw [join, if_neg (by simp [hd, hslash]), pieces, split_append_slash, split_eq_singleton hn]
    rfl

/-- What is joined to a path stands at its end. -/
theorem text_join (d : Path) (n : Text) : ∃ before, (d.join n).text = before ++ n ∧
    ∀ more, d.join (n ++ more) = ⟨before ++ (n ++ more)⟩ := by
  unfold join
  split
  · exact ⟨d.text, rfl, fun _ => rfl⟩
  · exact ⟨d.text ++ ['/'], by simp, fun _ => by simp⟩

theorem join_injective (d : Path) : Function.Injective d.join := fun m n h => by
  unfold join at h
  split at h <;> simpa using h

theorem text_join_ne_nil (hn : n ≠ []) : (d.join n).text ≠ [] := by
  obtain ⟨before, htext, -⟩ := text_join d n
  simp [htext, hn]

theorem head?_text_join (hd : d.text ≠ []) : (d.join n).text.head? = d.text.head? := by
  obtain ⟨c, t, ht⟩ := List.exists_cons_of_ne_nil hd
  unfold join
  split <;> simp [ht]

theorem isAbsolute_join (hd : d.text ≠ []) : (d.join n).isAbsolute = d.isAbsolute := by
  rw [isAbsolute, head?_text_join hd, isAbsolute]

/-- Joining a name adds a step. -/
theorem steps_join (hd : d.text ≠ []) (hn : IsName n) :
    (d.join n).steps = d.steps ++ [.name n] := by
  obtain ⟨front, hfront, hjoin, hpieces⟩ := pieces_join hd hn.2.1
  have hhead : d.pieces.head? = front.head? := by
    rcases hpieces with h | h <;> simp [h, List.head?_append_of_ne_nil _ hfront]
  have honward : d.pieces.filterMap Step.ofPiece? = front.filterMap Step.ofPiece? := by
    rcases hpieces with h | h <;> simp [h]
  rw [steps_eq, steps_eq, lead, lead, isAbsolute_join hd, hjoin, hhead, honward,
    List.head?_append_of_ne_nil _ hfront, List.filterMap_append, ← List.append_assoc]
  simp [hn.ofPiece?]

/-- Joining names adds a step for each. -/
theorem steps_joinAll (hd : d.text ≠ []) (hnames : ∀ n ∈ names, IsName n) :
    (d.joinAll names).steps = d.steps ++ names.map .name := by
  induction names generalizing d with
  | nil => simp [joinAll]
  | cons n names ih =>
    have hn := hnames n List.mem_cons_self
    rw [joinAll, List.foldl_cons, ← joinAll, ih (text_join_ne_nil hn.1) fun m hm =>
      hnames m (List.mem_cons_of_mem _ hm), steps_join hd hn]
    simp

/-! ## Stays at the start -/

/-- The first piece is a stay in these texts alone. -/
theorem takeWhile_eq_here {t : Text} :
    t.takeWhile (· != '/') = ['.'] ↔ t = ['.'] ∨ ∃ rest, t = '.' :: '/' :: rest := by
  match t with
  | [] => simp
  | [c] => by_cases hc : c = '/' <;> simp [hc]
  | c :: e :: rest =>
    by_cases hc : c = '/'
    · simp [hc]
    · by_cases he : e = '/' <;> simp [hc, he]

theorem lead_eq_here_iff :
    .here ∈ p.lead ↔ p.text = ['.'] ∨ ∃ rest, p.text = '.' :: '/' :: rest := by
  rw [lead, pieces, head?_split, ← takeWhile_eq_here]
  by_cases habsolute : p.isAbsolute
  · obtain ⟨rest, hrest⟩ := List.head?_eq_some_iff.1 (eq_of_beq habsolute)
    simp [habsolute, hrest]
  · by_cases hhere : p.text.takeWhile (· != '/') = ['.'] <;> simp [habsolute, hhere]

/-- What a text says is not changed by dropping what says nothing. -/
theorem filterMap_dropStays (t : Text) :
    (split (dropStays t)).filterMap Step.ofPiece? = (split t).filterMap Step.ofPiece? := by
  fun_induction dropStays t with
  | case1 rest ih => rw [ih, split_slash, List.filterMap_cons_none Step.ofPiece?_nil]
  | case2 rest ih => rw [ih, split_stay, List.filterMap_cons_none Step.ofPiece?_here]
  | case3 => rfl
  | case4 => rfl

/-- A text from its first name on starts nowhere in particular. -/
theorem lead_dropStays (t : Text) : lead ⟨dropStays t⟩ = [] := by
  fun_induction dropStays t with
  | case1 rest ih => exact ih
  | case2 rest ih => exact ih
  | case3 => rfl
  | case4 t hslash hstay hhere =>
    have habsolute : isAbsolute ⟨t⟩ = false := by
      cases t with
      | nil => rfl
      | cons c t => simpa [isAbsolute] using fun hc => hslash t (by rw [hc])
    have hfirst : t.takeWhile (· != '/') ≠ ['.'] := fun h => by
      rcases takeWhile_eq_here.1 h with h | ⟨rest, h⟩
      · exact hhere h
      · exact hstay rest h
    simp [lead, habsolute, pieces, head?_split, hfirst]

/-- A path that starts with no stay is left alone. -/
theorem withoutHere_of_lead (h : .here ∉ p.lead) : p.withoutHere = p := by
  rw [lead_eq_here_iff, not_or, not_exists] at h
  unfold withoutHere
  split
  · next hp => exact absurd hp h.1
  · next rest hp => exact absurd hp (h.2 rest)
  · rfl

theorem here_not_mem_onward : .here ∉ p.pieces.filterMap Step.ofPiece? := fun h => by
  obtain ⟨piece, -, hpiece⟩ := List.mem_filterMap.1 h
  exact Step.ofPiece?_ne_here piece hpiece

/-- Where nothing is a stay, no step is dropped with the stays. -/
theorem filter_stays {steps : List Step} (h : .here ∉ steps) :
    steps.filter (· != .here) = steps :=
  List.filter_eq_self.2 fun step hstep => by
    simpa using fun heq : step = .here => h (heq ▸ hstep)

theorem lead_of_here_mem (h : .here ∈ p.lead) : p.lead = [.here] := by
  unfold lead at h ⊢
  split at h <;> simp_all

/-- **Dropping the stay at the start drops that step alone.** -/
theorem steps_withoutHere (p : Path) : p.withoutHere.steps = p.steps.filter (· != .here) := by
  by_cases hhere : .here ∈ p.lead
  · rw [steps_eq p, lead_of_here_mem hhere, List.filter_append, filter_stays here_not_mem_onward]
    rcases lead_eq_here_iff.1 hhere with htext | ⟨rest, htext⟩
    · have hp : p = ⟨['.']⟩ := congrArg Path.mk htext
      subst hp
      rfl
    · have hp : p = ⟨'.' :: '/' :: rest⟩ := congrArg Path.mk htext
      subst hp
      have hwithout : withoutHere ⟨'.' :: '/' :: rest⟩ = ⟨dropStays rest⟩ := rfl
      rw [hwithout, steps_eq, lead_dropStays, pieces, pieces, filterMap_dropStays, split_stay,
        List.filterMap_cons_none Step.ofPiece?_here]
      rfl
  · rw [withoutHere_of_lead hhere, steps_eq, List.filter_append, filter_stays hhere,
      filter_stays here_not_mem_onward]

/-! ## The order of paths -/

/-- The root comes first, then stays, steps up and names. -/
def Step.rank : Step → Nat
  | .root => 0
  | .here => 1
  | .up => 2
  | .name _ => 3

/-- A step comes before another by its kind, or by its name. -/
def Step.Before (a b : Step) : Prop :=
  a.rank < b.rank ∨ ∃ m n, a = .name m ∧ b = .name n ∧ m < n

/-- A path comes before another if its step does where the two part, or if it ends there. -/
def Before (p q : Path) : Prop := List.Lex Step.Before p.steps q.steps

/-- Keys are in the order of the steps. -/
theorem Step.key_lt_iff {a b : Step} : a.key < b.key ↔ a.Before b := by
  cases a <;> cases b <;> simp [key, Before, rank, List.cons_lt_cons_iff]

theorem Step.key_injective : Function.Injective Step.key := fun a b h => by
  cases a <;> cases b <;> simp_all [key]

/-- And so are paths. -/
theorem key_lt_iff : p.key < q.key ↔ p.Before q := by
  rw [key, key, Before]
  generalize p.steps = as
  generalize q.steps = bs
  induction as generalizing bs with
  | nil => cases bs <;> simp
  | cons a as ih =>
    cases bs with
    | nil => simp
    | cons b bs =>
      rw [List.map_cons, List.map_cons, List.cons_lt_cons_iff, List.cons_lex_cons_iff, ih,
        Step.key_lt_iff, Step.key_injective.eq_iff]

theorem key_eq_iff : p.key = q.key ↔ p.steps = q.steps :=
  Step.key_injective.list_map.eq_iff

theorem same_iff : p.same q ↔ p.steps = q.steps := by rw [same, beq_iff_eq, key_eq_iff]

theorem same_comm : p.same q = q.same p := by
  rw [Bool.eq_iff_iff, same_iff, same_iff, eq_comm]

theorem same_self (p : Path) : p.same p = true := same_iff.2 rfl

theorem comesBy_iff : p.comesBy q ↔ p.key ≤ q.key := by simp [comesBy]

theorem comesBy_trans (p q r : Path) (h : p.comesBy q) (h' : q.comesBy r) : p.comesBy r := by
  rw [comesBy_iff] at *
  exact h.trans h'

theorem comesBy_total (p q : Path) : p.comesBy q || q.comesBy p := by
  rw [Bool.or_eq_true, comesBy_iff, comesBy_iff]
  exact le_total p.key q.key

/-- Two paths in order are the same path, or the first comes before the second. -/
theorem before_of_comesBy (h : p.comesBy q) (hne : ¬p.same q) : p.Before q := by
  rw [same_iff, ← key_eq_iff] at hne
  exact key_lt_iff.1 (lt_of_le_of_ne (comesBy_iff.1 h) hne)

instance : Std.Irrefl Before where
  irrefl p h := lt_irrefl p.key (key_lt_iff.2 h)

instance : Std.Antisymm Before where
  antisymm _ _ h h' := absurd (key_lt_iff.2 h) (key_lt_iff.2 h').asymm

/-- Steps in front of two paths leave their order. -/
theorem Before.of_steps_append {front : List Step} {p' q' : Path} (h : p.Before q)
    (hp : p'.steps = front ++ p.steps) (hq : q'.steps = front ++ q.steps) : p'.Before q' := by
  rw [Before, hp, hq]
  exact h.append_left _ front

/-! ## Paths of names -/

/-- The path that says names alone. -/
def ofNames (names : List Text) : Path := ⟨['/'].intercalate names⟩

/-- Names joined one by one are names joined at once. -/
theorem joinAll_eq (hne : names ≠ []) (hnames : ∀ n ∈ names, IsName n) :
    d.joinAll names = d.join (ofNames names).text := by
  induction names generalizing d with
  | nil => exact absurd rfl hne
  | cons n names ih =>
    have hn := hnames n List.mem_cons_self
    cases names with
    | nil => simp [joinAll, ofNames]
    | cons m names =>
      obtain ⟨before, htext, hmore⟩ := text_join d n
      have hlast : (d.join n).text.getLast? ≠ some '/' := by
        rw [htext, List.getLast?_append_of_ne_nil _ hn.1]
        exact fun h => hn.2.1 (List.mem_of_getLast? h)
      rw [joinAll, List.foldl_cons, ← joinAll, ih (List.cons_ne_nil _ _) fun k hk =>
        hnames k (List.mem_cons_of_mem _ hk), join, if_neg (by
          simp [hlast, text_join_ne_nil hn.1]), htext]
      simp only [ofNames, List.intercalate_cons_cons, hmore, List.append_assoc]
      rfl

theorem pieces_ofNames (hne : names ≠ []) (hnames : ∀ n ∈ names, IsName n) :
    (ofNames names).pieces = names := by
  rw [pieces, ofNames]
  induction names with
  | nil => exact absurd rfl hne
  | cons n names ih =>
    have hn := (hnames n List.mem_cons_self).2.1
    cases names with
    | nil => simpa using split_eq_singleton hn
    | cons m names =>
      rw [List.intercalate_cons_cons, List.append_assoc, List.singleton_append,
        split_append_slash, split_eq_singleton hn, List.singleton_append,
        ih (List.cons_ne_nil _ _) fun k hk => hnames k (List.mem_cons_of_mem _ hk)]

/-- A path of names starts nowhere in particular. -/
theorem lead_ofNames (hnames : ∀ n ∈ names, IsName n) : (ofNames names).lead = [] := by
  cases names with
  | nil => rfl
  | cons n names =>
    have hn := hnames n List.mem_cons_self
    have hhead : (ofNames (n :: names)).pieces.head? = some n := by
      rw [pieces_ofNames (List.cons_ne_nil _ _) hnames, List.head?_cons]
    have habsolute : (ofNames (n :: names)).isAbsolute = false := by
      refine Bool.eq_false_iff.2 fun h => hn.1 ?_
      obtain ⟨rest, hrest⟩ := List.head?_eq_some_iff.1 (eq_of_beq h)
      rw [pieces, head?_split, hrest] at hhead
      exact (Option.some.inj hhead).symm
    simp [lead, habsolute, hhead, hn.2.2.1]

/-- It has a step for each name. -/
theorem steps_ofNames (hnames : ∀ n ∈ names, IsName n) :
    (ofNames names).steps = names.map .name := by
  by_cases hne : names = []
  · subst hne
    rfl
  · rw [steps_eq, lead_ofNames hnames, pieces_ofNames hne hnames, List.nil_append]
    clear hne
    induction names with
    | nil => rfl
    | cons n names ih =>
      rw [List.filterMap_cons_some (hnames n List.mem_cons_self).ofPiece?, List.map_cons,
        ih fun k hk => hnames k (List.mem_cons_of_mem _ hk)]

/-- Where no stay starts a text, none is dropped. -/
theorem dropStays_of_lead {t : Text} (h : lead ⟨t⟩ = []) : dropStays t = t := by
  fun_cases dropStays t with
  | case1 rest => simp [lead, isAbsolute] at h
  | case2 rest => simp [lead, isAbsolute, pieces] at h
  | case3 => simp [lead, isAbsolute, pieces, split] at h
  | case4 => rfl

/-- **What is joined to a stay is the path of its names,** once the stay is dropped. -/
theorem withoutHere_joinAll_here (hne : names ≠ []) (hnames : ∀ n ∈ names, IsName n) :
    (joinAll ⟨['.']⟩ names).withoutHere = ofNames names := by
  rw [joinAll_eq hne hnames]
  exact congrArg Path.mk (dropStays_of_lead (lead_ofNames hnames))

end Path

end SwiftTuples
