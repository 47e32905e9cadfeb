import SwiftTuples.Proofs.Reporting.Lines
/-!
# Places count bytes

A place is told in bytes, while a text is a list of characters. No byte of a longer character is a
line feed, so the starts of the lines come after the line feed bytes of the UTF-8 form
(`LineIndex.startsFrom_eq`), and line and column can be read off the bytes alone, at every offset:
between two characters or inside one, at the end or past it (`LineIndex.location_exact`). The walk
over the line starts finds what any search in them would (`LineIndex.location_of_finds`).
-/

namespace SwiftTuples

namespace Text

/-! ## Bytes -/

/-- The bytes of the UTF-8 form. -/
def bytes (t : Text) : List UInt8 := t.flatMap String.utf8EncodeChar

/-- The byte that ends a line. -/
def feed : UInt8 := 10

@[simp] theorem bytes_nil : bytes [] = [] := rfl

@[simp] theorem bytes_cons (c : Char) (t : Text) :
    bytes (c :: t) = String.utf8EncodeChar c ++ bytes t := rfl

@[simp] theorem bytes_append (s t : Text) : bytes (s ++ t) = bytes s ++ bytes t :=
  List.flatMap_append

@[simp] theorem length_bytes (t : Text) : t.bytes.length = t.size := by
  induction t with
  | nil => rfl
  | cons c t ih => rw [bytes_cons, List.length_append, ih, String.length_utf8EncodeChar, size_cons]

/-- A byte less than 128 is the whole of its character: all bytes of a longer one are larger. -/
theorem toNat_of_mem_utf8EncodeChar {c : Char} {b : UInt8} (hb : b ∈ String.utf8EncodeChar c)
    (hsmall : b.toNat < 128) : c.toNat = b.toNat := by
  have hbyte : ∀ n : Nat, (UInt8.ofNat n).toNat = n % 256 := fun n => by simp
  have hcode : c.toNat = c.val.toNat := rfl
  unfold String.utf8EncodeChar at hb
  simp only at hb
  split at hb
  · rw [List.mem_singleton] at hb
    subst hb
    rw [hbyte]
    omega
  · have hlarge : 128 ≤ b.toNat := by
      split at hb
      · simp only [List.mem_cons, List.not_mem_nil, or_false] at hb
        rcases hb with rfl | rfl <;> rw [hbyte] <;> omega
      · split at hb
        · simp only [List.mem_cons, List.not_mem_nil, or_false] at hb
          rcases hb with rfl | rfl | rfl <;> rw [hbyte] <;> omega
        · simp only [List.mem_cons, List.not_mem_nil, or_false] at hb
          rcases hb with rfl | rfl | rfl | rfl <;> rw [hbyte] <;> omega
    omega

/-- A line feed byte is a line feed. -/
theorem eq_newline_of_feed_mem {c : Char} (h : feed ∈ String.utf8EncodeChar c) : c = '\n' :=
  Char.toNat_inj.1 (toNat_of_mem_utf8EncodeChar h (by decide))

/-- The line of an offset starts here: at the beginning of the text or right after a line feed, and
no line feed comes between the start and the offset. -/
structure StartsLine (source : Text) (offset start : Nat) : Prop where
  le : start ≤ offset
  begins : start = 0 ∨ source.bytes[start - 1]? = some feed
  last : ∀ i < offset, source.bytes[i]? = some feed → i < start

end Text

open Text

/-! ## Line starts and bytes -/

namespace LineIndex

variable {line start base offset : Nat} {bytes : List UInt8}

/-- The offsets right after the line feeds among bytes that start at `base`. -/
def startsAmong (base : Nat) (bytes : List UInt8) : List Nat :=
  ((bytes.zipIdx base).filter fun x => x.1 = feed).map fun x => x.2 + 1

theorem startsAmong_cons (base : Nat) (b : UInt8) (bytes : List UInt8) :
    startsAmong base (b :: bytes) =
      if b = feed then (base + 1) :: startsAmong (base + 1) bytes
      else startsAmong (base + 1) bytes := by
  by_cases hb : b = feed <;> simp [startsAmong, List.zipIdx_cons, hb]

theorem startsAmong_append {front : List UInt8} (hfront : feed ∉ front) (base : Nat)
    (bytes : List UInt8) :
    startsAmong base (front ++ bytes) = startsAmong (base + front.length) bytes := by
  induction front generalizing base with
  | nil => rfl
  | cons b front ih =>
    rw [List.mem_cons, not_or] at hfront
    rw [List.cons_append, startsAmong_cons, if_neg (Ne.symm hfront.1), ih hfront.2,
      List.length_cons, Nat.add_assoc, Nat.add_comm 1]

/-- **The lines of a text start after its line feed bytes.** -/
theorem startsFrom_eq (base : Nat) (t : Text) : startsFrom base t = startsAmong base t.bytes := by
  induction t generalizing base with
  | nil => rfl
  | cons c t ih =>
    rw [startsFrom, bytes_cons]
    by_cases hc : c = '\n'
    · subst hc
      rw [if_pos rfl, ih]
      exact (startsAmong_cons base feed (Text.bytes t)).symm
    · rw [if_neg hc, ih, startsAmong_append (mt eq_newline_of_feed_mem hc),
        String.length_utf8EncodeChar]

/-- What the walk over line starts finds, in terms of the bytes from `base` on. -/
theorem locate_startsAmong (line : Nat) (bytes : List UInt8) (hstart : start ≤ base)
    (hle : start ≤ offset) :
    ∃ found, locate line start offset (startsAmong base bytes) =
        ⟨line + (bytes.take (offset - base)).count feed, offset - found + 1⟩ ∧
      found ≤ offset ∧ start ≤ found ∧
      (found = start ∨ base < found ∧ bytes[found - 1 - base]? = some feed) ∧
      ∀ i, bytes[i]? = some feed → base + i < offset → base + i < found := by
  induction bytes generalizing line start base with
  | nil => exact ⟨start, by simp [startsAmong, locate], hle, Nat.le_refl _, .inl rfl, by simp⟩
  | cons b bytes ih =>
    rw [startsAmong_cons]
    by_cases hb : b = feed
    · subst hb
      rw [if_pos rfl, locate]
      by_cases hnext : base + 1 ≤ offset
      -- the line ends before the offset, so the walk goes on
      · rw [if_pos hnext]
        obtain ⟨found, hlocate, hfound, hge, hbegins, hlast⟩ :=
          ih (line + 1) (Nat.le_refl (base + 1)) hnext
        have htake : offset - base = offset - (base + 1) + 1 := by omega
        refine ⟨found, ?_, hfound, by omega, .inr ⟨by omega, ?_⟩, fun i hi hlt => ?_⟩
        · rw [hlocate, htake, List.take_succ_cons, List.count_cons_self]
          congr 1
          omega
        · rcases hbegins with rfl | ⟨hlt, hbegins⟩
          · simp
          · rw [show found - 1 - base = found - 1 - (base + 1) + 1 by omega]
            exact hbegins
        · cases i with
          | zero => omega
          | succ i =>
            have := hlast i hi (by omega)
            omega
      · rw [if_neg hnext, show offset - base = 0 by omega]
        refine ⟨start, by simp, hle, Nat.le_refl _, .inl rfl, fun i _ hlt => by omega⟩
    · rw [if_neg hb]
      obtain ⟨found, hlocate, hfound, hge, hbegins, hlast⟩ :=
        ih line (Nat.le_succ_of_le hstart) hle
      refine ⟨found, ?_, hfound, hge, hbegins.imp_right fun h => ⟨by omega, ?_⟩,
        fun i hi hlt => ?_⟩
      · rw [hlocate]
        congr 2
        cases hsub : offset - base with
        | zero => rw [show offset - (base + 1) = 0 by omega]; rfl
        | succ n =>
          rw [show offset - (base + 1) = n by omega, List.take_succ_cons, List.count_cons_of_ne hb]
      · rw [show found - 1 - base = found - 1 - (base + 1) + 1 by omega]
        exact h.2
      · cases i with
        | zero => exact absurd (Option.some.inj hi) hb
        | succ i =>
          have := hlast i hi (by omega)
          omega

/-- A place is one more than the line feeds before it, and as many bytes behind the start of its
line. -/
theorem exists_startsLine (source : Text) (offset : Nat) : ∃ start, source.StartsLine offset start ∧
    (ofText source).location offset =
      ⟨1 + (source.bytes.take offset).count feed, offset - start + 1⟩ := by
  obtain ⟨start, hlocate, hle, -, hbegins, hlast⟩ :=
    locate_startsAmong 1 source.bytes (Nat.le_refl 0) (Nat.zero_le offset)
  refine ⟨start, ⟨hle, ?_, fun i hi hfeed => ?_⟩, ?_⟩
  · exact hbegins.imp_right fun h => by simpa using h.2
  · simpa using hlast i hfeed (by omega)
  · rw [location, ofText, startsFrom_eq, hlocate, Nat.sub_zero]

/-! ## Searching -/

/-- What a search for an offset in increasing ones answers: an index at which it stands or, if it
stands nowhere, the index at which it would be put in. -/
inductive Finds (offsets : List Nat) (p : Nat) : Except Nat Nat → Prop
  | there {i : Nat} (stands : offsets[i]? = some p) : Finds offsets p (.ok i)
  | between {i : Nat} (le : i ≤ offsets.length)
      (below : ∀ j < i, ∀ x, offsets[j]? = some x → x < p)
      (above : ∀ x, offsets[i]? = some x → p < x) : Finds offsets p (.error i)

/-- The line that a search tells: the one that starts at the offset, or the last that starts
before. -/
def foundLine : Except Nat Nat → Nat
  | .ok i => i
  | .error i => i - 1

theorem pairwise_startsFrom (base : Nat) (t : Text) : (startsFrom base t).Pairwise (· < ·) := by
  induction t generalizing base with
  | nil => exact .nil
  | cons c t ih =>
    rw [startsFrom]
    split
    · exact .cons (fun _ hp => lt_of_mem_startsFrom hp) (ih _)
    · exact ih _

/-- The walk ends at the last line start that is not behind the offset. -/
theorem locate_eq_of_getElem? {starts : List Nat} {i s : Nat}
    (hsorted : (start :: starts).Pairwise (· < ·)) (hs : (start :: starts)[i]? = some s)
    (hle : s ≤ offset) (hnext : ∀ x, starts[i]? = some x → offset < x) :
    locate line start offset starts = ⟨line + i, offset - s + 1⟩ := by
  induction starts generalizing line start i with
  | nil =>
    cases i with
    | zero => cases hs; rfl
    | succ i => cases hs
  | cons next later ih =>
    obtain ⟨-, hlater⟩ := List.pairwise_cons.1 hsorted
    cases i with
    | zero =>
      cases hs
      rw [locate, if_neg (Nat.not_le.2 (hnext next rfl))]
      rfl
    | succ i =>
      have hle' : next ≤ s := by
        have hmem : s ∈ next :: later := List.mem_of_getElem? hs
        rcases List.mem_cons.1 hmem with rfl | hmem
        · exact Nat.le_refl _
        · exact Nat.le_of_lt ((List.pairwise_cons.1 hlater).1 s hmem)
      rw [locate, if_pos (hle'.trans hle), ih hlater hs hnext, Nat.add_right_comm]
      rfl

/-- **The walk over the line starts answers what any search in them tells**, the first line starting
at 0. -/
theorem location_of_finds {source : Text} {answer : Except Nat Nat}
    (h : Finds (0 :: (ofText source).starts) offset answer) :
    ∃ start, (0 :: (ofText source).starts)[foundLine answer]? = some start ∧
      (ofText source).location offset = ⟨foundLine answer + 1, offset - start + 1⟩ := by
  have hsorted : (0 :: (ofText source).starts).Pairwise (· < ·) :=
    .cons (fun _ hp => lt_of_mem_startsFrom hp) (pairwise_startsFrom 0 source)
  cases h with
  | @there i stands =>
    refine ⟨offset, stands, ?_⟩
    rw [location, locate_eq_of_getElem? hsorted stands (Nat.le_refl offset) fun x hx => ?_]
    · exact congrArg (Location.mk · _) (Nat.add_comm 1 i)
    · obtain ⟨hi, hget⟩ := List.getElem?_eq_some_iff.1 stands
      obtain ⟨hi', hget'⟩ := List.getElem?_eq_some_iff.1 hx
      have hlt := List.pairwise_iff_getElem.1 hsorted i (i + 1) hi
        (Nat.succ_lt_succ hi') (Nat.lt_succ_self i)
      rw [hget, List.getElem_cons_succ, hget'] at hlt
      exact hlt
  | @between i le below above =>
    -- nothing is put in before the first line
    obtain ⟨i, rfl⟩ : ∃ j, i = j + 1 := by
      cases i with
      | zero => exact absurd (above 0 rfl) (Nat.not_lt_zero offset)
      | succ i => exact ⟨i, rfl⟩
    have hstart := List.getElem?_eq_getElem (Nat.lt_of_succ_le le)
    refine ⟨_, hstart, ?_⟩
    rw [location, locate_eq_of_getElem? hsorted hstart
      (Nat.le_of_lt (below i (Nat.lt_succ_self i) _ hstart)) above]
    exact congrArg (Location.mk · _) (Nat.add_comm 1 i)

/-! ## Order -/

section Order

variable {p q : Nat}

theorem not_before_self (a : Location) : ¬ a.Before a := by
  rintro (h | ⟨-, h⟩) <;> exact Nat.lt_irrefl _ h

theorem not_before_of_before {a b : Location} (h : a.Before b) : ¬ b.Before a := by
  intro h'
  unfold Location.Before at h h'
  omega

/-- Places come in the order of their offsets. -/
theorem lt_iff_before (index : LineIndex) :
    p < q ↔ (index.location p).Before (index.location q) := by
  constructor
  · exact locate_before (Nat.zero_le p)
  · intro h
    by_contra hle
    rcases Nat.eq_or_lt_of_le (Nat.le_of_not_lt hle) with rfl | hlt
    · exact not_before_self _ h
    · exact not_before_of_before h (locate_before (Nat.zero_le q) hlt)

/-- Distinct offsets have distinct places. -/
theorem location_injective (index : LineIndex) : Function.Injective index.location := by
  intro p q h
  rcases Nat.lt_trichotomy p q with hlt | rfl | hlt
  · exact absurd (h ▸ index.lt_iff_before.1 hlt) (not_before_self _)
  · rfl
  · exact absurd (h ▸ index.lt_iff_before.1 hlt) (not_before_self _)

end Order

/-- **The line index is exact and keeps the order.** Whatever the offset, also past the end, its
line is one more than the line feed bytes before it and its column counts from the byte after the
last of them, or from the first byte, which is not behind the offset. Distinct offsets have distinct
places, and an offset is smaller than another exactly when its place comes before. -/
theorem location_exact (source : Text) :
    (∀ offset, ∃ start, source.StartsLine offset start ∧
      (ofText source).location offset =
        ⟨1 + (source.bytes.take offset).count feed, offset - start + 1⟩) ∧
    (∀ p q, p ≠ q → (ofText source).location p ≠ (ofText source).location q) ∧
    ∀ p q, p < q ↔ ((ofText source).location p).Before ((ofText source).location q) :=
  ⟨exists_startsLine source, fun _ _ hne h => hne (location_injective _ h),
    fun _ _ => lt_iff_before _⟩

/-- The last byte of the character on the second line, and an offset past the end. -/
theorem inside_character_and_past_end :
    3 ≠ 9 ∧ (ofText "a\né\n".toList).location 3 ≠ (ofText "a\né\n".toList).location 9 :=
  ⟨by decide, (location_exact "a\né\n".toList).2.1 3 9 (by decide)⟩

end LineIndex

end SwiftTuples
