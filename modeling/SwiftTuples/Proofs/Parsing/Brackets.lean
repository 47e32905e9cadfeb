import Mathlib.Order.Bounds.Basic
import SwiftTuples.Proofs.Parsing.Nesting
import SwiftTuples.Proofs.Parsing.Progress
/-!
# The bracket that closes one

Arguments and generic clauses are passed over from one bracket to the one that closes it. Two counts
decide how far that is: the search is over where as many brackets have been closed as opened
(`evenAt`), and it is given up where a brace closes a block that was open before the search began
(`strayAt`). Whichever comes first ends it; a search that meets neither ends with the tokens. The
tokens from the stray brace on are never passed over, so the loop around finds its block as it was.
-/

namespace SwiftTuples

/-- The indices at which as many brackets have been closed as opened; `depth` brackets are open
before the tokens. -/
def evenAt (opening closing : Char) (depth : Nat) (ts : List Token) : Set Nat :=
  {i | i < ts.length ∧ (ts.take (i + 1)).countP (·.is closing) =
    depth + (ts.take (i + 1)).countP (·.is opening)}

/-- How a search among so many tokens ends, and how many of them it passes over: behind the first
index where the brackets are even, if no stray brace comes before it, and else at the first stray
brace or at the end. -/
inductive SearchEnds (even stray : Set Nat) (size : Nat) : Bool × Nat → Prop
  | found {m : Nat} (heven : IsLeast even m) (hstray : ∀ b ∈ stray, m < b) :
      SearchEnds even stray size (true, m + 1)
  | givenUp {n : Nat} (heven : ∀ m ∈ even, n ≤ m)
      (hstop : IsLeast stray n ∨ stray = ∅ ∧ n = size) : SearchEnds even stray size (false, n)

section ends

variable {even even' stray stray' : Set Nat} {size : Nat} {r : Bool × Nat}

/-- The least index behind the first token. -/
theorem isLeast_succ (h0 : 0 ∉ even) (hsucc : ∀ i, i + 1 ∈ even ↔ i ∈ even') {m : Nat}
    (h : IsLeast even' m) : IsLeast even (m + 1) := by
  refine ⟨(hsucc m).2 h.1, fun i hi => ?_⟩
  cases i with
  | zero => exact absurd hi h0
  | succ i => exact Nat.succ_le_succ (h.2 ((hsucc i).1 hi))

/-- A search that passes over the first token ends as the search behind it does. -/
theorem SearchEnds.cons (h : SearchEnds even' stray' size r) (heven : 0 ∉ even)
    (hevens : ∀ i, i + 1 ∈ even ↔ i ∈ even') (hstray : 0 ∉ stray)
    (hstrays : ∀ i, i + 1 ∈ stray ↔ i ∈ stray') :
    SearchEnds even stray (size + 1) (r.map id (· + 1)) := by
  cases h with
  | found hm hfree =>
    refine .found (isLeast_succ heven hevens hm) fun b hb => ?_
    cases b with
    | zero => exact absurd hb hstray
    | succ b => exact Nat.succ_lt_succ (hfree b ((hstrays b).1 hb))
  | givenUp hbefore hstop =>
    refine .givenUp (fun m hm => ?_) ?_
    · cases m with
      | zero => exact absurd hm heven
      | succ m => exact Nat.succ_le_succ (hbefore m ((hevens m).1 hm))
    · refine hstop.imp (isLeast_succ hstray hstrays)
        fun ⟨hnone, hsize⟩ => ⟨?_, congrArg (· + 1) hsize⟩
      refine Set.eq_empty_iff_forall_notMem.2 fun b hb => ?_
      cases b with
      | zero => exact hstray hb
      | succ b => exact Set.eq_empty_iff_forall_notMem.1 hnone b ((hstrays b).1 hb)

/-- Where an even index comes before every stray brace the search ends behind it. -/
theorem SearchEnds.eq_found (h : SearchEnds even stray size r) (hsize : ∀ m ∈ even, m < size)
    {m : Nat} (heven : IsLeast even m) (hstray : ∀ b, IsLeast stray b → m < b) :
    r = (true, m + 1) := by
  cases h with
  | found hm _ => rw [hm.unique heven]
  | @givenUp n hbefore hstop =>
    have hle := hbefore m heven.1
    rcases hstop with hleast | ⟨-, rfl⟩
    · exact absurd (hstray n hleast) (Nat.not_lt_of_le hle)
    · exact absurd (hsize m heven.1) (Nat.not_lt_of_le hle)

end ends

section search

variable {opening closing : Char} {depth depth' braces i : Nat} {t : Token} {ts : List Token}

theorem zero_mem_evenAt : 0 ∈ evenAt opening closing depth (t :: ts) ↔
    (if t.is closing then 1 else 0) = depth + if t.is opening then 1 else 0 := by
  simp [evenAt, List.countP_cons]

/-- The brackets are even at a later index if they are so behind the first token, with the brackets
that are open there. -/
theorem succ_mem_evenAt (h : depth' + (if t.is closing then 1 else 0) =
    depth + if t.is opening then 1 else 0) :
    i + 1 ∈ evenAt opening closing depth (t :: ts) ↔ i ∈ evenAt opening closing depth' ts := by
  simp only [evenAt, Set.mem_ofPred_eq, List.length_cons, List.take_succ_cons, List.countP_cons]
  omega

/-- A token that the search passes over, leaving `depth'` brackets open. -/
theorem SearchEnds.pass {size : Nat} {r : Bool × Nat} (hbrace : ¬ (t.is '}' && braces = 0))
    (hopen : 0 < depth') (hdepth : depth' + (if t.is closing then 1 else 0) =
      depth + if t.is opening then 1 else 0)
    (h : SearchEnds (evenAt opening closing depth' ts)
      (strayAt (if t.is '{' then braces + 1 else if t.is '}' then braces - 1 else braces) ts)
      size r) :
    SearchEnds (evenAt opening closing depth (t :: ts)) (strayAt braces (t :: ts)) (size + 1)
      (r.map id (· + 1)) := by
  have hstray : 0 ∉ strayAt braces (t :: ts) :=
    fun hzero => hbrace (by simpa using zero_mem_strayAt.1 hzero)
  have heven : 0 ∉ evenAt opening closing depth (t :: ts) := by
    rw [zero_mem_evenAt]
    omega
  exact h.cons heven (fun i => succ_mem_evenAt hdepth) hstray fun i => succ_mem_strayAt hstray

/-- A stray brace at hand ends the search. -/
theorem SearchEnds.stray {even : Set Nat} {size : Nat} (hbrace : t.is '}' && braces = 0) :
    SearchEnds even (strayAt braces (t :: ts)) size (false, 0) :=
  .givenUp (fun m _ => Nat.zero_le m)
    (.inl ⟨zero_mem_strayAt.2 (by simpa using hbrace), fun b _ => Nat.zero_le b⟩)

end search

section ahead

variable {tokens : List Token} {k : Nat} {t : Token}

theorem Cursor.advance_ofTokens (k n : Nat) :
    (Cursor.ofTokens tokens k).advance n = .ofTokens tokens (k + n) := by
  simp [advance, ofTokens]

/-- The tokens ahead of a cursor are those from its place on. -/
theorem Cursor.exists_ahead (ht : tokens[k]? = some t) : ∃ t' ts,
    (ofTokens tokens k).ahead = t' :: ts ∧ t'.toToken = t ∧
      (t' :: ts).map (·.toToken) = tokens.drop k := by
  have hmap : (ofTokens tokens k).ahead.map (·.toToken) = tokens.drop k := by
    rw [ofTokens, List.map_drop, Placed.ofTokens, Placed.map_toToken_following]
  obtain ⟨hk, rfl⟩ := List.getElem?_eq_some_iff.1 ht
  obtain ⟨t', ts, hahead, ht', -⟩ :=
    List.map_eq_cons_iff.1 (hmap.trans (List.drop_eq_getElem_cons hk))
  exact ⟨t', ts, hahead, ht', hahead ▸ hmap⟩

end ahead

namespace Keeper

variable {opening closing : Char}

/-- **A search for a closing bracket ends where the counts say**, from inside a bracket on. -/
theorem closeWithin_ends (hne : opening ≠ closing) {depth braces : Nat} (hdepth : 0 < depth)
    (ts : List Placed) :
    SearchEnds (evenAt opening closing depth (ts.map (·.toToken)))
      (strayAt braces (ts.map (·.toToken))) ts.length
      (closeWithin opening closing depth braces ts) := by
  fun_induction closeWithin opening closing depth braces ts with
  | case1 depth braces =>
    have heven : ∀ m, m ∉ evenAt opening closing depth [] := fun m hm => Nat.not_lt_zero m hm.1
    exact .givenUp (fun m hm => absurd hm (heven m)) (.inr ⟨strayAt_nil, rfl⟩)
  | case2 depth braces t rest hbrace => exact .stray hbrace
  | case3 depth braces t rest hbrace inside hopen ih =>
    have hclose : t.is closing = false := Token.is_eq_false_of_is hopen hne
    exact (ih (Nat.succ_pos depth)).pass hbrace (Nat.succ_pos depth) (by simp [hopen, hclose])
  | case4 depth braces t rest hbrace hopen hclose hlast =>
    have heven : 0 ∈ evenAt opening closing depth ((t :: rest).map (·.toToken)) := by
      rw [List.map_cons, zero_mem_evenAt]
      simp only [hopen, hclose, Bool.false_eq_true, if_true, if_false]
      omega
    refine .found ⟨heven, fun m _ => Nat.zero_le m⟩ fun b hb => Nat.pos_of_ne_zero ?_
    rintro rfl
    exact hbrace (by simpa using zero_mem_strayAt.1 hb)
  | case5 depth braces t rest hbrace inside hopen hclose hlast ih =>
    have hdepth' : 0 < depth - 1 := by omega
    refine (ih hdepth').pass hbrace hdepth' ?_
    simp only [hopen, hclose, Bool.false_eq_true, if_true, if_false]
    omega
  | case6 depth braces t rest hbrace inside hopen hclose ih =>
    exact (ih hdepth).pass hbrace hdepth (by simp [hopen, hclose])

/-- So it does from the bracket on. -/
theorem closeWithin_ends_from (hne : opening ≠ closing) {t : Placed} (hopen : t.is opening)
    (ts : List Placed) :
    SearchEnds (evenAt opening closing 0 ((t :: ts).map (·.toToken)))
      (strayAt 0 ((t :: ts).map (·.toToken))) (t :: ts).length
      (closeWithin opening closing 0 0 (t :: ts)) := by
  have hclose : t.is closing = false := Token.is_eq_false_of_is hopen hne
  by_cases hbrace : t.is '}' && (0 : Nat) = 0
  · rw [closeWithin, if_pos hbrace]
    exact .stray hbrace
  · rw [closeWithin, if_neg hbrace]
    dsimp only
    rw [if_pos hopen]
    exact (closeWithin_ends hne Nat.one_pos ts).pass hbrace Nat.one_pos (by simp [hopen, hclose])

/-- Where an even index comes before every stray brace, brackets are passed over up to it. -/
theorem balanced_of_even (hne : opening ≠ closing) {t : Placed} (hopen : t.is opening)
    {ts : List Placed} {m : Nat}
    (heven : IsLeast (evenAt opening closing 0 ((t :: ts).map (·.toToken))) m)
    (hstray : ∀ b ∈ strayAt 0 ((t :: ts).map (·.toToken)), m < b) :
    TokenParser.balanced opening closing (t :: ts) = .ok ((), (t :: ts).drop (m + 1)) := by
  have hfound := (closeWithin_ends_from hne hopen ts).eq_found (fun _ hm => by simpa using hm.1)
    heven fun b hb => hstray b hb.1
  have hspec := (closeWithin_spec opening closing (some t.start) 0 0 (t :: ts)).2
  rw [hfound, if_pos rfl] at hspec
  simp [TokenParser.balanced, hspec]

section balanced

variable {tokens : List Token} {k : Nat} {t : Token}

/-- From a bracket on the cursor ends behind the first even index, if no stray brace comes before
it, and else at the first stray brace or at the end of the tokens. -/
theorem balanced_cases (hne : opening ≠ closing) (ht : tokens[k]? = some t) (hopen : t.is opening) :
    (∃ m, IsLeast (evenAt opening closing 0 (tokens.drop k)) m ∧
      (∀ b ∈ strayAt 0 (tokens.drop k), m < b) ∧
      balanced opening closing (.ofTokens tokens k) = (.ok (), .ofTokens tokens (k + m + 1))) ∨
    ∃ n, (∀ m, IsLeast (evenAt opening closing 0 (tokens.drop k)) m →
        ¬ ∀ b, IsLeast (strayAt 0 (tokens.drop k)) b → m < b) ∧
      (IsLeast (strayAt 0 (tokens.drop k)) n ∨
        strayAt 0 (tokens.drop k) = ∅ ∧ k + n = tokens.length) ∧
      balanced opening closing (.ofTokens tokens k) =
        (.error ⟨some t.start, .unbalanced opening⟩, .ofTokens tokens (k + n)) := by
  obtain ⟨t', ts, hahead, rfl, hmap⟩ := Cursor.exists_ahead ht
  have hends := closeWithin_ends_from hne hopen ts
  have hbalanced := balanced_eq opening closing (.ofTokens tokens k)
  have hlength : (t' :: ts).length = (tokens.drop k).length := by
    rw [← hmap, List.length_map]
  rw [hahead, Cursor.advance_ofTokens] at hbalanced
  rw [hmap, hlength] at hends
  cases hsearch : closeWithin opening closing 0 0 (t' :: ts) with
  | mk found n =>
    rw [hsearch] at hends hbalanced
    have hfound := fun m => hends.eq_found (fun _ hm => hm.1) (m := m)
    cases hends with
    | found heven hstray => exact .inl ⟨_, heven, hstray, hbalanced⟩
    | givenUp _ hstop =>
      refine .inr ⟨n, fun m heven hstray => ?_, hstop.imp_right fun ⟨hnone, hsize⟩ => ⟨hnone, ?_⟩,
        hbalanced⟩
      · cases hfound m heven hstray
      · have hk := (List.getElem?_eq_some_iff.1 ht).1
        rw [hsize, List.length_drop]
        omega

/-- **Where the search for a closing bracket stops.** Indices are counted from the bracket on. The
search succeeds exactly when there is a first index at which as many brackets are closed as opened
and no stray brace comes before it, and the cursor then stands behind that index. Otherwise it fails
at the bracket, and the cursor stands at the first stray brace or at the end. It never passes over
that brace. The reader that runs answers alike and leaves the same tokens. -/
theorem bracket_search_exact (hne : opening ≠ closing) (ht : tokens[k]? = some t)
    (hopen : t.is opening) :
    let c := Cursor.ofTokens tokens k
    let even := evenAt opening closing 0 (tokens.drop k)
    let stray := strayAt 0 (tokens.drop k)
    ((balanced opening closing c).1 = .ok () ↔
      ∃ m, IsLeast even m ∧ ∀ b, IsLeast stray b → m < b) ∧
    (∀ m, IsLeast even m → (∀ b, IsLeast stray b → m < b) →
      balanced opening closing c = (.ok (), .ofTokens tokens (k + m + 1))) ∧
    ((¬ ∃ m, IsLeast even m ∧ ∀ b, IsLeast stray b → m < b) → ∃ n,
      (IsLeast stray n ∨ stray = ∅ ∧ k + n = tokens.length) ∧ balanced opening closing c =
        (.error ⟨some t.start, .unbalanced opening⟩, .ofTokens tokens (k + n))) ∧
    (∀ b, IsLeast stray b → (balanced opening closing c).2.passed ≤ k + b) ∧
    TokenParser.balanced opening closing c.ahead =
      (balanced opening closing c).1.map (·, (balanced opening closing c).2.ahead) := by
  intro c even stray
  have hmirrors := ((mirrors_balanced opening closing c).answer).symm
  rcases balanced_cases hne ht hopen with
    ⟨m, heven, hstray, hbalanced⟩ | ⟨n, hnone, hstop, hbalanced⟩
  · -- the first even index is the only one there can be
    have hfound : ∃ m, IsLeast even m ∧ ∀ b, IsLeast stray b → m < b :=
      ⟨m, heven, fun b hb => hstray b hb.1⟩
    refine ⟨⟨fun _ => hfound, fun _ => congrArg Prod.fst hbalanced⟩, fun m' heven' _ => ?_,
      fun hnone => absurd hfound hnone, fun b hb => ?_, hmirrors⟩
    · rw [heven'.unique heven]
      exact hbalanced
    · rw [show (balanced opening closing c).2 = _ from congrArg Prod.snd hbalanced]
      exact Nat.add_lt_add_left (hstray b hb.1) k
  · refine ⟨⟨fun hok => ?_, fun ⟨m, heven, hstray⟩ => absurd hstray (hnone m heven)⟩,
      fun m heven hstray => absurd hstray (hnone m heven), fun _ => ⟨n, hstop, hbalanced⟩,
      fun b hb => ?_, hmirrors⟩
    · cases (congrArg Prod.fst hbalanced).symm.trans hok
    · rw [show (balanced opening closing c).2 = _ from congrArg Prod.snd hbalanced]
      rcases hstop with hleast | ⟨hempty, -⟩
      · exact Nat.add_le_add_left (hleast.2 hb.1) k
      · exact absurd hb.1 (Set.eq_empty_iff_forall_notMem.1 hempty b)

/-- In `f({}})` the parenthesis comes too late: the cursor stops at the second closing brace. -/
theorem search_stops_at_stray_brace :
    let parenthesis : Token := ⟨.punct '(', 1, 2, false⟩
    let tokens : List Token := [⟨.ident "f", 0, 1, true⟩, parenthesis, ⟨.punct '{', 2, 3, false⟩,
      ⟨.punct '}', 3, 4, false⟩, ⟨.punct '}', 4, 5, false⟩, ⟨.punct ')', 5, 6, false⟩]
    '(' ≠ ')' ∧ tokens[1]? = some parenthesis ∧ parenthesis.is '(' ∧
    IsLeast (evenAt '(' ')' 0 (tokens.drop 1)) 4 ∧ IsLeast (strayAt 0 (tokens.drop 1)) 3 ∧
    balanced '(' ')' (.ofTokens tokens 1) =
      (.error ⟨some 1, .unbalanced '('⟩, .ofTokens tokens 4) := by
  intro parenthesis tokens
  have heven : IsLeast (evenAt '(' ')' 0 (tokens.drop 1)) 4 := by
    have hno : ∀ m < 4, ((tokens.drop 1).take (m + 1)).countP (·.is ')') ≠
        0 + ((tokens.drop 1).take (m + 1)).countP (·.is '(') := by decide
    exact ⟨⟨by decide, by decide⟩, fun m hm => Nat.le_of_not_lt fun hlt => hno m hlt hm.2⟩
  have hstray : IsLeast (strayAt 0 (tokens.drop 1)) 3 := by
    have hno : ∀ b < 3, ¬ 0 + ((tokens.drop 1).take (b + 1)).countP (·.is '{') <
        ((tokens.drop 1).take (b + 1)).countP (·.is '}') := by decide
    exact ⟨⟨⟨_, rfl, by decide⟩, by decide⟩,
      fun b hb => Nat.le_of_not_lt fun hlt => hno b hlt hb.2⟩
  obtain ⟨-, -, hgivenUp, -, -⟩ := bracket_search_exact
    (show '(' ≠ ')' by decide) (show tokens[1]? = some parenthesis from rfl) (by decide)
  obtain ⟨n, hstop, hbalanced⟩ := hgivenUp fun ⟨m, hm, hfree⟩ => by
    have hlt := hfree 3 hstray
    rw [hm.unique heven] at hlt
    omega
  rcases hstop with hn | ⟨hempty, -⟩
  · rw [hn.unique hstray] at hbalanced
    exact ⟨by decide, rfl, by decide, heven, hstray, hbalanced⟩
  · exact absurd hstray.1 (Set.eq_empty_iff_forall_notMem.1 hempty 3)

end balanced

end Keeper

end SwiftTuples
