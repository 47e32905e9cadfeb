import SwiftTuples.Syntax.Source
import SwiftTuples.Proofs.Parsing.Bounds
/-!
# When a file can be read

Braces decide whether a file can be read, and they are counted twice. First those of all tokens,
before anything is read. Then those at which a loop over items stands: what a declaration or a cast
takes is passed in one step, braces and all. The readers that pass over arguments, default values
and operator names may take an opening brace without the one that closes it, or the other way
round, so the second count can fail where the first does not. Nothing else fails a file.

`outside` lists the tokens of the second count. It does not follow the nesting of blocks: a loop
that closes a block and the loop around it meet the tokens of one list. `LoopEnds` ties the blocks
still open to the braces still pending, and `loopEnds_items` carries it through every loop.
-/

namespace SwiftTuples

/-! ## Balanced braces -/

/-- No prefix of the tokens closes more braces than it opens, and all of them together close as
many as they open. -/
def BracesBalanced (ts : List Token) : Prop :=
  (∀ before, before <+: ts → before.countP (·.is '}') ≤ before.countP (·.is '{')) ∧
    ts.countP (·.is '{') = ts.countP (·.is '}')

/-- The braces of the tokens close `pending` braces opened before them, and those they open. -/
def Closes : Nat → List Token → Prop
  | pending, [] => pending = 0
  | pending, t :: ts =>
    if t.is '{' then Closes (pending + 1) ts
    else if t.is '}' then 0 < pending ∧ Closes (pending - 1) ts
    else Closes pending ts

section Closes

variable {pending : Nat} {t : Token} {ts : List Token}

theorem closes_open (h : t.is '{') : Closes pending (t :: ts) ↔ Closes (pending + 1) ts := by
  rw [Closes, if_pos h]

theorem Token.not_is_open_of_is_close (h : t.is '}') : ¬ t.is '{' := by
  simp only [Token.is, decide_eq_true_eq] at h ⊢
  simp [h]

theorem closes_close (h : t.is '}') :
    Closes (pending + 1) (t :: ts) ↔ Closes pending ts := by
  rw [Closes, if_neg (Token.not_is_open_of_is_close h), if_pos h]
  simp

theorem not_closes_zero_close (h : t.is '}') : ¬ Closes 0 (t :: ts) := by
  rw [Closes, if_neg (Token.not_is_open_of_is_close h), if_pos h]
  exact fun ⟨hlt, _⟩ => Nat.lt_irrefl 0 hlt

/-- Closing brace by brace is a count over every prefix. -/
theorem closes_iff : Closes pending ts ↔
    (∀ before, before <+: ts →
      before.countP (·.is '}') ≤ pending + before.countP (·.is '{')) ∧
      ts.countP (·.is '}') = pending + ts.countP (·.is '{') := by
  induction ts generalizing pending with
  | nil =>
    rw [Closes]
    constructor
    · rintro rfl
      exact ⟨fun before h => by simp [List.prefix_nil.1 h], rfl⟩
    · exact fun ⟨_, h⟩ => by simpa using h.symm
  | cons t ts ih =>
    -- a prefix is empty or goes on from the head, so the counts shift by what the head counts
    have hbefore : ∀ P : List Token → Prop,
        (∀ before, before <+: t :: ts → P before) ↔
          P [] ∧ ∀ before, before <+: ts → P (t :: before) := by
      intro P
      constructor
      · exact fun h => ⟨h [] List.nil_prefix,
          fun b hb => h (t :: b) ((List.prefix_cons_inj t).2 hb)⟩
      · rintro ⟨hnil, hcons⟩ before hbefore
        rcases List.prefix_cons_iff.1 hbefore with rfl | ⟨b, rfl, hb⟩
        · exact hnil
        · exact hcons b hb
    rw [hbefore fun before => before.countP (·.is '}') ≤ pending + before.countP (·.is '{')]
    rw [Closes]
    by_cases hopen : t.is '{'
    · have hclose : ¬ t.is '}' := fun h => Token.not_is_open_of_is_close h hopen
      rw [if_pos hopen, ih]
      simp only [List.countP_cons, hopen, hclose, List.countP_nil]
      simp only [Bool.false_eq_true, if_true, if_false, Nat.add_zero, Nat.zero_le, true_and]
      simp only [Nat.add_assoc, Nat.add_comm 1]
    · by_cases hclose : t.is '}'
      · rw [if_neg hopen, if_pos hclose, ih]
        simp only [List.countP_cons, hopen, hclose, List.countP_nil]
        simp only [Bool.false_eq_true, if_true, if_false, Nat.add_zero, Nat.zero_le, true_and]
        constructor
        · rintro ⟨hpos, hpre, htotal⟩
          exact ⟨fun b hb => by have := hpre b hb; omega, by omega⟩
        · rintro ⟨hpre, htotal⟩
          have := hpre [] List.nil_prefix
          simp only [List.countP_nil] at this
          exact ⟨by omega, fun b hb => by have := hpre b hb; omega, by omega⟩
      · rw [if_neg hopen, if_neg hclose, ih]
        simp [hopen, hclose]

theorem closes_zero_iff : Closes 0 ts ↔ BracesBalanced ts := by
  rw [closes_iff, BracesBalanced]
  simp only [Nat.zero_add, eq_comm]

end Closes

/-! ## The braces still open -/

section pending

variable {pending : List Nat} {t : Token} {ts : List Token}

theorem matchBraces_open (h : t.is '{') :
    matchBraces pending (t :: ts) = matchBraces (t.start :: pending) ts := by
  rw [matchBraces.eq_def]
  simp only [if_pos h]

theorem matchBraces_close (h : t.is '}') {offset : Nat} :
    matchBraces (offset :: pending) (t :: ts) = matchBraces pending ts := by
  rw [matchBraces.eq_def]
  simp only [if_neg (Token.not_is_open_of_is_close h), if_pos h]

theorem matchBraces_stray (h : t.is '}') :
    matchBraces [] (t :: ts) = .error ⟨t.start, .unexpectedBrace⟩ := by
  rw [matchBraces.eq_def]
  simp only [if_neg (Token.not_is_open_of_is_close h), if_pos h]

theorem matchBraces_cons (hopen : t.is '{' = false) (hclose : t.is '}' = false) :
    matchBraces pending (t :: ts) = matchBraces pending ts := by
  rw [matchBraces.eq_def]
  simp [hopen, hclose]

end pending

/-- The braces of a file are matched by counting them. -/
theorem matchBraces_eq_ok {pending : List Nat} {ts : List Token} :
    matchBraces pending ts = .ok () ↔ Closes pending.length ts := by
  induction ts generalizing pending with
  | nil => cases pending <;> simp [matchBraces, Closes]
  | cons t ts ih =>
    rw [matchBraces.eq_def, Closes]
    dsimp only
    split
    · exact ih
    · split
      · cases pending with
        | nil => simp
        | cons offset pending => simpa using ih
      · exact ih

theorem checkBraces_eq_ok {tokens : List Token} :
    checkBraces tokens = .ok () ↔ BracesBalanced tokens := by
  rw [checkBraces, matchBraces_eq_ok, List.length_nil, closes_zero_iff]

namespace TokenParser

/-! ## The tokens at which loops stand -/

/-- The tokens after the item that the tokens start with, or after one token where none can be
read. -/
def afterItem (ts : List Placed) : List Placed :=
  match item (depth ts.length) ts with
  | .ok (some _, rest) => rest
  | _ => ts.tail

theorem length_afterItem_lt (t : Placed) (ts : List Placed) :
    (afterItem (t :: ts)).length < (t :: ts).length := by
  unfold afterItem
  split
  · next found rest hitem => exact (itemReadersAdvance _).item.length_lt hitem
  · exact Nat.lt_succ_self _

/-- The braces at which loops over items stand: those of the tokens, less what items take. -/
def outside : List Placed → List Token
  | [] => []
  | t :: ts =>
    if t.is '{' || t.is '}' then t.toToken :: outside ts
    else outside (afterItem (t :: ts))
termination_by ts => ts.length
decreasing_by
  · exact Nat.lt_succ_self _
  · exact length_afterItem_lt t ts

section outside

variable {t : Placed} {ts : List Placed}

theorem outside_open (h : t.is '{') : outside (t :: ts) = t.toToken :: outside ts := by
  rw [outside, h, Bool.true_or, if_pos rfl]

theorem outside_close (h : t.is '}') : outside (t :: ts) = t.toToken :: outside ts := by
  rw [outside, h, Bool.or_true, if_pos rfl]

theorem outside_item (hopen : ¬ t.is '{') (hclose : ¬ t.is '}') :
    outside (t :: ts) = outside (afterItem (t :: ts)) := by
  rw [outside, if_neg (by simp [hopen, hclose])]

end outside

/-! ## Loops, token by token -/

section items

variable {n : Nat} {closing : Bool} {done : List Item} {t : Placed} {ts : List Placed}

theorem items_nil : items (n + 1) closing done [] =
    if closing then .error ⟨none, .missingBrace⟩ else .ok (done.reverse, []) := by
  cases closing <;> rfl

theorem items_cons : items (n + 1) closing done (t :: ts) =
    (if t.is '}' then
      if closing then skip 1 >>= fun _ => pure done.reverse else fail .unexpectedBrace
    else if t.is '{' then block n >>= fun block => items n closing (.block block :: done)
    else orSkip (item n) >>= fun found => items n closing (found.reverse ++ done)) (t :: ts) := rfl

/-- The brace that closes a block ends the loop over its items. -/
theorem items_close (h : t.is '}') :
    items (n + 1) true done (t :: ts) = .ok (done.reverse, ts) := by
  rw [items_cons, if_pos h, if_pos rfl]
  rfl

theorem items_stray (h : t.is '}') :
    items (n + 1) false done (t :: ts) = .error ⟨some t.start, .unexpectedBrace⟩ := by
  rw [items_cons, if_pos h]
  rfl

theorem items_open (h : t.is '{') : items (n + 1) closing done (t :: ts) =
    (block n >>= fun block => items n closing (.block block :: done)) (t :: ts) := by
  rw [items_cons, if_neg fun hclose => Token.not_is_open_of_is_close hclose h, if_pos h]

theorem items_item (hopen : ¬ t.is '{') (hclose : ¬ t.is '}') :
    items (n + 1) closing done (t :: ts) =
      (orSkip (item n) >>= fun found => items n closing (found.reverse ++ done)) (t :: ts) := by
  rw [items_cons, if_neg hclose, if_neg hopen]

theorem block_open (h : t.is '{') : block (n + 1) (t :: ts) =
    (items n true [] >>= fun items => pure ⟨t.start, items⟩) ts := by
  have hexpect : expect '{' (t :: ts) = .ok (t.start, ts) := by
    simp only [expect, bind_apply, eat, h]
    rfl
  exact bind_of_eq_ok hexpect

end items

/-- A loop over items takes an item or passes over a token, whatever its bound. -/
theorem orSkip_item {n : Nat} (ts : List Placed) (hn : 16 * ts.length + 10 ≤ n) :
    ∃ found, orSkip (item n) ts = .ok (found, afterItem ts) := by
  have hitem : item n ts = item (depth ts.length) ts := by
    have hsettled := (itemReadersSettle (16 * ts.length + 10)).item
    have hdepth : 16 * ts.length + 10 ≤ depth ts.length := by
      simp only [depth]
      omega
    rw [hsettled n ts hn (Nat.le_refl _), hsettled _ ts hdepth (Nat.le_refl _)]
  rw [orSkip, afterItem, hitem]
  rcases item (depth ts.length) ts with e | ⟨_ | found, rest⟩
  · exact ⟨[], rfl⟩
  · exact ⟨[], rfl⟩
  · exact ⟨found, rfl⟩

/-! ## How loops end -/

/-- What a loop over items fails with: a brace that closes nothing, or a block that the text ends
in. -/
def IsBraceError (e : ReadError) : Prop := e.cause = .unexpectedBrace ∨ e.cause = .missingBrace

/-- How a loop over the items of a block ends, read from the braces it stands at: it leaves those
after the one that closes its block, and it fails only where none does. -/
def ClosesBlock (ts : List Placed) : Except ReadError (List Item × List Placed) → Prop
  | .ok (_, rest) => ∀ pending, Closes (pending + 1) (outside ts) ↔ Closes pending (outside rest)
  | .error e => IsBraceError e ∧ ∀ pending, ¬ Closes (pending + 1) (outside ts)

/-- How the loop over the items of a file ends: it reads all of them, and it fails only where the
braces it stands at are not balanced. -/
def ReadsFile (ts : List Placed) : Except ReadError (List Item × List Placed) → Prop
  | .ok _ => Closes 0 (outside ts)
  | .error e => IsBraceError e ∧ ¬ Closes 0 (outside ts)

/-- The braces at which loops stand are the same for `ts` and `rest`, as far as closing goes. -/
def SameBraces (ts rest : List Placed) : Prop :=
  ∀ pending, Closes pending (outside ts) ↔ Closes pending (outside rest)

section ends

variable {ts rest : List Placed} {result : Except ReadError (List Item × List Placed)}

theorem ClosesBlock.of_sameBraces (h : SameBraces ts rest) (hrest : ClosesBlock rest result) :
    ClosesBlock ts result := by
  cases result with
  | error e => exact ⟨hrest.1, fun pending => (not_congr (h _)).2 (hrest.2 pending)⟩
  | ok read => exact fun pending => (h _).trans (hrest pending)

theorem ReadsFile.of_sameBraces (h : SameBraces ts rest) (hrest : ReadsFile rest result) :
    ReadsFile ts result := by
  cases result with
  | error e => exact ⟨hrest.1, (not_congr (h 0)).2 hrest.2⟩
  | ok read => exact (h 0).2 hrest

/-- How a loop over items ends: that of a block if `closing`, else that of a file. -/
def LoopEnds : Bool → List Placed → Except ReadError (List Item × List Placed) → Prop
  | true => ClosesBlock
  | false => ReadsFile

theorem LoopEnds.of_sameBraces {closing : Bool} (h : SameBraces ts rest)
    (hrest : LoopEnds closing rest result) : LoopEnds closing ts result := by
  cases closing with
  | true => exact ClosesBlock.of_sameBraces h hrest
  | false => exact ReadsFile.of_sameBraces h hrest

/-- Either loop fails where the braces are not closed, however many are pending. -/
theorem LoopEnds.of_never {closing : Bool} {e : ReadError} (he : IsBraceError e)
    (hnever : ∀ pending, ¬ Closes pending (outside ts)) : LoopEnds closing ts (.error e) := by
  cases closing with
  | true => exact ⟨he, fun pending => hnever _⟩
  | false => exact ⟨he, hnever 0⟩

end ends

/-- A block that is read closes what it opens; one that is not read is never closed. -/
theorem block_sameBraces {n : Nat} {t : Placed} {ts : List Placed} (hopen : t.is '{')
    (hinside : ClosesBlock ts (items n true [] ts)) :
    (∃ e, block (n + 1) (t :: ts) = .error e ∧ IsBraceError e ∧
      ∀ pending, ¬ Closes pending (outside (t :: ts))) ∨
    ∃ b rest, block (n + 1) (t :: ts) = .ok (b, rest) ∧ rest.length ≤ ts.length ∧
      SameBraces (t :: ts) rest := by
  rw [block_open hopen, bind_apply, outside_open hopen]
  cases hitems : items n true [] ts with
  | error e =>
    rw [hitems] at hinside
    refine .inl ⟨e, rfl, hinside.1, fun pending => ?_⟩
    rw [closes_open hopen]
    exact hinside.2 pending
  | ok read =>
    obtain ⟨inside, rest⟩ := read
    rw [hitems] at hinside
    have hrest := ((itemReadersAdvance n).items true []).length_le hitems
    refine .inr ⟨⟨t.start, inside⟩, rest, rfl, hrest, fun pending => ?_⟩
    rw [outside_open hopen, closes_open hopen]
    exact hinside pending

/-- **A loop over items ends where the braces it stands at say**, whatever its bound. -/
theorem loopEnds_items (ts : List Placed) : ∀ (closing : Bool) (n : Nat) (done : List Item),
    16 * ts.length + 11 ≤ n → LoopEnds closing ts (items n closing done ts) := by
  -- by the number of tokens at hand, since an item may take any number of them
  induction hlen : ts.length using Nat.strongRecOn generalizing ts with
  | _ len ih =>
    subst hlen
    intro closing n done hn
    obtain ⟨n, rfl⟩ : ∃ m, n = m + 1 := ⟨n - 1, by omega⟩
    cases ts with
    | nil =>
      rw [items_nil]
      cases closing with
      | true => exact ⟨.inr rfl, fun pending => by simp [outside, Closes]⟩
      | false => simp [LoopEnds, ReadsFile, outside, Closes]
    | cons t ts =>
      rw [List.length_cons] at hn ih
      by_cases hclose : t.is '}'
      · cases closing with
        | true =>
          rw [items_close hclose]
          intro pending
          rw [outside_close hclose, closes_close hclose]
        | false =>
          rw [items_stray hclose]
          refine ⟨.inl rfl, ?_⟩
          rw [outside_close hclose]
          exact not_closes_zero_close hclose
      by_cases hopen : t.is '{'
      · -- the loop inside the block comes first, then the loop at hand goes on after it
        obtain ⟨n, rfl⟩ : ∃ m, n = m + 1 := ⟨n - 1, by omega⟩
        have hinside := ih ts.length (Nat.lt_succ_self _) ts rfl true n [] (by omega)
        rw [items_open hopen]
        obtain ⟨e, hblock, herror, hnever⟩ | ⟨b, rest, hblock, hrest, hsame⟩ :=
          block_sameBraces hopen hinside
        · rw [bind_apply, hblock]
          exact .of_never herror hnever
        · rw [bind_of_eq_ok hblock]
          refine LoopEnds.of_sameBraces hsame ?_
          exact ih rest.length (by omega) rest rfl closing (n + 1) _ (by omega)
      · obtain ⟨found, hfound⟩ := orSkip_item (n := n) (t :: ts)
          (by rw [List.length_cons]; omega)
        have hlt := length_afterItem_lt t ts
        rw [items_item hopen hclose, bind_of_eq_ok hfound]
        rw [List.length_cons] at hlt
        refine LoopEnds.of_sameBraces (fun pending => ?_)
          (ih _ hlt (afterItem (t :: ts)) rfl closing n _ (by omega))
        rw [outside_item hopen hclose]

end TokenParser

open TokenParser

/-- The items of tokens are read, or one of two braces is missed. -/
theorem SourceFile.ofTokens_braces (size : Nat) (tokens : List Token) :
    ((SourceFile.ofTokens size tokens).isOk ↔ BracesBalanced (outside (Placed.ofTokens tokens))) ∧
      ∀ e, SourceFile.ofTokens size tokens = .error e →
        e.cause = .unexpectedBrace ∨ e.cause = .missingBrace := by
  have hlen : (Placed.ofTokens tokens).length = tokens.length := Placed.length_following none tokens
  have hread : ReadsFile (Placed.ofTokens tokens) _ :=
    loopEnds_items (Placed.ofTokens tokens) false (depth tokens.length) []
      (by simp only [hlen, depth]; omega)
  rw [← closes_zero_iff]
  unfold SourceFile.ofTokens
  rw [StateT.run]
  cases hitems : TokenParser.items (depth tokens.length) false [] (Placed.ofTokens tokens) with
  | ok read =>
    rw [hitems] at hread
    exact ⟨⟨fun _ => hread, fun _ => rfl⟩, fun e he => by cases he⟩
  | error e =>
    rw [hitems] at hread
    refine ⟨⟨fun hok => Bool.noConfusion hok, fun hcloses => absurd hcloses hread.2⟩, ?_⟩
    intro inText he
    cases he
    exact hread.1

/-- **What fails a file.** A text can be read exactly when it can be cut into tokens, the braces of
the tokens are balanced, and so are the braces at which the loops over items stand. Where the first
two hold, a file fails only with a brace that closes nothing or a block that the text ends in. -/
theorem parse_isOk_iff (source : Text) :
    ((SourceFile.parse source).isOk ↔ ∃ tokens, tokenize source = .ok tokens ∧
        BracesBalanced tokens ∧ BracesBalanced (outside (Placed.ofTokens tokens))) ∧
      ∀ tokens e, tokenize source = .ok tokens → BracesBalanced tokens →
        SourceFile.parse source = .error e →
        e.cause = .unexpectedBrace ∨ e.cause = .missingBrace := by
  have hparse : ∀ {tokens}, tokenize source = .ok tokens → BracesBalanced tokens →
      SourceFile.parse source = SourceFile.ofTokens source.size tokens := by
    intro tokens htokens hbraces
    rw [← checkBraces_eq_ok] at hbraces
    simp only [SourceFile.parse, bind, Except.bind, htokens, hbraces]
  refine ⟨⟨fun hok => ?_, ?_⟩, ?_⟩
  · cases hfile : SourceFile.parse source with
    | error e =>
      rw [hfile] at hok
      cases hok
    | ok file =>
      obtain ⟨tokens, htokens, hcheck, hread⟩ := SourceFile.parse_eq_ok.1 hfile
      refine ⟨tokens, htokens, checkBraces_eq_ok.1 hcheck, ?_⟩
      rw [← (SourceFile.ofTokens_braces source.size tokens).1, hread]
      rfl
  · rintro ⟨tokens, htokens, hbraces, houtside⟩
    rw [hparse htokens hbraces]
    exact (SourceFile.ofTokens_braces source.size tokens).1.2 houtside
  · intro tokens e htokens hbraces hfail
    rw [hparse htokens hbraces] at hfail
    exact (SourceFile.ofTokens_braces source.size tokens).2 e hfail

/-- The braces of these tokens are balanced, but the arguments of the attribute take the one that
opens, and the loop meets the one that closes. -/
theorem attribute_arguments_take_brace :
    ¬ ((SourceFile.parse "@f({) let x }".toList).isOk ↔
      ∃ tokens, tokenize "@f({) let x }".toList = .ok tokens ∧ BracesBalanced tokens) := by
  have hfails : (SourceFile.parse "@f({) let x }".toList).isOk = false := by decide +kernel
  have hbalanced : ((tokenize "@f({) let x }".toList).bind checkBraces).isOk := by decide +kernel
  rw [hfails]
  intro h
  refine Bool.false_ne_true (h.2 ?_)
  cases htokens : tokenize "@f({) let x }".toList with
  | error e =>
    rw [htokens] at hbalanced
    cases hbalanced
  | ok tokens =>
    rw [htokens] at hbalanced
    cases hcheck : checkBraces tokens with
    | error e =>
      rw [Except.bind, hcheck] at hbalanced
      cases hbalanced
    | ok u => exact ⟨tokens, rfl, checkBraces_eq_ok.1 hcheck⟩

end SwiftTuples
