import SwiftTuples.Proofs.Parsing.Braces
/-!
# Loops over items, word by word

Where a loop over items stands at the keyword of a declaration, that declaration is read
(`item_of_keyword`). Where it stands at a token that begins nothing, it passes over it, so a run of
such tokens is passed over as a whole (`items_idle`). What has been read so far stands in front of
what is read next (`items_done`), so how far a loop gets can be told step by step (`LoopReads`), and
a file is what its loop read up to some token and what it reads from there on.
-/

namespace SwiftTuples

/-- Words with which an item begins. -/
def itemKeywords : List String :=
  TokenParser.modifiers ++ TokenParser.declarationWords ++ ["as", "is"]

/-- No item begins with the token. -/
structure Placed.Idle (t : Placed) : Prop where
  open_brace : t.is '{' = false
  close_brace : t.is '}' = false
  sign : t.is '@' = false
  word : ∀ word ∈ t.name?, word ∉ itemKeywords

namespace TokenParser

variable {n : Nat} {ts after : List Placed} {t : Placed}

/-! ## Declarations by their keywords -/

/-- The declaration whose keyword is at hand. -/
def declared (n position : Nat) (keyword : String) : TokenParser (Option (List Item)) := do
  if keyword = "let" || keyword = "var" then
    skip 1
    match ← bindings n position with
    | [] => return none
    | found => return some found
  else if keyword = "func" || keyword = "init" || keyword = "subscript" then
    function n position keyword
  else if keyword = "typealias" then typeAlias n position
  else
    match NominalKind.ofKeyword? keyword with
    | some kind => nominal n position kind
    | none => return none

theorem declared_keyword (n position : Nat) (kind : NominalKind) :
    declared n position kind.keyword = nominal n position kind := by
  cases kind <;> rfl

theorem declaration_succ (n : Nat) : declaration (n + 1) = (do
    if ← look fun ts => ts.head?.any (·.afterDot) then return none
    let position ← position
    let _ ← many modifier?
    let keyword := (← look word?).getD ""
    declared n position keyword) := rfl

/-- An attribute begins with its mark. -/
theorem attribute?_of_not (h : t.is '@' = false) :
    attribute? (t :: ts) = .ok (none, t :: ts) := by
  have hlook : (look fun ts => if startsWith '@' ts then word? ts.tail else none) (t :: ts) =
      .ok (none, t :: ts) := by simp [look, startsWith, h]
  exact bind_of_eq_ok hlook

/-- A token other than a modifier has none before it. -/
theorem modifier?_of_not (hattribute : t.is '@' = false)
    (hword : ∀ word ∈ t.name?, word ∉ modifiers ∧ word ≠ "class") :
    modifier? (t :: ts) = .ok (none, t :: ts) := by
  have hlook : look word? (t :: ts) = .ok (t.name?, t :: ts) := rfl
  refine (bind_of_eq_ok (attribute?_of_not hattribute)).trans ((bind_of_eq_ok hlook).trans ?_)
  cases hname : t.name? with
  | none => rfl
  | some word =>
    obtain ⟨hmodifier, hclass⟩ := hword word hname
    have hno : modifiers.contains word = false := by simpa using hmodifier
    simp only [hno, hclass, Bool.false_eq_true, if_false, decide_false, Bool.false_and]
    rfl

/-- The word `class` is no modifier, unless a word of a declaration comes next. -/
theorem modifier?_of_class (hname : t.name? = some "class") (hnext : ¬ startsDeclaration ts) :
    modifier? (t :: ts) = .ok (none, t :: ts) := by
  have hattribute : t.is '@' = false :=
    Token.is_eq_false_of_name? (t := t.toToken) (by simp [hname]) '@'
  have hlook : look word? (t :: ts) = .ok (some "class", t :: ts) := by rw [look, word?, hname]
  have hdeclaration : look (fun ts => startsDeclaration ts.tail) (t :: ts) =
      .ok (false, t :: ts) := by
    simpa [look] using hnext
  refine (bind_of_eq_ok (attribute?_of_not hattribute)).trans ((bind_of_eq_ok hlook).trans ?_)
  exact bind_of_eq_ok hdeclaration

/-- Without modifiers a declaration begins with its keyword. -/
theorem declaration_of_modifier? (hdot : t.afterDot = false)
    (hmodifier : modifier? (t :: ts) = .ok (none, t :: ts)) :
    declaration (n + 1) (t :: ts) = declared n t.start (t.name?.getD "") (t :: ts) := by
  have hlook : look (fun ts => ts.head?.any (·.afterDot)) (t :: ts) = .ok (false, t :: ts) := by
    simp [look, hdot]
  have hposition : position (t :: ts) = .ok (t.start, t :: ts) := rfl
  have hkeyword : look word? (t :: ts) = .ok (t.name?, t :: ts) := rfl
  rw [declaration_succ]
  refine (bind_of_eq_ok hlook).trans ((bind_of_eq_ok hposition).trans ?_)
  exact (bind_of_eq_ok (many_eq_nil hmodifier)).trans (bind_of_eq_ok hkeyword)

theorem declaration_of_not (hdot : t.afterDot = false) (hattribute : t.is '@' = false)
    (hword : ∀ word ∈ t.name?, word ∉ modifiers ∧ word ≠ "class") :
    declaration (n + 1) (t :: ts) = declared n t.start (t.name?.getD "") (t :: ts) :=
  declaration_of_modifier? hdot (modifier?_of_not hattribute hword)

/-! ## Functions -/

/-- A function declaration from the end of its parameters on. -/
def signatureEnd (n position : Nat) (name : String) (parameters : List Parameter) :
    TokenParser (Option (List Item)) := do
  let effects ← effects
  let result ← optionally arrow (typeExpr n)
  let requirements ← whereClause n
  let body ← optionally (look (startsWith '{')) (block n)
  return some [.function position name parameters effects result requirements body]

/-- A function declaration from the end of its name on. -/
def signature (n position : Nat) (name : String) : TokenParser (Option (List Item)) := do
  angles
  if ← eats '(' then
    let parameters ← parameters n
    signatureEnd n position name parameters
  else return none

theorem function_succ (n position : Nat) (keyword : String) :
    function (n + 1) position keyword = (do
      skip 1
      let name ← functionName keyword
      if name = "" then return none
      signature n position name) := rfl

/-- A parenthesis begins the parameters of a function. -/
theorem signature_of_is (h : t.is '(') (n position : Nat) (name : String) (ts : List Placed) :
    signature n position name (t :: ts) = (parameters n >>= signatureEnd n position name) ts := by
  have hlook : look (startsWith '<') (t :: ts) = .ok (false, t :: ts) := by
    simp [look, startsWith, Token.is_eq_false_of_is h (by decide : '(' ≠ '<')]
  have hangles : angles (t :: ts) = .ok ((), t :: ts) := bind_of_eq_ok hlook
  exact (bind_of_eq_ok hangles).trans (bind_of_eq_ok (eats_of_is h))

/-! ## The keyword of an item -/

/-- Neither cast word is at hand. -/
theorem castWord?_of_not (h : ∀ word ∈ t.name?, word ≠ "as" ∧ word ≠ "is") :
    castWord? (t :: ts) = none := by
  have hno : ∀ word, word = "as" ∨ word = "is" → t.isWord word = false := by
    intro word hword
    rw [Token.isWord, decide_eq_false_iff_not]
    intro hkind
    have := h word (by simp [Token.name?, hkind])
    exact hword.elim this.1 this.2
  simp [castWord?, hno]

/-- No word of a declaration begins a cast. -/
theorem castWord?_of_keyword {keyword : String} (hname : t.name? = some keyword)
    (hkeyword : keyword ∈ declarationWords ++ modifiers) : castWord? (t :: ts) = none := by
  have hplain : ∀ word ∈ declarationWords ++ modifiers, word ≠ "as" ∧ word ≠ "is" := by decide
  refine castWord?_of_not fun word hword => ?_
  rw [hname] at hword
  cases hword
  exact hplain keyword hkeyword

/-- A token other than the words of casts begins no cast. -/
theorem item_of_castWord? (hcast : castWord? ts = none) :
    item (n + 1) ts = declaration n ts := by
  have hlook : look castWord? ts = .ok (none, ts) := by rw [look, hcast]
  exact bind_of_eq_ok hlook

/-- **A keyword begins its declaration**, unless it is the name of a member. -/
theorem item_of_keyword {keyword : String} (hname : t.name? = some keyword)
    (hdot : t.afterDot = false) (hmodifier : keyword ∉ modifiers)
    (hother : keyword ∉ ["class", "as", "is"]) :
    item (n + 2) (t :: ts) = declared n t.start keyword (t :: ts) := by
  simp only [List.mem_cons, List.not_mem_nil, or_false, not_or] at hother
  have hword : ∀ word ∈ t.name?, word = keyword := fun word hword =>
    (Option.some.inj (hname.symm.trans hword)).symm
  rw [item_of_castWord? (castWord?_of_not fun word h => hword word h ▸ hother.2),
    declaration_of_not hdot (Token.is_eq_false_of_name? (t := t.toToken) (by simp [hname]) '@')
      fun word h => hword word h ▸ ⟨hmodifier, hother.1⟩, hname]
  rfl

/-- Every keyword of a declaration does, and `class` where it is no modifier. -/
theorem item_of_declarationWord {keyword : String} (hname : t.name? = some keyword)
    (hdot : t.afterDot = false) (hkeyword : keyword ∈ declarationWords)
    (hnext : keyword = "class" → ¬ startsDeclaration ts) :
    item (n + 2) (t :: ts) = declared n t.start keyword (t :: ts) := by
  by_cases hclass : keyword = "class"
  · subst hclass
    rw [item_of_castWord? (castWord?_of_keyword hname (by decide)),
      declaration_of_modifier? hdot (modifier?_of_class hname (hnext rfl)), hname]
    rfl
  · have hplain : ∀ word ∈ declarationWords, word ∉ modifiers ∧
        (word ≠ "class" → word ∉ ["class", "as", "is"]) := by decide
    obtain ⟨hmodifier, hother⟩ := hplain keyword hkeyword
    exact item_of_keyword hname hdot hmodifier (hother hclass)

/-- The word `func` begins a function declaration, unless it is the name of a member. -/
theorem item_of_func (hkeyword : t.isWord "func") (hdot : t.afterDot = false) :
    item (n + 2) (t :: ts) = function n t.start "func" (t :: ts) := by
  have hname : t.name? = some "func" := by
    have hkind : t.kind = .ident "func" := by simpa [Token.isWord] using hkeyword
    simp [Token.name?, hkind]
  exact item_of_keyword hname hdot (by decide) (by decide)

/-! ## Tokens that are passed over -/

/-- A word that is no keyword declares nothing. -/
theorem declared_of_not {keyword : String} (h : keyword ∉ declarationWords) (n position : Nat)
    (ts : List Placed) : declared n position keyword ts = .ok (none, ts) := by
  simp only [declarationWords, List.mem_cons, List.not_mem_nil, or_false, not_or] at h
  have hkind : NominalKind.ofKeyword? keyword = none := by
    simp [NominalKind.ofKeyword?, NominalKind.all, NominalKind.keyword, h, Ne.symm]
  unfold declared
  simp only [h, hkind, decide_false, Bool.or_self, Bool.false_eq_true, if_false]
  rfl

/-- **A token with which no item begins is passed over**, whatever follows it. -/
theorem orSkip_idle (h : t.Idle) (n : Nat) (ts : List Placed) :
    orSkip (item n) (t :: ts) = .ok ([], ts) := by
  have hword : ∀ word ∈ t.name?, word ∉ modifiers ∧ word ∉ declarationWords ∧
      word ≠ "as" ∧ word ≠ "is" := by
    intro word hname
    have hno := h.word word hname
    simpa [itemKeywords, and_assoc] using hno
  have hcast : castWord? (t :: ts) = none :=
    castWord?_of_not fun word hname => (hword word hname).2.2
  cases n with
  | zero => rfl
  | succ n =>
    rw [orSkip, item_of_castWord? hcast]
    cases n with
    | zero => rfl
    | succ n =>
      have hnone : declaration (n + 1) (t :: ts) = .ok (none, t :: ts) := by
        by_cases hdot : t.afterDot
        · have hlook : look (fun ts => ts.head?.any (·.afterDot)) (t :: ts) =
              .ok (true, t :: ts) := by
            simp [look, hdot]
          exact bind_of_eq_ok hlook
        · rw [declaration_of_not (by simpa using hdot) h.sign fun word hname =>
            ⟨(hword word hname).1, by
              rintro rfl
              exact absurd (by decide) (hword _ hname).2.1⟩]
          refine declared_of_not ?_ _ _ _
          cases hname : t.name? with
          | none => decide
          | some word => exact (hword word hname).2.1
      rw [hnone]
      rfl

theorem afterItem_idle (h : t.Idle) (ts : List Placed) : afterItem (t :: ts) = ts := by
  obtain ⟨found, hskip⟩ := orSkip_item (t :: ts) (Nat.le_refl _)
  rw [orSkip_idle h] at hskip
  exact (Prod.mk.inj (Except.ok.inj hskip)).2.symm

/-- Loops stand at all braces of tokens with which no item begins. -/
theorem closes_outside (h : ∀ t ∈ ts, t.is '{' ∨ t.is '}' ∨ t.Idle) (pending : Nat) :
    Closes pending (outside ts) ↔ Closes pending (ts.map (·.toToken)) := by
  induction ts generalizing pending with
  | nil => rw [outside, List.map_nil]
  | cons t ts ih =>
    rw [List.forall_mem_cons] at h
    rw [List.map_cons]
    by_cases hopen : t.is '{'
    · rw [outside_open hopen, closes_open hopen, closes_open hopen, ih h.2]
    by_cases hclose : t.is '}'
    · rw [outside_close hclose]
      cases pending with
      | zero => exact iff_of_false (not_closes_zero_close hclose) (not_closes_zero_close hclose)
      | succ pending => rw [closes_close hclose, closes_close hclose, ih h.2]
    · have hidle : t.Idle := (h.1.resolve_left hopen).resolve_left hclose
      rw [outside_item hopen hclose, afterItem_idle hidle, Closes, if_neg hopen, if_neg hclose,
        ih h.2]

section loops

variable {closing : Bool} {done : List Item}

/-- A loop that reads something goes on after it. -/
theorem items_of_item {more rest : List Placed} {found : List Item} (hopen : ¬ t.is '{')
    (hclose : ¬ t.is '}') (hitem : item n (t :: more) = .ok (some found, rest)) :
    items (n + 1) closing done (t :: more) = items n closing (found.reverse ++ done) rest := by
  have hskip : orSkip (item n) (t :: more) = .ok (found, rest) := by rw [orSkip, hitem]
  rw [items_item hopen hclose, bind_of_eq_ok hskip]

/-- **A run of tokens with which no item begins is passed over.** -/
theorem items_idle (h : ∀ t ∈ ts, t.Idle) (n : Nat) (after : List Placed) :
    items (n + ts.length) closing done (ts ++ after) = items n closing done after := by
  induction ts with
  | nil => rfl
  | cons t ts ih =>
    rw [List.forall_mem_cons] at h
    rw [List.cons_append, List.length_cons, ← Nat.add_assoc,
      items_item (by simp [h.1.open_brace]) (by simp [h.1.close_brace]),
      bind_of_eq_ok (orSkip_idle h.1 _ _)]
    exact ih h.2

/-- **What has been read stands in front of what is read next.** -/
theorem items_done (n : Nat) (closing : Bool) (done : List Item) (ts : List Placed) :
    items n closing done ts =
      (items n closing [] ts).map fun read => (done.reverse ++ read.1, read.2) := by
  induction n generalizing done ts with
  | zero => rfl
  | succ n ih =>
    cases ts with
    | nil =>
      rw [items_nil, items_nil]
      cases closing <;> simp [Except.map]
    | cons t ts =>
      by_cases hclose : t.is '}'
      · cases closing with
        | true => simp [items_close hclose, Except.map]
        | false => simp [items_stray hclose, Except.map]
      by_cases hopen : t.is '{'
      · rw [items_open hopen, items_open hopen, bind_apply, bind_apply]
        cases block n (t :: ts) with
        | error e => rfl
        | ok read =>
          rw [Except.bind, Except.bind, ih (.block read.1 :: done), ih [.block read.1]]
          cases items n closing [] read.2 <;> simp [Except.map]
      · rw [items_item hopen hclose, items_item hopen hclose, bind_apply, bind_apply]
        cases orSkip (item n) (t :: ts) with
        | error e => rfl
        | ok read =>
          rw [Except.bind, Except.bind, ih (read.1.reverse ++ done), ih (read.1.reverse ++ [])]
          cases items n closing [] read.2 <;> simp [Except.map]

/-- The bound of a loop does not matter where it covers the tokens. -/
theorem items_eq {m : Nat} (hn : 16 * ts.length + 11 ≤ n) (hm : 16 * ts.length + 11 ≤ m) :
    items n closing done ts = items m closing done ts :=
  ((itemReadersSettle _).items closing done).eq (Nat.le_refl _) hn hm

end loops

end TokenParser

open TokenParser

/-! ## Loops that get somewhere -/

/-- A loop over items that stands at `ts` reads `found` and goes on at `after`, in a file as in a
block. -/
def LoopReads (ts : List Placed) (found : List Item) (after : List Placed) : Prop :=
  ∀ ⦃n m closing done⦄, 16 * ts.length + 11 ≤ n → 16 * after.length + 11 ≤ m →
    items n closing done ts = items m closing (found.reverse ++ done) after

namespace LoopReads

variable {ts us after : List Placed} {found more : List Item}

/-- A loop is where it is. -/
theorem refl (ts : List Placed) : LoopReads ts [] ts := fun _ _ _ _ hn hm => items_eq hn hm

/-- Where a loop gets to, it goes on. -/
theorem trans (h : LoopReads ts found us) (hmore : LoopReads us more after) :
    LoopReads ts (found ++ more) after := by
  intro n m closing done hn hm
  rw [h hn (Nat.le_refl _), hmore (Nat.le_refl _) hm, List.reverse_append, List.append_assoc]

/-- A loop reads what the reader of items does, if no brace is at hand. -/
theorem of_item {t : Placed} (hopen : ¬ t.is '{') (hclose : ¬ t.is '}')
    (hitem : ∀ n, 16 * (t :: ts).length + 10 ≤ n → item n (t :: ts) = .ok (some found, after))
    (hlen : after.length ≤ ts.length) : LoopReads (t :: ts) found after := by
  intro n m closing done hn hm
  obtain ⟨n, rfl⟩ : ∃ k, n = k + 1 := ⟨n - 1, by omega⟩
  rw [items_of_item hopen hclose (hitem n (by omega))]
  exact items_eq (by simp only [List.length_cons] at hn; omega) hm

/-- A loop passes over tokens with which no item begins. -/
theorem of_idle (h : ∀ t ∈ ts, t.Idle) (after : List Placed) :
    LoopReads (ts ++ after) [] after := by
  intro n m closing done hn hm
  simp only [List.length_append] at hn
  obtain ⟨n, rfl⟩ : ∃ k, n = k + ts.length := ⟨n - ts.length, by omega⟩
  rw [items_idle h]
  exact items_eq (by omega) hm

/-- **A file is what its loop has read up to some token and what it reads from there on.** -/
theorem parse_eq_ok {source : Text} {tokens : List Token} {file : SourceFile}
    (h : LoopReads (Placed.ofTokens tokens) found after) (htokens : tokenize source = .ok tokens) :
    SourceFile.parse source = .ok file ↔ checkBraces tokens = .ok () ∧
      ∃ others rest, items (depth after.length) false [] after = .ok (others, rest) ∧
        file.items = found ++ others := by
  have hread : items (depth tokens.length) false [] (Placed.ofTokens tokens) =
      (items (depth after.length) false [] after).map fun read => (found ++ read.1, read.2) := by
    have hlen : (Placed.ofTokens tokens).length = tokens.length := Placed.length_following _ _
    rw [h (by simp only [depth]; omega) (by simp only [depth]; omega : 16 * after.length + 11 ≤
      depth after.length), items_done]
    simp
  rw [SourceFile.parse_eq_ok]
  constructor
  · rintro ⟨tokens', htokens', hbraces, hfile⟩
    obtain rfl : tokens = tokens' := Except.ok.inj (htokens.symm.trans htokens')
    refine ⟨hbraces, ?_⟩
    rw [SourceFile.ofTokens, StateT.run, hread] at hfile
    cases hafter : items (depth after.length) false [] after with
    | error e =>
      rw [hafter] at hfile
      cases hfile
    | ok read =>
      rw [hafter] at hfile
      cases hfile
      exact ⟨read.1, read.2, rfl, rfl⟩
  · rintro ⟨hbraces, others, rest, hafter, hfile⟩
    refine ⟨tokens, htokens, hbraces, ?_⟩
    rw [SourceFile.ofTokens, StateT.run, hread, hafter]
    simp [Except.map, ← hfile]

/-- Such a file can be read if its braces are balanced, and those at which loops stand from there
on. -/
theorem parse_isOk {source : Text} {tokens : List Token}
    (h : LoopReads (Placed.ofTokens tokens) found after) (htokens : tokenize source = .ok tokens) :
    (SourceFile.parse source).isOk ↔ BracesBalanced tokens ∧ BracesBalanced (outside after) := by
  have hread : LoopEnds false after (items (depth after.length) false [] after) :=
    loopEnds_items after false _ [] (by simp only [depth]; omega)
  rw [← checkBraces_eq_ok, ← closes_zero_iff]
  constructor
  · intro hok
    cases hfile : SourceFile.parse source with
    | error e =>
      rw [hfile] at hok
      cases hok
    | ok file =>
      obtain ⟨hbraces, others, rest, hafter, -⟩ := (h.parse_eq_ok htokens).1 hfile
      rw [hafter] at hread
      exact ⟨hbraces, hread⟩
  · rintro ⟨hbraces, hcloses⟩
    cases hafter : items (depth after.length) false [] after with
    | error e =>
      rw [hafter] at hread
      exact absurd hcloses hread.2
    | ok read =>
      have hfile : SourceFile.parse source = .ok ⟨found ++ read.1⟩ :=
        (h.parse_eq_ok htokens).2 ⟨hbraces, read.1, read.2, hafter, rfl⟩
      rw [hfile]
      rfl

end LoopReads

end SwiftTuples
