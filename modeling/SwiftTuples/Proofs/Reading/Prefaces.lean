import SwiftTuples.Proofs.Printing.RoundTrip
import SwiftTuples.Proofs.Reading.Specifiers
/-!
# Attributes and modifiers before a declaration

Attributes and modifiers may stand before a declaration in any number, each with arguments of its
own. The reader passes over them one by one (`many_modifier?_of_preface`) and goes on at the
declaration, where it asks for nothing that stands before. So it reads what it reads without them,
and only the place where it found the declaration is another: that of the first attribute or
modifier (`item_of_preface`).

What is passed over is a `Preface`. Its last token is a name or a parenthesis, so what comes after
it is never the name of a member. The word `class` is not in it: a modifier in front of another word
of a declaration, it begins a declaration of its own elsewhere, and which of both it is the reader
asks of what comes next.
-/

namespace SwiftTuples

open TokenParser

/-! ## Prefaces -/

/-- Attributes and modifiers one after the other, each with balanced arguments or none. -/
inductive Preface : List Placed → Prop
  | nil : Preface []
  | signed {sign word : Placed} {name : String} {given more : List Placed}
      (marked : sign.is '@') (named : word.name? = some name)
      (arguments : BalancedArguments given ∨ given = []) (rest : Preface more) :
      Preface (sign :: word :: (given ++ more))
  | modifier {word : Placed} {name : String} {given more : List Placed}
      (named : word.name? = some name) (modifying : name ∈ modifiers)
      (arguments : BalancedArguments given ∨ given = []) (rest : Preface more) :
      Preface (word :: (given ++ more))

/-- The last of balanced arguments is the parenthesis that closes them. -/
theorem BalancedArguments.getLast {ts : List Placed} (h : BalancedArguments ts) :
    ∃ t ∈ ts.getLast?, t.is ')' := by
  obtain ⟨hopens, hcloses, hwithin, -⟩ := h
  rcases List.eq_nil_or_concat' ts with rfl | ⟨before, t, rfl⟩
  · cases hopens
  refine ⟨t, by simp, ?_⟩
  by_contra hclose
  simp only [List.countP_append, List.countP_singleton, hclose, if_false] at hcloses
  by_cases hbefore : before = []
  · subst hbefore
    have hopen : t.is '(' := (Bool.and_eq_true_iff.1 hopens).1
    simp [hopen] at hcloses
  · -- no more is closed than before the last token, where something is still open
    have hlt := hwithin before (by simp [List.mem_inits]) hbefore (by simp)
    omega

namespace Preface

/-- A name with balanced arguments or none ends with a name or with a parenthesis. -/
theorem getLast_of_given {word : Placed} {given more : List Placed} (named : word.name?.isSome)
    (arguments : BalancedArguments given ∨ given = [])
    (hmore : ∀ t ∈ more.getLast?, t.name?.isSome ∨ t.is ')') :
    ∀ t ∈ (word :: (given ++ more)).getLast?, t.name?.isSome ∨ t.is ')' := by
  intro t ht
  rw [List.getLast?_cons, Option.mem_some, List.getLast?_append] at ht
  cases hlast : more.getLast? with
  | some u =>
    obtain rfl : u = t := by simpa [hlast] using ht
    exact hmore u hlast
  | none =>
    rcases arguments with hbalanced | rfl
    · obtain ⟨u, hu, hclose⟩ := hbalanced.getLast
      obtain rfl : u = t := by simpa [hlast, Option.mem_def.1 hu] using ht
      exact .inr hclose
    · obtain rfl : word = t := by simpa [hlast] using ht
      exact .inl named

variable {ps ts : List Placed} (h : Preface ps)
include h

/-- A preface begins with a mark or with a modifier. -/
theorem head_cases : ∀ t ∈ ps.head?, t.is '@' ∨ ∃ name ∈ modifiers, t.name? = some name := by
  cases h with
  | nil => simp
  | signed marked => simpa using .inl marked
  | modifier named modifying =>
    intro t ht
    cases ht
    exact .inr ⟨_, modifying, named⟩

/-- A preface ends with a name or with a parenthesis. -/
theorem getLast_cases : ∀ t ∈ ps.getLast?, t.name?.isSome ∨ t.is ')' := by
  induction h with
  | nil => simp
  | signed _ named arguments _ ih =>
    rw [List.getLast?_cons_cons]
    exact getLast_of_given (by simp [named]) arguments ih
  | modifier named _ arguments _ ih => exact getLast_of_given (by simp [named]) arguments ih

/-- No parenthesis is in touch with what stands before a preface. -/
theorem not_startsTouching (hts : ¬ startsTouching '(' ts) : ¬ startsTouching '(' (ps ++ ts) := by
  cases ps with
  | nil => exact hts
  | cons t ps =>
    have hno : t.is '(' = false := by
      rcases h.head_cases t rfl with hsign | ⟨name, -, hname⟩
      · exact Token.is_eq_false_of_is hsign (by decide)
      · exact Token.is_eq_false_of_name? (t := t.toToken) (by simp [hname]) '('
    simp [startsTouching, hno]

/-- A preface begins no cast. -/
theorem castWord? (hts : castWord? ts = none) : castWord? (ps ++ ts) = none := by
  cases ps with
  | nil => exact hts
  | cons t ps =>
    rcases h.head_cases t rfl with hsign | ⟨name, hname, hword⟩
    · exact castWord?_of_not fun word hword => by simp [Token.name?_of_is hsign] at hword
    · exact castWord?_of_keyword hword (List.mem_append_right _ hname)

end Preface

/-! ## What is passed over -/

namespace TokenParser

variable {α β : Type} {ts rest given : List Placed}

/-- What is found first is passed over by whatever passes over all that can be found. -/
theorem many_bind_of_some {step : TokenParser (Option α)} (hstep : AdvancesIfFound step)
    (hnil : step [] = .ok (none, [])) {a : α} (h : step ts = .ok (some a, rest))
    (q : TokenParser β) : (many step >>= fun _ => q) ts = (many step >>= fun _ => q) rest := by
  have hlt := hstep.length_lt h
  obtain ⟨n, hn⟩ : ∃ n, ts.length = n + 1 := ⟨ts.length - 1, by omega⟩
  have hmany : many step ts = (collect step n >>= fun others => pure (a :: others)) rest := by
    rw [many, hn]
    exact bind_of_eq_ok h
  have hrest : collect step n rest = many step rest :=
    collect_eq hstep hnil (Nat.le_refl _) (by omega)
  rw [bind_apply, bind_apply, hmany, bind_apply, hrest]
  cases many step rest <;> rfl

theorem modifier?_of_attribute {sign word : Placed} {name : String} (marked : sign.is '@')
    (named : word.name? = some name)
    (after : BalancedArguments given ∨ given = [] ∧ ¬ startsTouching '(' rest) :
    modifier? (sign :: word :: (given ++ rest)) = .ok (some (), rest) :=
  bind_of_eq_ok (attribute?_of_is marked named after)

theorem modifier?_of_word {word : Placed} {name : String} (named : word.name? = some name)
    (modifying : name ∈ modifiers)
    (after : BalancedArguments given ∨ given = [] ∧ ¬ startsTouching '(' rest) :
    modifier? (word :: (given ++ rest)) = .ok (some (), rest) := by
  have hsign : word.is '@' = false :=
    Token.is_eq_false_of_name? (t := word.toToken) (by simp [named]) '@'
  have hlook : look word? (word :: (given ++ rest)) = .ok (some name, word :: (given ++ rest)) := by
    rw [look, word?, named]
  refine (bind_of_eq_ok (attribute?_of_not hsign)).trans ((bind_of_eq_ok hlook).trans ?_)
  have hmem : modifiers.contains name := List.contains_iff_mem.2 modifying
  have hskip : skip 1 (word :: (given ++ rest)) = .ok ((), given ++ rest) := rfl
  simp only [hmem, if_true]
  exact (bind_of_eq_ok hskip).trans (bind_of_eq_ok (arguments_of_given after))

/-- **A preface is passed over**, whatever is read after it. -/
theorem many_modifier?_of_preface {ps : List Placed} (h : Preface ps)
    (hts : ¬ startsTouching '(' ts) (q : TokenParser β) :
    (many modifier? >>= fun _ => q) (ps ++ ts) = (many modifier? >>= fun _ => q) ts := by
  have hgiven : ∀ {given more : List Placed}, Preface more →
      BalancedArguments given ∨ given = [] →
      BalancedArguments given ∨ given = [] ∧ ¬ startsTouching '(' (more ++ ts) :=
    fun hmore => Or.imp_right fun hnil => ⟨hnil, hmore.not_startsTouching hts⟩
  have hpass := fun {us rest : List Placed} (hus : modifier? us = .ok (some (), rest)) =>
    many_bind_of_some advancesIfFound_modifier? rfl hus q
  induction h with
  | nil => rfl
  | signed marked named arguments more ih =>
    rw [List.cons_append, List.cons_append, List.append_assoc,
      hpass (modifier?_of_attribute marked named (hgiven more arguments))]
    exact ih
  | modifier named modifying arguments more ih =>
    rw [List.cons_append, List.append_assoc,
      hpass (modifier?_of_word named modifying (hgiven more arguments))]
    exact ih

end TokenParser

/-! ## Where a declaration starts -/

namespace Item

/-- The item at another place. What is inside it stays where it is. -/
def startingAt (start : Nat) : Item → Item
  | block b => block { b with position := start }
  | «variable» _ binder type => «variable» start binder type
  | function _ name parameters effects result requirements body =>
    function start name parameters effects result requirements body
  | nominal _ kind name inherits requirements members =>
    nominal start kind name inherits requirements members
  | «alias» _ name target => «alias» start name target
  | cast _ operator target => cast start operator target

/-- A declaration; casts and blocks are none. -/
def isDeclaration : Item → Bool
  | block _ | cast .. => false
  | _ => true

end Item

namespace TokenParser

section places

variable (start n position : Nat)

theorem map_ite {α β : Type} {c : Prop} [Decidable c] (f : α → β) (p q : TokenParser α) :
    (f <$> if c then p else q) = if c then f <$> p else f <$> q :=
  apply_ite (f <$> ·) c p q

theorem bindings_startingAt :
    bindings n start = List.map (Item.startingAt start) <$> bindings n position := by
  induction n with
  | zero => rfl
  | succ n ih =>
    simp only [bindings, map_bind]
    refine congrArg (_ >>= ·) (funext fun binder => ?_)
    cases binder with
    | none => rfl
    | some binder =>
      simp only [map_bind, map_ite, map_pure, ih, bind_map_left]
      rfl

theorem signature_startingAt (name : String) : signature n start name =
    Option.map (List.map (Item.startingAt start)) <$> signature n position name := by
  simp only [signature, signatureEnd, map_bind, map_ite, map_pure]
  rfl

theorem function_startingAt (keyword : String) : function n start keyword =
    Option.map (List.map (Item.startingAt start)) <$> function n position keyword := by
  cases n with
  | zero => rfl
  | succ n =>
    rw [function_succ, function_succ]
    simp only [map_bind, map_ite, ← signature_startingAt start n position]
    rfl

theorem typeAlias_startingAt : typeAlias n start =
    Option.map (List.map (Item.startingAt start)) <$> typeAlias n position := by
  simp only [typeAlias, map_bind]
  refine congrArg (_ >>= ·) (funext fun _ => congrArg (_ >>= ·) (funext fun name => ?_))
  cases name with
  | none => rfl
  | some name =>
    simp only [map_bind, map_ite, map_pure]
    rfl

theorem nominal_startingAt (kind : NominalKind) : nominal n start kind =
    Option.map (List.map (Item.startingAt start)) <$> nominal n position kind := by
  cases n with
  | zero => rfl
  | succ n =>
    simp only [nominal, map_bind, map_ite, map_pure]
    rfl

/-- **A declaration is read alike wherever it is said to start.** -/
theorem declared_startingAt (keyword : String) : declared n start keyword =
    Option.map (List.map (Item.startingAt start)) <$> declared n position keyword := by
  simp only [declared, map_bind, map_ite]
  refine if_congr Iff.rfl ?_ (if_congr Iff.rfl (function_startingAt start n position keyword)
    (if_congr Iff.rfl (typeAlias_startingAt start n position) ?_))
  · rw [bindings_startingAt start n position]
    simp only [bind_map_left]
    refine congrArg (_ >>= ·) (funext fun _ => congrArg (_ >>= ·) (funext fun found => ?_))
    cases found <;> rfl
  · cases NominalKind.ofKeyword? keyword with
    | none => rfl
    | some kind => exact nominal_startingAt start n position kind

/-- Of the keyword of a declaration only the word matters. -/
theorem declared_cons {keyword : String} (h : keyword ∈ declarationWords) (t u : Placed)
    (ts : List Placed) :
    declared (n + 1) position keyword (t :: ts) = declared (n + 1) position keyword (u :: ts) := by
  simp only [declarationWords, List.mem_cons, List.not_mem_nil, or_false] at h
  rcases h with rfl | rfl | rfl | rfl | rfl | rfl | rfl | rfl | rfl | rfl | rfl | rfl <;> rfl

end places

/-- What is answered with is mapped, and the tokens left are the same. -/
theorem map_apply {α β : Type} (f : α → β) (p : TokenParser α) (ts : List Placed) :
    (f <$> p) ts = (p ts).map fun read => (f read.1, read.2) := by
  rw [← bind_pure_comp, bind_apply]
  cases p ts <;> rfl

/-- What a reader of items found, if it found something, with all of it starting at `start`. -/
def foundAt (start : Nat) (read : Option (List Item) × List Placed) :
    Option (List Item) × List Placed :=
  (read.1.map (·.map (·.startingAt start)), read.2)

/-- **Attributes and modifiers are transparent to the reader of items.** -/
theorem item_of_preface {ps ts others : List Placed} {first : Placed} (h : Preface ps)
    (htokens : ps ++ ts = first :: others) (hfirst : first.afterDot = false)
    (hdot : ¬ ts.head?.any (·.afterDot)) (hcast : castWord? ts = none)
    (htouching : ¬ startsTouching '(' ts) (n : Nat) :
    item (n + 2) (first :: others) = (item (n + 2) ts).map (foundAt first.start) := by
  have hcast' := h.castWord? hcast
  rw [htokens] at hcast'
  rw [item_of_castWord? hcast', item_of_castWord? hcast]
  -- what does not start after a dot is read behind its modifiers
  have hread : ∀ us : List Placed, ¬ us.head?.any (·.afterDot) →
      declaration (n + 1) us = (many modifier? >>= fun _ => look word? >>= fun word =>
        declared n ((us.head?.map (·.start)).getD 0) (word.getD "")) us := by
    intro us hus
    have hlook : look (fun ts => ts.head?.any (·.afterDot)) us = .ok (false, us) := by
      simpa [look] using hus
    rw [declaration_succ]
    exact (bind_of_eq_ok hlook).trans (bind_of_eq_ok rfl)
  rw [hread (first :: others) (by simp [hfirst]), hread ts hdot, ← htokens,
    many_modifier?_of_preface h htouching, htokens]
  simp only [declared_startingAt first.start n ((ts.head?.map (·.start)).getD 0), List.head?_cons,
    Option.map_some, Option.getD_some, ← map_bind]
  exact map_apply _ _ _

/-- What starts a declaration starts no cast and is no parenthesis. -/
theorem not_of_startsDeclaration {ts : List Placed} (h : startsDeclaration ts) :
    castWord? ts = none ∧ ¬ startsTouching '(' ts := by
  cases ts with
  | nil => cases h
  | cons t ts =>
    have hword : ∃ name, t.name? = some name ∧ name ∈ declarationWords ++ modifiers := by
      simpa [startsDeclaration, word?, Option.any_eq_true] using h
    obtain ⟨name, hname, hmem⟩ := hword
    have hno := Token.is_eq_false_of_name? (t := t.toToken) (by simp [hname])
    exact ⟨castWord?_of_keyword hname hmem, by simp [startsTouching, hno]⟩

end TokenParser

/-! ## Canonical declarations -/

namespace Item

/-- A canonical item other than a block is read in one step. -/
theorem Canonical.readAtOnce {i : Item} (h : i.Canonical) (hblock : ¬ i.isBlock) :
    i.ReadAtOnce := by
  cases h with
  | block => exact absurd rfl hblock
  | «variable» plain canonical => exact readAtOnce_variable plain canonical
  | function plain parameters result requirements inside apart =>
    exact readAtOnce_function parameters result requirements
      (fun b hb i hi => (inside b hb i hi).readBack) apart plain
  | nominal plain inherits requirements inside apart =>
    exact readAtOnce_nominal plain inherits requirements (fun i hi => (inside i hi).readBack) apart
  | «alias» plain canonical => exact readAtOnce_alias plain canonical
  | cast canonical => exact readAtOnce_cast canonical

/-- The tokens of a canonical item other than a block are read in one step, whatever the bound. -/
theorem Canonical.item_eq_ok {i : Item} (h : i.Canonical) (hblock : ¬ i.isBlock) {ts : List Placed}
    (written : Written i.glyphs ts) : ∃ found : Item, found.unplaced = i.unplaced ∧
      ∀ n, 16 * ts.length + 10 ≤ n → item n ts = .ok (some [found], []) := by
  have hlen := written.length_eq
  have hread : Reads (item (16 * ts.length + 10)) (i.glyphs ++ [])
      (fun found => found.map (·.map unplaced) = some [i.unplaced]) [] :=
    h.readAtOnce hblock (fun _ hg => by cases hg) (fun _ _ hg => by cases hg)
      (by simp only [List.length_nil]; omega)
  rw [List.append_nil] at hread
  obtain ⟨_, _, hitem, hfound, ⟨⟩⟩ := hread written
  obtain ⟨_, rfl, hsame⟩ := Option.map_eq_some_iff.1 hfound
  obtain ⟨found, rfl, hsame'⟩ := List.map_eq_singleton_iff.1 hsame
  refine ⟨found, hsame', fun n hn => ?_⟩
  rw [← hitem]
  exact (itemReadersSettle _).item.eq (Nat.le_refl _) hn (Nat.le_refl _)

/-- A canonical declaration begins with its keyword and a plain name. -/
theorem Canonical.begins_declaration {i : Item} (h : i.Canonical) (hdeclares : i.isDeclaration) :
    ∃ keyword ∈ declarationWords, ∃ name gs, IsPlainName name ∧
      i.glyphs = (Glyph.word keyword).onLine :: .word name :: gs := by
  cases h with
  | block | cast => cases hdeclares
  | «variable» plain => exact ⟨"let", by decide, _, _, plain, by rw [glyphs]; rfl⟩
  | function plain => exact ⟨"func", by decide, _, _, plain, glyphs_function ..⟩
  | «alias» plain => exact ⟨"typealias", by decide, _, _, plain, by rw [glyphs]⟩
  | @nominal _ kind name _ _ _ plain =>
    obtain ⟨part, parts, hparts⟩ := List.exists_cons_of_ne_nil (nameParts_ne_nil name)
    have hpart : IsPlainName part := plain part (by rw [hparts]; exact List.mem_cons_self)
    rw [glyphs, hparts, dottedGlyphs]
    exact ⟨kind.keyword, by cases kind <;> decide, part, _, hpart, rfl⟩

end Item

/-- A plain name is no word of a declaration. -/
theorem IsPlainName.not_startsDeclaration {name : String} (h : IsPlainName name) {ts : List Placed}
    (hts : word? ts = some name) : ¬ startsDeclaration ts := by
  have hfree := h.free
  simp only [reservedWords, List.mem_append, not_or] at hfree
  simp [startsDeclaration, hts, hfree]

/-- A canonical declaration is read from its keyword on, whatever the layout of the keyword is. -/
theorem Item.Canonical.item_of_written {i : Item} (h : i.Canonical) (hdeclares : i.isDeclaration)
    {t : Placed} {ts : List Placed} (written : Written i.glyphs (t :: ts)) :
    ∃ keyword ∈ declarationWords, t.name? = some keyword ∧
      ∀ {u : Placed} {us : List Placed}, u.kind = t.kind → u.afterDot = false →
        word? us = word? ts → ∀ n,
          item (n + 2) (u :: us) = declared n u.start keyword (u :: us) := by
  obtain ⟨keyword, hkeyword, name, gs, plain, hglyphs⟩ := h.begins_declaration hdeclares
  rw [hglyphs] at written
  rcases written with _ | ⟨first, _ | ⟨second, more⟩⟩
  have hname : t.name? = some keyword := by
    simp [Token.name?, first.kind, Glyph.word, Glyph.onLine]
  refine ⟨keyword, hkeyword, hname, fun hkind hdot hword n =>
    item_of_declarationWord ?_ hdot hkeyword fun _ => plain.not_startsDeclaration ?_⟩
  · rw [← hname, Token.name?, Token.name?, hkind]
  · rw [hword]
    simp [word?, Token.name?, second.kind, Glyph.word]

/-! ## Files -/

/-- The token `k` bytes further on. -/
def Token.shift (k : Nat) (t : Token) : Token := { t with start := t.start + k, stop := t.stop + k }

/-- What is shifted as a whole keeps its layout. -/
theorem sameLayout_shift (k : Nat) (ts : List Token) : SameLayout ts (ts.map (·.shift k)) where
  length := List.length_map _
  kind i _ _ := by simp [Token.shift]
  newlineBefore i _ _ := by simp [Token.shift]
  touching i _ _ := by simp [Token.shift]

theorem Placed.following_append (before : Option Token) (ts us : List Token) :
    following before (ts ++ us) = following before ts ++ following (ts.getLast?.or before) us := by
  induction ts generalizing before with
  | nil => rfl
  | cons t ts ih =>
    rw [List.cons_append, following, following, ih, List.getLast?_cons]
    cases ts.getLast? <;> rfl

/-- Braces that match go on matching behind tokens other than braces. -/
theorem checkBraces_append {before ts us : List Token}
    (hbefore : ∀ t ∈ before, ¬ t.is '{' ∧ ¬ t.is '}')
    (hkinds : List.Forall₂ (fun t u => u.kind = t.kind) ts us) (hts : checkBraces ts = .ok ()) :
    checkBraces (before ++ us) = .ok () := by
  have hus : matchBraces [] us = .ok () := by
    have halike : ReadAlike id (checkBraces ts) (matchBraces [] us) := matchBraces_alike hkinds rfl
    rw [hts] at halike
    cases hmatch : matchBraces [] us with
    | error e =>
      rw [hmatch] at halike
      exact halike.elim
    | ok => rfl
  rw [checkBraces]
  induction before with
  | nil => exact hus
  | cons t before ih =>
    rw [List.forall_mem_cons] at hbefore
    rw [List.cons_append,
      matchBraces_cons (by simpa using hbefore.1.1) (by simpa using hbefore.1.2)]
    exact ih hbefore.2

/-- What is noted on tokens of the token before them is where it ends and whether it is a dot. -/
theorem Placed.following_congr {before before' : Token} (hkind : before.kind = before'.kind)
    (hstop : before.stop = before'.stop) (tokens : List Token) :
    following (some before) tokens = following (some before') tokens := by
  cases tokens <;> simp [following, Token.is, hkind, hstop]

/-- A text is the items that are read in one step from all of its tokens. -/
theorem parse_of_item {source : Text} {tokens : List Token} {t : Placed} {ts : List Placed}
    {found : List Item} (htokens : tokenize source = .ok tokens)
    (hbraces : checkBraces tokens = .ok ()) (hplaced : Placed.ofTokens tokens = t :: ts)
    (hbrace : ¬ t.is '{' ∧ ¬ t.is '}')
    (hitem : ∀ n, 16 * (t :: ts).length + 10 ≤ n → item n (t :: ts) = .ok (some found, [])) :
    SourceFile.parse source = .ok ⟨found⟩ := by
  have hloop : LoopReads (Placed.ofTokens tokens) found [] := by
    rw [hplaced]
    exact .of_item hbrace.1 hbrace.2 hitem (Nat.zero_le _)
  exact (hloop.parse_eq_ok htokens).2 ⟨hbraces, [], [], rfl, (List.append_nil found).symm⟩

section files

variable {i : Item} {plain source : Text} {t first : Token} {rest before others : List Token}
  {k : Nat} {line : Bool}

/-- No token after a preface is the name of a member. -/
theorem Preface.not_afterDot (preface : Preface (Placed.ofTokens before)) :
    before.getLast?.any (·.is '.') = false := by
  rw [← Placed.map_toToken_following none before, List.getLast?_map]
  cases hlast : (Placed.following none before).getLast? with
  | none => rfl
  | some u =>
    rcases preface.getLast_cases u hlast with hname | hclose
    · exact Token.is_eq_false_of_name? hname '.'
    · exact Token.is_eq_false_of_is hclose (by decide)

/-- Tokens behind a preface are in their places what they are by themselves, but for the layout of
the first. -/
theorem Placed.ofTokens_append (preface : Preface (ofTokens before)) {t u : Token}
    (hkind : u.kind = t.kind) (hstop : u.stop = t.stop) (rest : List Token) :
    ∃ placed : Placed, placed.toToken = u ∧ placed.afterDot = false ∧
      ofTokens (before ++ u :: rest) =
        ofTokens before ++ placed :: (ofTokens (t :: rest)).tail := by
  refine ⟨⟨u, before.getLast?.any (·.stop = u.start), before.getLast?.any (·.is '.')⟩, rfl,
    preface.not_afterDot, ?_⟩
  rw [ofTokens, following_append, Option.or_none, following, following_congr hkind hstop]
  rfl

/-- The declaration behind a preface is read as it is by itself, further on. -/
theorem item_of_preface_shift (canonical : i.Canonical) (hdeclares : i.isDeclaration)
    (written : Written i.glyphs (Placed.ofTokens (t :: rest)))
    (htokens : first :: others =
      before ++ { t.shift k with newlineBefore := line } :: rest.map (·.shift k))
    (preface : Preface (Placed.ofTokens before)) {found : Item} {n : Nat}
    (hitem : item (n + 3) (Placed.ofTokens (t :: rest)) = .ok (some [found], [])) :
    item (n + 3) (Placed.ofTokens (first :: others)) =
      .ok (some [(found.relocate (· + k)).startingAt first.start], []) := by
  obtain ⟨v, us, hv, hvdot, hus⟩ : ∃ v us, v.toToken = t.shift k ∧ v.afterDot = false ∧
      Placed.ofTokens ((t :: rest).map (·.shift k)) = v :: us :=
    ⟨⟨t.shift k, false, false⟩, _, rfl, rfl, rfl⟩
  obtain ⟨u, hu, hdot, hplaced⟩ := Placed.ofTokens_append preface (t := t.shift k)
    (u := { t.shift k with newlineBefore := line }) rfl rfl (rest.map (·.shift k))
  rw [← htokens, ← List.map_cons, hus, List.tail_cons] at hplaced
  have halike : Alike (· + k) (Placed.ofTokens (t :: rest)) (v :: us) := by
    rw [← hus]
    exact (sameLayout_shift k (t :: rest)).alike_ofTokens (by simp [Token.shift])
  have hagree := (itemReadersFollow (· + k) (n + 3)).item halike
  rw [hitem] at hagree
  obtain ⟨_, hshifted, ⟨⟩⟩ := hagree.eq_ok
  -- the keyword behind the preface may begin a line or not, and is read as by itself
  obtain ⟨keyword, hkeyword, hname, hdeclared⟩ := canonical.item_of_written hdeclares written
  have hword : word? us = word? (Placed.ofTokens (t :: rest)).tail := halike.tail.word?
  have hkind : u.kind = t.kind ∧ v.kind = t.kind ∧ u.start = v.start := by
    rw [hu, hv]
    exact ⟨rfl, rfl, rfl⟩
  have hbehind : item (n + 3) (u :: us) = .ok (some [found.relocate (· + k)], []) := by
    rw [hdeclared hkind.1 hdot hword, hkind.2.2, declared_cons n v.start hkeyword u v,
      ← hdeclared hkind.2.1 hvdot hword, hshifted]
    rfl
  have hstarts : startsDeclaration (u :: us) := by
    have hname' : u.name? = some keyword := by
      rw [← hname, Token.name?, Token.name?, hkind.1]
    simp [startsDeclaration, word?, hname', hkeyword]
  obtain ⟨hcast, htouching⟩ := not_of_startsDeclaration hstarts
  have hread := item_of_preface preface hplaced.symm rfl (by simp [hdot]) hcast htouching (n + 1)
  rw [hbehind] at hread
  exact hread

/-- **Attributes and modifiers are transparent to files.** -/
theorem parse_of_preface (canonical : i.Canonical) (hdeclares : i.isDeclaration)
    (hplain : tokenize plain = .ok (t :: rest))
    (written : Written i.glyphs (Placed.ofTokens (t :: rest)))
    (hsource : tokenize source = .ok (first :: others))
    (htokens : first :: others =
      before ++ { t.shift k with newlineBefore := line } :: rest.map (·.shift k))
    (preface : Preface (Placed.ofTokens before)) (hbraces : ∀ u ∈ before, ¬ u.is '{' ∧ ¬ u.is '}') :
    ∃ found : Item, found.unplaced = i.unplaced ∧ SourceFile.parse plain = .ok ⟨[found]⟩ ∧
      SourceFile.parse source =
        .ok ⟨[(found.relocate (· + k)).startingAt first.start]⟩ := by
  have hblock : ¬ i.isBlock := by
    cases i <;> simp_all [Item.isBlock, Item.isDeclaration]
  obtain ⟨found, hfound, hitem⟩ := canonical.item_eq_ok hblock written
  have hbraced : checkBraces (t :: rest) = .ok () := by
    have hlegible := canonical.sound .nil
    rw [List.append_nil] at hlegible
    rw [checkBraces, matchBraces_eq_ok, ← Placed.map_toToken_following none (t :: rest)]
    exact hlegible.closes written
  have hbraced' : checkBraces (first :: others) = .ok () := by
    rw [htokens]
    have hkinds : List.Forall₂ (fun t u : Token => u.kind = t.kind) (t :: rest)
        ({ t.shift k with newlineBefore := line } :: rest.map (·.shift k)) :=
      .cons rfl (sameLayout_shift k rest).forall₂_kind
    exact checkBraces_append hbraces hkinds hbraced
  obtain ⟨_, _, hname, -⟩ := canonical.item_of_written hdeclares written
  have hbrace : ¬ t.is '{' ∧ ¬ t.is '}' := by
    simp [Token.is_eq_false_of_name? (t := t) (Option.isSome_of_eq_some hname)]
  have hbrace' : ¬ first.is '{' ∧ ¬ first.is '}' := by
    cases before with
    | nil =>
      obtain ⟨rfl, -⟩ := List.cons.inj htokens
      exact hbrace
    | cons u before =>
      obtain ⟨rfl, -⟩ := List.cons.inj htokens
      exact hbraces _ List.mem_cons_self
  have hlength : (Placed.ofTokens (t :: rest)).length ≤
      (Placed.ofTokens (first :: others)).length := by
    rw [htokens]
    simp [Placed.ofTokens, Placed.length_following]
  refine ⟨found, hfound, parse_of_item hplain hbraced rfl hbrace hitem,
    parse_of_item hsource hbraced' rfl hbrace' fun n hn => ?_⟩
  replace hn : 16 * (Placed.ofTokens (first :: others)).length + 10 ≤ n := hn
  obtain ⟨n, rfl⟩ : ∃ m, n = m + 3 := ⟨n - 3, by omega⟩
  exact item_of_preface_shift canonical hdeclares written htokens preface (hitem _ (by omega))

end files

open TokenParser in
/-- **Attributes and modifiers are transparent.** Wherever a declaration starts, it is read behind
any attributes and modifiers as it is without them, or fails as it does, at any bound, and only the
place of the items it declares is another: that of the first token. So a text of attributes,
modifiers and a canonical declaration is the declaration alone, moved by as much as its text is,
with that place for the outermost item. -/
theorem prefaces_transparent :
    (∀ (ps ts others : List Placed) (first : Placed) (n : Nat), Preface ps → startsDeclaration ts →
      ¬ ts.head?.any (·.afterDot) → ps ++ ts = first :: others → first.afterDot = false →
      item (n + 2) (first :: others) = (item (n + 2) ts).map (foundAt first.start)) ∧
    ∀ (i : Item) (plain source : Text) (t first : Token) (rest before others : List Token)
      (k : Nat) (line : Bool), i.Canonical → i.isDeclaration →
      tokenize plain = .ok (t :: rest) → Written i.glyphs (Placed.ofTokens (t :: rest)) →
      tokenize source = .ok (first :: others) →
      first :: others = before ++ { t.shift k with newlineBefore := line } ::
        rest.map (·.shift k) →
      Preface (Placed.ofTokens before) → (∀ u ∈ before, ¬ u.is '{' ∧ ¬ u.is '}') →
      ∃ found : Item, found.unplaced = i.unplaced ∧ SourceFile.parse plain = .ok ⟨[found]⟩ ∧
        SourceFile.parse source =
          .ok ⟨[(found.relocate (· + k)).startingAt first.start]⟩ := by
  constructor
  · intro ps ts others first n preface hstarts hdot htokens hfirst
    obtain ⟨hcast, htouching⟩ := not_of_startsDeclaration hstarts
    exact item_of_preface preface htokens hfirst hdot hcast htouching n
  · intro i plain source t first rest before others k line canonical hdeclares hplain written
      hsource htokens preface hbraces
    exact parse_of_preface canonical hdeclares hplain written hsource htokens preface hbraces

open TokenParser in
/-- An attribute with arguments and a modifier on the line before a class, which begins with its
keyword all the same. Its members stay where they are. -/
theorem class_behind_preface :
    let plain : Text := "class C\x7b\nlet x:(A,B)\n\x7d".toList
    let source : Text := "@a(b ())public\nclass C\x7b\nlet x:(A,B)\n\x7d".toList
    let pair : TypeExpr := .tuple 0 [⟨none, .named 0 "A" []⟩, ⟨none, .named 0 "B" []⟩]
    let i : Item := .nominal 0 .classType "C" [] [] ⟨0, [.variable 0 (.name "x") (some pair)]⟩
    let before : List Token := [⟨.punct '@', 0, 1, true⟩, ⟨.ident "a", 1, 2, false⟩,
      ⟨.punct '(', 2, 3, false⟩, ⟨.ident "b", 3, 4, false⟩, ⟨.punct '(', 5, 6, false⟩,
      ⟨.punct ')', 6, 7, false⟩, ⟨.punct ')', 7, 8, false⟩, ⟨.ident "public", 8, 14, false⟩]
    ∃ t rest, i.Canonical ∧ i.isDeclaration ∧ tokenize plain = .ok (t :: rest) ∧
      Written i.glyphs (Placed.ofTokens (t :: rest)) ∧
      tokenize source = .ok (before ++ t.shift 15 :: rest.map (·.shift 15)) ∧
      Preface (Placed.ofTokens before) ∧ (∀ u ∈ before, ¬ u.is '{' ∧ ¬ u.is '}') ∧
      (∃ found : Item, found.unplaced = i.unplaced ∧ SourceFile.parse plain = .ok ⟨[found]⟩ ∧
        SourceFile.parse source = .ok ⟨[(found.relocate (· + 15)).startingAt 0]⟩) ∧
      ∃ ts, Placed.ofTokens (before ++ t.shift 15 :: rest.map (·.shift 15)) =
        Placed.ofTokens before ++ ts ∧ startsDeclaration ts ∧ ∀ n,
          item (n + 2) (Placed.ofTokens before ++ ts) = (item (n + 2) ts).map (foundAt 0) := by
  intro plain source pair i before
  have canonical : i.Canonical := by
    have hnamed : ∀ name, IsPlainName name → (TypeExpr.named 0 name []).Canonical .whole :=
      fun name hname => .whole (.composed (.single (.named hname (by simp))))
    have hpair : pair.Canonical .whole := .whole (.composed (.single (.tuple (by simp)
      (by simp [hnamed "A" (by decide), hnamed "B" (by decide)]))))
    exact .nominal (by decide) (by simp) (by simp)
      (List.forall_mem_singleton.2 (.variable (by decide) (by simpa using hpair))) trivial
  have htokens : tokenize plain = .ok
      [⟨.ident "class", 0, 5, true⟩, ⟨.ident "C", 6, 7, false⟩, ⟨.punct '{', 7, 8, false⟩,
        ⟨.ident "let", 9, 12, true⟩, ⟨.ident "x", 13, 14, false⟩, ⟨.punct ':', 14, 15, false⟩,
        ⟨.punct '(', 15, 16, false⟩, ⟨.ident "A", 16, 17, false⟩, ⟨.punct ',', 17, 18, false⟩,
        ⟨.ident "B", 18, 19, false⟩, ⟨.punct ')', 19, 20, false⟩, ⟨.punct '}', 21, 22, true⟩] := by
    decide +kernel
  have hsource : tokenize source = .ok (before ++
      [⟨.ident "class", 15, 20, true⟩, ⟨.ident "C", 21, 22, false⟩, ⟨.punct '{', 22, 23, false⟩,
        ⟨.ident "let", 24, 27, true⟩, ⟨.ident "x", 28, 29, false⟩, ⟨.punct ':', 29, 30, false⟩,
        ⟨.punct '(', 30, 31, false⟩, ⟨.ident "A", 31, 32, false⟩, ⟨.punct ',', 32, 33, false⟩,
        ⟨.ident "B", 33, 34, false⟩, ⟨.punct ')', 34, 35, false⟩,
        ⟨.punct '}', 36, 37, true⟩]) := by
    decide +kernel
  have preface : Preface (Placed.ofTokens before) := by
    change Preface (_ :: _ :: ([_, _, _, _, _] ++ (_ :: ([] ++ []))))
    exact .signed rfl rfl (.inl ⟨rfl, rfl, by decide, by decide⟩)
      (.modifier rfl (by decide) (.inr rfl) .nil)
  have hbraces : ∀ u ∈ before, ¬ u.is '{' ∧ ¬ u.is '}' := by decide
  refine ⟨_, _, canonical, rfl, htokens, ?written, hsource, preface, hbraces,
    prefaces_transparent.2 i plain source _ _ _ before _ 15 true canonical rfl htokens ?written
      hsource rfl preface hbraces, _, rfl, rfl, fun n =>
    prefaces_transparent.1 _ _ _ _ n preface rfl (by decide) rfl rfl⟩
  case written => decide +kernel

end SwiftTuples
