import Mathlib.Data.List.Chain
import Mathlib.Data.List.Infix
import SwiftTuples.Proofs.Parsing.Brackets
import SwiftTuples.Proofs.Parsing.Defaults
import SwiftTuples.Proofs.Parsing.Deriving
import SwiftTuples.Proofs.Printing.Types
/-!
# Specifiers in a row

Attributes, tildes and words may stand before a type in any number. An attribute and a tilde are
taken by their marks. A word is a name as well, so it is taken for a specifier only if a name or a
bracket comes next. Where the words come last all specifiers are taken, and the type after them is
their base. A word before an attribute or a tilde is taken for the type itself, and what follows it
is left: then no parameter of such a type can be read.
-/

namespace SwiftTuples

open TokenParser

/-! ## Arguments -/

/-- Parentheses and what is inside them, touching the token before them. No brace inside closes one
that opened outside. -/
structure BalancedArguments (ts : List Placed) : Prop where
  opens : startsTouching '(' ts
  closes : ts.countP (·.is '(') = ts.countP (·.is ')')
  within : ∀ before ∈ ts.inits, before ≠ [] → before ≠ ts →
    before.countP (·.is ')') < before.countP (·.is '(')
  braces : ∀ before ∈ ts.inits, before.countP (·.is '}') ≤ before.countP (·.is '{')

namespace TokenParser

variable {ts after : List Placed}

/-- Balanced arguments are passed over. -/
theorem balanced_of_balancedArguments (h : BalancedArguments ts) (after : List Placed) :
    balanced '(' ')' (ts ++ after) = .ok ((), after) := by
  obtain ⟨hopens, hcloses, hwithin, hbraces⟩ := h
  cases ts with
  | nil => cases hopens
  | cons t ts =>
    have ht : t.is '(' := (Bool.and_eq_true_iff.1 hopens).1
    -- the beginnings of the arguments are beginnings of all tokens
    have hinits : ∀ n, (t :: ts).take n ∈ (t :: ts).inits :=
      fun n => (List.mem_inits _ _).2 (List.take_prefix n _)
    have hcount : ∀ n ≤ ts.length + 1, ∀ c,
        (((t :: (ts ++ after)).map (·.toToken)).take n).countP (·.is c) =
          ((t :: ts).take n).countP (·.is c) := by
      intro n hn c
      rw [← List.map_take, List.countP_map, ← List.cons_append, List.take_append_of_le_length hn]
      rfl
    have heven : IsLeast (evenAt '(' ')' 0 ((t :: (ts ++ after)).map (·.toToken))) ts.length := by
      refine ⟨⟨?_, ?_⟩, fun m hm => Nat.le_of_not_lt fun hlt => ?_⟩
      · simp only [List.length_map, List.length_cons, List.length_append]
        omega
      · rw [hcount _ (Nat.le_refl _), hcount _ (Nat.le_refl _), List.take_of_length_le (by simp),
          hcloses, Nat.zero_add]
      · have hless := hwithin _ (hinits (m + 1)) (by simp) fun hall => by
          have hlength := congrArg List.length hall
          simp only [List.length_take, List.length_cons] at hlength
          omega
        have heq := hm.2
        rw [hcount _ (by omega), hcount _ (by omega)] at heq
        omega
    have hstray : ∀ b ∈ strayAt 0 ((t :: (ts ++ after)).map (·.toToken)), ts.length < b := by
      refine fun b hb => Nat.lt_of_not_le fun hle => ?_
      have hless := hb.2
      rw [hcount _ (by omega), hcount _ (by omega)] at hless
      have := hbraces _ (hinits (b + 1))
      omega
    simpa using Keeper.balanced_of_even (by decide) ht heven hstray

variable {given rest : List Placed}

/-- Balanced arguments are passed over, and so is their absence. -/
theorem arguments_of_given
    (after : BalancedArguments given ∨ given = [] ∧ ¬ startsTouching '(' rest) :
    arguments (given ++ rest) = .ok ((), rest) := by
  rcases after with hbalanced | ⟨rfl, hno⟩
  · have htouching : startsTouching '(' (given ++ rest) := by
      cases given with
      | nil => cases hbalanced.opens
      | cons t given => exact hbalanced.opens
    have hopen : look (startsTouching '(') (given ++ rest) = .ok (true, given ++ rest) := by
      rw [look, htouching]
    exact (bind_of_eq_ok hopen).trans (balanced_of_balancedArguments hbalanced rest)
  · have hopen : look (startsTouching '(') ([] ++ rest) = .ok (false, [] ++ rest) := by
      simpa [look] using hno
    exact bind_of_eq_ok hopen

/-- An attribute is taken with its arguments. -/
theorem attribute?_of_is {sign word : Placed} {name : String} (marked : sign.is '@')
    (named : word.name? = some name)
    (after : BalancedArguments given ∨ given = [] ∧ ¬ startsTouching '(' rest) :
    attribute? (sign :: word :: (given ++ rest)) = .ok (some name, rest) := by
  have hlook : (look fun ts => if startsWith '@' ts then word? ts.tail else none)
      (sign :: word :: (given ++ rest)) = .ok (some name, sign :: word :: (given ++ rest)) := by
    simp [look, startsWith, word?, marked, named]
  have hskip : skip 2 (sign :: word :: (given ++ rest)) = .ok ((), given ++ rest) := rfl
  exact (bind_of_eq_ok hlook).trans
    ((bind_of_eq_ok hskip).trans (bind_of_eq_ok (arguments_of_given after)))

end TokenParser

/-! ## Specifiers before a type -/

/-- The specifier is a word. -/
def Specifier.isWord : Specifier → Bool
  | word _ => true
  | _ => false

/-- The tokens `ts`, which stand before `rest`, are the specifiers one after the other. An attribute
has balanced arguments or none, and a tilde stands before a name. -/
inductive Spelled : List Specifier → List Placed → List Placed → Prop
  | nil {rest : List Placed} : Spelled [] [] rest
  | signed {sign word : Placed} {name : String} {arguments ts rest : List Placed}
      {others : List Specifier} (marked : sign.is '@') (named : word.name? = some name)
      (after : BalancedArguments arguments ∨ arguments = [] ∧ ¬ startsTouching '(' (ts ++ rest))
      (more : Spelled others ts rest) :
      Spelled (.attribute name :: others) (sign :: word :: (arguments ++ ts)) rest
  | suppression {sign : Placed} {ts rest : List Placed} {others : List Specifier}
      (marked : sign.is '~') (named : startsWithWord (ts ++ rest)) (more : Spelled others ts rest) :
      Spelled (.suppression :: others) (sign :: ts) rest
  | word {word : Placed} {text : String} {ts rest : List Placed} {others : List Specifier}
      (named : word.name? = some text) (specifying : text ∈ Specifier.words)
      (more : Spelled others ts rest) : Spelled (.word text :: others) (word :: ts) rest

/-- No word stands directly before an attribute or a tilde. -/
def WordsLast (specifiers : List Specifier) : Prop :=
  specifiers.IsChain fun s s' => s.isWord → s'.isWord

/-- What is no word may stand before any specifier. -/
theorem wordsLast_cons {s : Specifier} {specifiers : List Specifier} (hs : ¬ s.isWord) :
    WordsLast (s :: specifiers) ↔ WordsLast specifiers := by
  rw [WordsLast, List.isChain_cons]
  exact ⟨And.right, fun h => ⟨fun _ _ hword => absurd hword hs, h⟩⟩

namespace TokenParser

variable {ts rest : List Placed} {t : Placed}

theorem specifier?_attribute {sign word : Placed} {name : String} {arguments : List Placed}
    (marked : sign.is '@') (named : word.name? = some name)
    (after : BalancedArguments arguments ∨ arguments = [] ∧ ¬ startsTouching '(' rest) :
    specifier? (sign :: word :: (arguments ++ rest)) = .ok (some (.attribute name), rest) :=
  bind_of_eq_ok (attribute?_of_is marked named after)

theorem specifier?_suppression (marked : t.is '~') (named : startsWithWord rest) :
    specifier? (t :: rest) = .ok (some .suppression, rest) := by
  have hno : t.is '@' = false := Token.is_eq_false_of_is marked (by decide)
  have hlook : (look fun ts => startsWith '~' ts && startsWithWord ts.tail) (t :: rest) =
      .ok (true, t :: rest) := by
    simp [look, startsWith, marked, named]
  exact (bind_of_eq_ok (attribute?_of_not hno)).trans (bind_of_eq_ok hlook)

/-- A word is taken for a specifier exactly if a name or a bracket comes next. -/
theorem specifier?_word {text : String} (named : t.name? = some text)
    (specifying : text ∈ Specifier.words) (rest : List Placed) : specifier? (t :: rest) =
      if startsSpecified rest then .ok (some (.word text), rest) else .ok (none, t :: rest) := by
  have hno := Token.is_eq_false_of_name? (t := t.toToken) (by simp [named])
  have htilde : (look fun ts => startsWith '~' ts && startsWithWord ts.tail) (t :: rest) =
      .ok (false, t :: rest) := by
    simp [look, startsWith, hno]
  have hword : look word? (t :: rest) = .ok (some text, t :: rest) := by simp [look, word?, named]
  have hnext : (look fun ts => startsSpecified ts.tail) (t :: rest) =
      .ok (startsSpecified rest, t :: rest) := rfl
  refine (bind_of_eq_ok (attribute?_of_not (hno '@'))).trans ?_
  refine (bind_of_eq_ok htilde).trans ((bind_of_eq_ok hword).trans ?_)
  refine (bind_of_eq_ok hnext).trans ?_
  have hmem : Specifier.words.contains text = true := List.contains_iff_mem.2 specifying
  rw [hmem, Bool.true_and]
  split <;> rfl

end TokenParser

namespace Spelled

variable {specifiers : List Specifier} {ts rest : List Placed}

/-- Every specifier has a token. -/
theorem length_le (h : Spelled specifiers ts rest) : specifiers.length ≤ ts.length := by
  induction h with
  | nil => exact Nat.le_refl 0
  | signed _ _ _ _ ih =>
    simp only [List.length_cons, List.length_append]
    omega
  | suppression _ _ _ ih | word _ _ _ ih => exact Nat.succ_le_succ ih

/-- What the tokens say is the same where more tokens follow, if some do already. -/
theorem append (h : Spelled specifiers ts rest) (hne : rest ≠ []) (after : List Placed) :
    Spelled specifiers ts (rest ++ after) := by
  obtain ⟨t, rest, rfl⟩ := List.exists_cons_of_ne_nil hne
  have hhead : ∀ ts : List Placed, ∃ u more, ts ++ t :: rest = u :: more ∧
      ts ++ (t :: rest ++ after) = u :: (more ++ after) := by
    intro ts
    cases ts with
    | nil => exact ⟨t, rest, rfl, rfl⟩
    | cons u ts => exact ⟨u, ts ++ t :: rest, rfl, by simp⟩
  generalize hrest : t :: rest = rest' at h
  induction h with
  | nil => exact .nil
  | @signed _ _ _ _ ts _ _ marked named after _ ih =>
    refine .signed marked named (after.imp_right fun ⟨hnil, hno⟩ => ⟨hnil, ?_⟩) (ih hrest)
    subst hrest
    obtain ⟨u, more, hfirst, hsecond⟩ := hhead ts
    rw [hsecond]
    rwa [hfirst] at hno
  | @suppression _ ts _ _ marked named _ ih =>
    refine .suppression marked ?_ (ih hrest)
    subst hrest
    obtain ⟨u, more, hfirst, hsecond⟩ := hhead ts
    rw [hsecond]
    rwa [hfirst] at named
  | word named specifying _ ih => exact .word named specifying (ih hrest)

/-- **Specifiers are all taken if no word stands before an attribute or a tilde**, in front of
tokens that a type without specifiers begins with. -/
theorem collect_of_wordsLast (h : Spelled specifiers ts rest) (wordsLast : WordsLast specifiers)
    (hstop : specifier? rest = .ok (none, rest)) (hbase : startsSpecified rest) {n : Nat}
    (hn : specifiers.length ≤ n) : collect specifier? n (ts ++ rest) = .ok (specifiers, rest) := by
  induction h generalizing n with
  | nil =>
    cases n with
    | zero => rfl
    | succ n => exact bind_of_eq_ok hstop
  | signed marked named after more ih =>
    obtain ⟨n, rfl⟩ : ∃ m, n = m + 1 := ⟨n - 1, by simp at hn; omega⟩
    have hmore := ih wordsLast.of_cons hstop hbase (n := n) (by simpa using hn)
    rw [List.cons_append, List.cons_append, List.append_assoc]
    exact (bind_of_eq_ok (specifier?_attribute marked named after)).trans (bind_of_eq_ok hmore)
  | suppression marked named more ih =>
    obtain ⟨n, rfl⟩ : ∃ m, n = m + 1 := ⟨n - 1, by simp at hn; omega⟩
    have hmore := ih wordsLast.of_cons hstop hbase (n := n) (by simpa using hn)
    exact (bind_of_eq_ok (specifier?_suppression marked named)).trans (bind_of_eq_ok hmore)
  | @word _ _ ts rest _ named specifying more ih =>
    obtain ⟨n, rfl⟩ : ∃ m, n = m + 1 := ⟨n - 1, by simp at hn; omega⟩
    have hmore := ih wordsLast.of_cons hstop hbase (n := n) (by simpa using hn)
    -- another word or the type itself comes next
    have hnext : startsSpecified (ts ++ rest) := by
      cases more with
      | nil => exact hbase
      | signed | suppression =>
        exact absurd ((List.isChain_cons_cons.1 wordsLast).1 rfl) (by simp [Specifier.isWord])
      | word named => simp [startsSpecified, startsWithWord, word?, named]
    have hfirst := specifier?_word named specifying (ts ++ rest)
    rw [if_pos hnext] at hfirst
    exact (bind_of_eq_ok hfirst).trans (bind_of_eq_ok hmore)

/-- **The first word before an attribute or a tilde is left**, and all that follows it. -/
theorem collect_of_not_wordsLast (h : Spelled specifiers ts rest)
    (hnot : ¬ WordsLast specifiers) {n : Nat} (hn : specifiers.length ≤ n) :
    ∃ before text others word left, specifiers = before ++ .word text :: others ∧
      word.name? = some text ∧ (startsWith '@' left ∨ startsWith '~' left) ∧
      collect specifier? n (ts ++ rest) = .ok (before, word :: left) := by
  induction h generalizing n with
  | nil => exact absurd .nil hnot
  | @signed _ _ name _ _ _ others marked named after more ih =>
    obtain ⟨n, rfl⟩ : ∃ m, n = m + 1 := ⟨n - 1, by simp at hn; omega⟩
    obtain ⟨before, text, others, word, left, rfl, hword, hleft, hmore⟩ :=
      ih (mt (wordsLast_cons (by simp [Specifier.isWord])).2 hnot) (n := n) (by simpa using hn)
    refine ⟨.attribute name :: before, text, others, word, left, rfl, hword, hleft, ?_⟩
    rw [List.cons_append, List.cons_append, List.append_assoc]
    exact (bind_of_eq_ok (specifier?_attribute marked named after)).trans (bind_of_eq_ok hmore)
  | suppression marked named more ih =>
    obtain ⟨n, rfl⟩ : ∃ m, n = m + 1 := ⟨n - 1, by simp at hn; omega⟩
    obtain ⟨before, text, others, word, left, rfl, hword, hleft, hmore⟩ :=
      ih (mt (wordsLast_cons (by simp [Specifier.isWord])).2 hnot) (n := n) (by simpa using hn)
    refine ⟨.suppression :: before, text, others, word, left, rfl, hword, hleft, ?_⟩
    exact (bind_of_eq_ok (specifier?_suppression marked named)).trans (bind_of_eq_ok hmore)
  | @word t text ts rest others named specifying more ih =>
    obtain ⟨n, rfl⟩ : ∃ m, n = m + 1 := ⟨n - 1, by simp at hn; omega⟩
    have hfirst := specifier?_word named specifying (ts ++ rest)
    -- the word is left where a mark comes next
    have hleave : ∀ {c : Char} {sign : Placed} {marked : List Placed}, sign.is c →
        c = '@' ∨ c = '~' → ts = sign :: marked →
        ∃ before text' others' word left,
          Specifier.word text :: others = before ++ .word text' :: others' ∧
          word.name? = some text' ∧ (startsWith '@' left ∨ startsWith '~' left) ∧
          collect specifier? (n + 1) (t :: ts ++ rest) = .ok (before, word :: left) := by
      rintro c sign marked hsign hc rfl
      have hno : startsSpecified (sign :: marked ++ rest) = false := by
        have hmarks : sign.is '(' = false ∧ sign.is '[' = false := by
          rcases hc with rfl | rfl <;>
            exact ⟨Token.is_eq_false_of_is hsign (by decide),
              Token.is_eq_false_of_is hsign (by decide)⟩
        simp [startsSpecified, startsWithWord, word?, startsWith, Token.name?_of_is hsign, hmarks]
      rw [hno, if_neg (by decide)] at hfirst
      exact ⟨[], text, others, t, sign :: marked ++ rest, rfl, named,
        by rcases hc with rfl | rfl; exacts [.inl hsign, .inr hsign], bind_of_eq_ok hfirst⟩
    cases more with
    | nil => exact absurd (.singleton _) hnot
    | signed marked => exact hleave marked (.inl rfl) rfl
    | suppression marked => exact hleave marked (.inr rfl) rfl
    | @word word _ ts _ others named' specifying' more' =>
      have hnext : startsSpecified (word :: ts ++ rest) := by
        simp [startsSpecified, startsWithWord, word?, named']
      rw [if_pos hnext] at hfirst
      have hothers : ¬ WordsLast (.word _ :: others) := fun hlast =>
        hnot (List.isChain_cons_cons.2 ⟨fun _ => rfl, hlast⟩)
      obtain ⟨before, text', others', word', left, hbefore, hword, hleft, hmore⟩ :=
        ih hothers (n := n) (by simpa using hn)
      exact ⟨.word text :: before, text', others', word', left, by rw [hbefore]; rfl, hword, hleft,
        (bind_of_eq_ok hfirst).trans (bind_of_eq_ok hmore)⟩

end Spelled

/-! ## Types with specifiers -/

namespace TokenParser

variable {specifiers : List Specifier} {ts us : List Placed} {C : TypeExpr} {n : Nat}

/-- A canonical type without specifiers stops the search for them. -/
theorem specifier?_of_canonical (canonical : C.Canonical .composed)
    (written : Written C.glyphs us) :
    specifier? us = .ok (none, us) ∧ startsSpecified us := by
  obtain ⟨g, gs, hglyphs, hg⟩ := canonical.startsBase (by decide)
  rw [hglyphs] at written
  obtain ⟨_, rest, hnone, rfl, -⟩ := reads_specifier_none hg g.gap written
  obtain ⟨used, rfl, hfound⟩ := takes_specifier? us hnone
  cases hfound
  refine ⟨hnone, startsSpecified_of_written ?_ written⟩
  rcases hg with ⟨name, -, rfl⟩ | rfl | rfl
  · exact .inl rfl
  · exact .inr (.inl rfl)
  · exact .inr (.inr rfl)

/-- **A type is read with all its specifiers if the words among them come last.** -/
theorem typeExpr_of_wordsLast (spelled : Spelled specifiers ts us) (hne : specifiers ≠ [])
    (wordsLast : WordsLast specifiers) (canonical : C.Canonical .composed)
    (written : Written C.glyphs us) (hn : 16 * us.length + 5 ≤ n) :
    ∃ type, type.unplaced = .attributed 0 specifiers C.unplaced ∧
      typeExpr n (ts ++ us) = .ok (type, []) := by
  obtain ⟨n, rfl⟩ : ∃ m, n = m + 1 := ⟨n - 1, by omega⟩
  obtain ⟨hstop, hbase⟩ := specifier?_of_canonical canonical written
  have hlen : specifiers.length ≤ (ts ++ us).length := by
    have := spelled.length_le
    simp only [List.length_append]
    omega
  have hmany : many specifier? (ts ++ us) = .ok (specifiers, us) :=
    spelled.collect_of_wordsLast wordsLast hstop hbase hlen
  rw [← List.append_nil C.glyphs] at written
  have hread : 16 * (C.glyphs.length + ([] : List Glyph).length) + 4 ≤ n := by
    have := written.length_eq
    simp only [List.append_nil] at this
    simp only [List.length_nil]
    omega
  obtain ⟨base, rest, hcomposition, hsame, ⟨⟩⟩ :=
    canonical.readBack (fun g hg => by cases hg) hread written
  refine ⟨.attributed (((ts ++ us).head?.map (·.start)).getD 0) specifiers base,
    by rw [TypeExpr.unplaced, hsame], ?_⟩
  refine (bind_of_eq_ok rfl).trans ((bind_of_eq_ok hmany).trans ?_)
  refine (bind_of_eq_ok hcomposition).trans ?_
  rw [List.isEmpty_eq_false_iff.2 hne]
  rfl

/-- A name is a type in front of what no type goes on with. -/
theorem composition_of_name {word : Placed} {text : String} {after : List Placed}
    (hword : word.name? = some text) (h : ClosesType after) :
    composition (n + 4) (word :: after) = .ok (.named word.start text [], after) := by
  have hlook : ∀ {c : Char}, c ∈ ['<', '(', '?', '!'] →
      look (startsTouching c) after = .ok (false, after) := fun hc => by
    rw [look, h.touching _ hc]
  have hname : name? (word :: after) = .ok (some text, after) := by simp [name?, hword]
  have harguments : genericArguments (n + 1) after = .ok ([], after) :=
    bind_of_eq_ok (hlook (by decide))
  have hprimary : primary (n + 2) (word :: after) = .ok (.named word.start text [], after) :=
    (bind_of_eq_ok rfl).trans ((bind_of_eq_ok hname).trans (bind_of_eq_ok harguments))
  have hmark : optionalMark? after = .ok (none, after) :=
    (bind_of_eq_ok (hlook (by decide))).trans (bind_of_eq_ok (hlook (by decide)))
  have hmember : memberName? after = .ok (none, after) := by
    have hno : (look fun ts => if startsWith '.' ts then word? ts.tail else none) after =
        .ok (none, after) := by rw [look, h.member]
    exact bind_of_eq_ok hno
  have hsuffixes : ∀ position base, suffixes (n + 2) position base after = .ok (base, after) :=
    fun _ _ => (bind_of_eq_ok hmark).trans (bind_of_eq_ok hmember)
  have hsuffixed : suffixed (n + 3) (word :: after) = .ok (.named word.start text [], after) :=
    (bind_of_eq_ok rfl).trans ((bind_of_eq_ok hprimary).trans (hsuffixes _ _))
  have hconjuncts : conjuncts (n + 3) after = .ok ([], after) := by
    have heats : eats '&' after = .ok (false, after) := by
      cases after with
      | nil => rfl
      | cons t after => exact eats_of_not h.joined
    exact bind_of_eq_ok heats
  exact (bind_of_eq_ok rfl).trans ((bind_of_eq_ok hsuffixed).trans (bind_of_eq_ok hconjuncts))

/-- Only two marks begin a specifier. -/
theorem is_eq_false_of_specifier {sign : Placed} {left : List Placed}
    (h : startsWith '@' (sign :: left) ∨ startsWith '~' (sign :: left)) (c : Char) (hat : c ≠ '@')
    (htilde : c ≠ '~') : sign.is c = false :=
  h.elim (Token.is_eq_false_of_is · hat.symm) (Token.is_eq_false_of_is · htilde.symm)

/-- No type goes on with the mark of a specifier. -/
theorem closesType_of_specifier {left : List Placed}
    (h : startsWith '@' left ∨ startsWith '~' left) : ClosesType left := by
  cases left with
  | nil => rcases h with h | h <;> cases h
  | cons sign left =>
    have hno := is_eq_false_of_specifier h
    have hkind : sign.kind = .punct '@' ∨ sign.kind = .punct '~' :=
      h.imp Token.kind_of_is Token.kind_of_is
    constructor
    case touching =>
      intro c hc
      have hmark : c ≠ '@' ∧ c ≠ '~' := by
        have hall : ∀ c ∈ ['<', '(', '?', '!'], c ≠ '@' ∧ c ≠ '~' := by simp
        exact hall c hc
      simp [startsTouching, hno c hmark.1 hmark.2]
    case joined => exact hno '&' (by decide) (by decide)
    case colon => exact hno ':' (by decide) (by decide)
    case member => simp [startsWith, hno '.' (by decide) (by decide)]
    case function => rcases hkind with hkind | hkind <;> simp [startsFunction, Token.name?, hkind]

/-- The type that a word alone is, with what stands before it. -/
def specifiedWord (position : Nat) (specifiers : List Specifier) (word : TypeExpr) : TypeExpr :=
  if specifiers.isEmpty then word else .attributed position specifiers word

/-- **A word before an attribute or a tilde is taken for the type**, and what follows it is left. -/
theorem typeExpr_of_not_wordsLast (spelled : Spelled specifiers ts us)
    (hnot : ¬ WordsLast specifiers) (n : Nat) :
    ∃ before text others position start left, specifiers = before ++ .word text :: others ∧
      (startsWith '@' left ∨ startsWith '~' left) ∧ typeExpr (n + 5) (ts ++ us) =
        .ok (specifiedWord position before (.named start text []), left) := by
  have hlen : specifiers.length ≤ (ts ++ us).length := by
    have := spelled.length_le
    simp only [List.length_append]
    omega
  obtain ⟨before, text, others, word, left, hbefore, hword, hleft, hcollect⟩ :=
    spelled.collect_of_not_wordsLast hnot hlen
  have hmany : many specifier? (ts ++ us) = .ok (before, word :: left) := hcollect
  refine ⟨before, text, others, ((ts ++ us).head?.map (·.start)).getD 0, word.start, left, hbefore,
    hleft, ?_⟩
  refine (bind_of_eq_ok rfl).trans ((bind_of_eq_ok hmany).trans ?_)
  exact bind_of_eq_ok (composition_of_name hword (closesType_of_specifier hleft))

/-- No list of parameters goes on with the mark of a specifier. -/
theorem afterParameter_of_specifier {left : List Placed} (p : Parameter)
    (h : startsWith '@' left ∨ startsWith '~' left) :
    (trailer >>= fun _ => afterParameter n p) left =
      .error ⟨left.head?.map (·.start), .openParameterList⟩ := by
  cases left with
  | nil => rcases h with h | h <;> cases h
  | cons sign left =>
    have hno := is_eq_false_of_specifier h
    have htrailer : trailer (sign :: left) = .ok ((), sign :: left) := by
      simp [trailer, startsWith, hno '.' (by decide) (by decide), hno '=' (by decide) (by decide)]
    refine (bind_of_eq_ok htrailer).trans ?_
    refine (bind_of_eq_ok (eats_of_not (hno ',' (by decide) (by decide)))).trans ?_
    exact bind_of_eq_ok (eats_of_not (hno ')' (by decide) (by decide)))

end TokenParser

open TokenParser in
/-- **Specifiers compose exactly where the words among them come last.** There a type is read with
all its specifiers, in order, and so is a parameter of it, up to the mark after it. Otherwise the
first word before an attribute or a tilde is taken for the type, and no list of parameters can be
read that has a parameter of such a type. -/
theorem specifiers_compose_iff {specifiers : List Specifier} {C : TypeExpr} {ts us : List Placed}
    {n : Nat} (spelled : Spelled specifiers ts us) (hne : specifiers ≠ [])
    (canonical : C.Canonical .composed) (written : Written C.glyphs us)
    (hn : 16 * (ts ++ us).length + 5 ≤ n) :
    (WordsLast specifiers →
      ∃ type, type.unplaced = .attributed 0 specifiers C.unplaced ∧
        typeExpr n (ts ++ us) = .ok (type, []) ∧
        ∀ (names : List Placed) (colon mark : Placed) (after : List Placed), names ≠ [] →
          (∀ t ∈ names, t.name?.isSome) → colon.is ':' → mark.is ',' ∨ mark.is ')' →
          parameters (n + 1) (names ++ colon :: (ts ++ us) ++ mark :: after) =
            afterParameter n ⟨names.filterMap (·.name?), type⟩ (mark :: after)) ∧
    (¬ WordsLast specifiers →
      ∃ before text others position start left, specifiers = before ++ .word text :: others ∧
        left ≠ [] ∧ typeExpr n (ts ++ us) =
          .ok (specifiedWord position before (.named start text []), left) ∧
        ∀ (names : List Placed) (colon mark : Placed) (after : List Placed), names ≠ [] →
          (∀ t ∈ names, t.name?.isSome) → colon.is ':' →
          ∃ e, parameters (n + 1) (names ++ colon :: (ts ++ us) ++ mark :: after) = .error e) := by
  constructor
  · intro wordsLast
    simp only [List.length_append] at hn
    obtain ⟨type, hsame, htype⟩ :=
      typeExpr_of_wordsLast spelled hne wordsLast canonical written (n := n) (by omega)
    refine ⟨type, hsame, htype, fun names colon mark after hnames hall hcolon hmark => ?_⟩
    have hdepth : typeExpr (depth (ts ++ us).length) (ts ++ us) = .ok (type, []) := by
      rw [← htype]
      exact (settled_typeExpr _).eq (Nat.le_refl _) (by simp only [depth]; omega)
        (by simp only [List.length_append]; omega)
    have hread := parameters_of_parameter hnames hall hcolon hdepth .none hmark
      (by simp only [List.length_append]; omega) after
    rwa [List.append_nil] at hread
  · intro hnot
    obtain ⟨n, rfl⟩ : ∃ m, n = m + 5 := ⟨n - 5, by omega⟩
    obtain ⟨before, text, others, position, start, left, hbefore, hleft, htype⟩ :=
      typeExpr_of_not_wordsLast spelled hnot n
    refine ⟨before, text, others, position, start, left, hbefore, ?_, htype, ?_⟩
    · rintro rfl
      rcases hleft with h | h <;> cases h
    intro names colon mark after hnames hall hcolon
    -- the word is taken for the type whatever follows
    have hus : us ≠ [] := by
      rintro rfl
      cases (specifier?_of_canonical canonical written).2
    obtain ⟨_, _, _, _, _, left', -, hleft', htype'⟩ :=
      typeExpr_of_not_wordsLast (spelled.append hus (mark :: after)) hnot n
    rw [List.append_assoc, List.cons_append, List.append_assoc,
      parameters_of_names hnames hall hcolon, bind_of_eq_ok htype']
    exact ⟨_, afterParameter_of_specifier _ hleft'⟩

open TokenParser in
/-- An attribute with arguments, a tilde and a word before a name. -/
theorem attribute_tilde_word_compose :
    let ts : List Placed := [⟨⟨.punct '@', 0, 1, true⟩, false, false⟩,
      ⟨⟨.ident "a", 1, 2, false⟩, true, false⟩, ⟨⟨.punct '(', 2, 3, false⟩, true, false⟩,
      ⟨⟨.ident "x", 3, 4, false⟩, true, false⟩, ⟨⟨.punct ')', 4, 5, false⟩, true, false⟩,
      ⟨⟨.punct '~', 6, 7, false⟩, false, false⟩, ⟨⟨.ident "some", 7, 11, false⟩, true, false⟩]
    let us : List Placed := [⟨⟨.ident "B", 12, 13, false⟩, false, false⟩]
    let specifiers : List Specifier := [.attribute "a", .suppression, .word "some"]
    Spelled specifiers ts us ∧ specifiers ≠ [] ∧ (TypeExpr.named 0 "B" []).Canonical .composed ∧
      Written (TypeExpr.named 0 "B" []).glyphs us ∧ 16 * (ts ++ us).length + 5 ≤ 133 ∧
      WordsLast specifiers ∧ ∃ type,
        type.unplaced = .attributed 0 specifiers (TypeExpr.named 0 "B" []).unplaced ∧
        typeExpr 133 (ts ++ us) = .ok (type, []) := by
  intro ts us specifiers
  have spelled : Spelled specifiers ts us := by
    change Spelled _ (_ :: _ :: ([_, _, _] ++ [_, _])) _
    exact .signed rfl rfl (.inl ⟨rfl, rfl, by decide, by decide⟩)
      (.suppression rfl rfl (.word rfl (by decide) .nil))
  have canonical : (TypeExpr.named 0 "B" []).Canonical .composed :=
    .composed (.single (.named (by decide) (by simp)))
  have written : Written (TypeExpr.named 0 "B" []).glyphs us :=
    .cons ⟨rfl, rfl, by decide, by decide, by decide⟩ .nil
  have wordsLast : WordsLast specifiers := by
    simp [WordsLast, specifiers, Specifier.isWord]
  obtain ⟨type, hsame, htype, -⟩ := (specifiers_compose_iff spelled (List.cons_ne_nil _ _) canonical
    written (n := 133) (by decide)).1 wordsLast
  exact ⟨spelled, List.cons_ne_nil _ _, canonical, written, by decide, wordsLast, type, hsame,
    htype⟩

open TokenParser in
/-- **A word before a tilde is the type.** In front of `~Copyable` the word `some` is taken for a
name, and the function whose parameter has the type is not found, nor is the tuple of its other
one. -/
theorem word_before_tilde_is_type :
    let ts : List Placed := [⟨⟨.ident "borrowing", 10, 19, false⟩, false, false⟩,
      ⟨⟨.ident "some", 20, 24, false⟩, false, false⟩, ⟨⟨.punct '~', 25, 26, false⟩, false, false⟩]
    let us : List Placed := [⟨⟨.ident "Copyable", 26, 34, false⟩, true, false⟩]
    Spelled [.word "borrowing", .word "some", .suppression] ts us ∧
      (TypeExpr.named 0 "Copyable" []).Canonical .composed ∧
      Written (TypeExpr.named 0 "Copyable" []).glyphs us ∧
      (∀ n, typeExpr (n + 5) (ts ++ us) =
        .ok (.attributed 10 [.word "borrowing"] (.named 20 "some" []), ts.drop 2 ++ us)) ∧
      (SourceFile.parse "func f(x: borrowing some ~Copyable, y: (A, B, C)) \x7b\x7d".toList).map
        (·.observations) = .ok [] := by
  refine ⟨?_, ?_, ?_, fun n => rfl, by decide +kernel⟩
  · exact .word rfl (by decide) (.word rfl (by decide) (.suppression rfl rfl .nil))
  · exact .composed (.single (.named (by decide) (by simp)))
  · exact .cons ⟨rfl, rfl, by decide, by decide, by decide⟩ .nil

end SwiftTuples
