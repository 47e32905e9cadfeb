import SwiftTuples.Proofs.Parsing.Keywords
import SwiftTuples.Proofs.Printing.Clauses
/-!
# Printed items are read back

An item is read from its glyphs as it was, up to positions, and the loop over items goes on right
after it (`Item.ReadBack`). A block is read by the loop itself, everything else in one step of it
(`Item.ReadAtOnce`). Every item begins a line with a word or a brace that no part of the item
before it can go on with. The one exception is a block after a function without a body, which
`Item.Apart` rules out.
-/

namespace SwiftTuples

open TokenParser

namespace Item

theorem unplacedList_eq_map (items : List Item) : unplacedList items = items.map unplaced := by
  induction items with
  | nil => rfl
  | cons i items ih => rw [unplacedList, ih, List.map_cons]

theorem unplacedBlock_eq (b : Block Item) : unplacedBlock b = ⟨0, b.items.map unplaced⟩ := by
  obtain ⟨position, items⟩ := b
  rw [unplacedBlock, unplacedList_eq_map]

/-- A block cannot be taken for the body of the item. -/
def BodyClosed (i : Item) (gs : List Glyph) : Prop :=
  i.lacksBody → ∀ g ∈ gs.head?, g.kind ≠ .punct '{'

/-- The loop over items reads the item back and goes on after it. -/
def ReadBack (i : Item) : Prop :=
  ∀ ⦃gs hs⦄ ⦃Q : List Item → Prop⦄ ⦃n closing done⦄, Stops Ends.line gs → i.BodyClosed gs →
    16 * (i.glyphs.length + gs.length) + 11 ≤ n →
    (∀ m found, found.unplaced = i.unplaced → 16 * gs.length + 11 ≤ m →
      Reads (items m closing (found :: done)) gs Q hs) →
    Reads (items n closing done) (i.glyphs ++ gs) Q hs

/-- The reader of items other than blocks reads the item back. -/
def ReadAtOnce (i : Item) : Prop :=
  ∀ ⦃gs n⦄, Stops Ends.line gs → i.BodyClosed gs → 16 * (i.glyphs.length + gs.length) + 10 ≤ n →
    Reads (item n) (i.glyphs ++ gs) (fun found => found.map (·.map unplaced) = some [i.unplaced]) gs

end Item

namespace TokenParser

variable {gs hs : List Glyph} {n : Nat}

/-! ## Loops -/

section loops

variable {closing : Bool} {done : List Item}

theorem reads_orSkip {step : TokenParser (Option (List Item))} {P : List Item → Prop}
    (h : Reads step gs (fun found => ∃ l, found = some l ∧ P l) hs) :
    Reads (orSkip step) gs P hs := by
  intro ts hts
  obtain ⟨_, rest, hstep, ⟨l, rfl, hl⟩, hrest⟩ := h hts
  exact ⟨l, rest, by rw [orSkip, hstep], hl, hrest⟩


/-- The brace that closes a block ends the loop over its items. -/
theorem reads_items_close (n : Nat) (done : List Item) :
    Reads (items (n + 1) true done) ((Glyph.mark '}').onLine :: gs) (· = done.reverse) gs := by
  rintro ts (_ | ⟨first, more⟩)
  exact ⟨_, _, items_close (by simp [first.is, Glyph.mark, Glyph.onLine]), rfl, more⟩

theorem reads_items_end (n : Nat) (done : List Item) :
    Reads (items (n + 1) false done) [] (· = done.reverse) [] := by
  rintro ts ⟨⟩
  exact ⟨_, _, items_nil, rfl, .nil⟩

/-- The loop uses the reader of items where neither brace is at hand. -/
theorem reads_items_item {g : Glyph} {Q : List Item → Prop} (hopen : g.kind ≠ .punct '{')
    (hclose : g.kind ≠ .punct '}')
    (h : Reads (orSkip (item n) >>= fun found => items n closing (found.reverse ++ done))
      (g :: gs) Q hs) : Reads (items (n + 1) closing done) (g :: gs) Q hs := by
  rintro ts (_ | ⟨first, more⟩)
  rw [items_item (by simpa [first.is] using hopen) (by simpa [first.is] using hclose)]
  exact h (.cons first more)

theorem reads_items_block {g : Glyph} {Q : List Item → Prop} (hopen : g.kind = .punct '{')
    (h : Reads (block n >>= fun b => items n closing (.block b :: done)) (g :: gs) Q hs) :
    Reads (items (n + 1) closing done) (g :: gs) Q hs := by
  rintro ts (_ | ⟨first, more⟩)
  rw [items_open (by simpa [first.is] using hopen)]
  exact h (.cons first more)

/-- Something in front of which an item can stand can follow a list of items too. -/
theorem stops_listGlyphs (l : List Item) (hgs : Stops Ends.line gs) :
    Stops Ends.line (Item.listGlyphs l ++ gs) := by
  cases l with
  | nil => exact hgs
  | cons i l =>
    obtain ⟨g, more, hglyphs, hline, -⟩ := i.begins
    intro h hh
    rw [Item.listGlyphs, hglyphs] at hh
    cases hh
    exact hline

/-- **A list of items is read back**, if each of them is, and the loop stands where it ends. -/
theorem reads_items {Q : List Item → Prop} {l : List Item} (h : ∀ i ∈ l, i.ReadBack)
    (apart : Item.Apart l) (hgs : Stops Ends.line gs) (hopen : ∀ g ∈ gs.head?, g.kind ≠ .punct '{')
    (hn : 16 * ((Item.listGlyphs l).length + gs.length) + 11 ≤ n)
    (hend : ∀ m found,
      found.map Item.unplaced = (l.map Item.unplaced).reverse ++ done.map Item.unplaced →
      16 * gs.length + 11 ≤ m → Reads (items m closing found) gs Q hs) :
    Reads (items n closing done) (Item.listGlyphs l ++ gs) Q hs := by
  induction l generalizing n done with
  | nil =>
    rw [Item.listGlyphs, List.length_nil] at hn
    exact hend n done rfl (by omega)
  | cons i l ih =>
    rw [Item.listGlyphs] at hn ⊢
    rw [List.length_append] at hn
    rw [List.append_assoc]
    -- what follows begins with a brace only if the next item is a block
    have hbody : i.BodyClosed (Item.listGlyphs l ++ gs) := by
      intro hlacks
      cases l with
      | nil => exact hopen
      | cons j l =>
        obtain ⟨g, more, hglyphs, -, -, hblock⟩ := j.begins
        intro g' hg'
        rw [Item.listGlyphs, hglyphs] at hg'
        cases hg'
        exact fun hkind => apart.1 ⟨hlacks, hblock.1 hkind⟩
    have hapart : Item.Apart l := by
      cases l with
      | nil => trivial
      | cons j l => exact apart.2
    refine h i List.mem_cons_self (stops_listGlyphs l hgs) hbody ?_ fun m found hfound hm => ?_
    · rw [List.length_append]
      omega
    · rw [List.length_append] at hm
      refine ih (fun j hj => h j (List.mem_cons_of_mem _ hj)) hapart hm
        fun m' found' hfound' hm' => ?_
      refine hend m' found' ?_ hm'
      rw [hfound', List.map_cons, List.map_cons, hfound, List.reverse_cons, List.append_assoc]
      rfl

end loops

/-! ## Blocks -/

/-- A block is read back, if its items are. -/
theorem reads_block {b : Block Item} (h : ∀ i ∈ b.items, i.ReadBack) (apart : Item.Apart b.items)
    (gap : Gap) (hn : 16 * ((Item.blockGlyphs gap b).length + gs.length) ≤ n) :
    Reads (block n) (Item.blockGlyphs gap b ++ gs)
      (Item.unplacedBlock · = Item.unplacedBlock b) gs := by
  rw [Item.blockGlyphs_eq] at hn ⊢
  simp only [List.cons_append, List.append_assoc, List.nil_append, List.length_cons,
    List.length_append, List.length_nil] at hn ⊢
  obtain ⟨n, rfl⟩ : ∃ m, n = m + 1 := ⟨n - 1, by omega⟩
  refine (reads_expect rfl).bind fun position _ => ?_
  have hitems : Reads (items n true [])
      (Item.listGlyphs b.items ++ (Glyph.mark '}').onLine :: gs)
      (·.map Item.unplaced = b.items.map Item.unplaced) gs := by
    refine reads_items h apart (fun g hg => by cases hg; rfl) (fun g hg => by cases hg; decide)
      (by rw [List.length_cons]; omega) fun m found hfound hm => ?_
    obtain ⟨m, rfl⟩ : ∃ k, m = k + 1 := ⟨m - 1, by omega⟩
    refine (reads_items_close m found).mono fun l hl => ?_
    rw [hl, List.map_reverse, hfound]
    simp
  refine hitems.bind fun found hfound => .pure ?_
  rw [Item.unplacedBlock_eq, Item.unplacedBlock_eq, hfound]

theorem reads_startsBlock (gap : Gap) (b : Block Item) :
    Reads (look (startsWith '{')) (Item.blockGlyphs gap b ++ gs) (· = true)
      (Item.blockGlyphs gap b ++ gs) :=
  .look fun ts hts => by simp [hts.startsWith, Item.blockGlyphs_eq]

/-- The body of a function is read, or its absence. -/
theorem reads_body {body : Option (Block Item)} (h : ∀ b ∈ body, ∀ i ∈ b.items, i.ReadBack)
    (apart : ∀ b ∈ body, Item.Apart b.items)
    (hopen : body = none → ∀ g ∈ gs.head?, g.kind ≠ .punct '{')
    (hn : 16 * ((Item.bodyGlyphs body).length + gs.length) ≤ n) :
    Reads (optionally (look (startsWith '{')) (block n)) (Item.bodyGlyphs body ++ gs)
      (Item.unplacedBody · = Item.unplacedBody body) gs := by
  cases body with
  | none =>
    exact (Reads.optionally_none (reads_startsWith_false (hopen rfl))).mono
      fun found hfound => by rw [hfound]
  | some b =>
    rw [Item.bodyGlyphs] at hn ⊢
    have hread : Reads (block n) (Item.blockGlyphs .free b ++ gs)
        (Item.unplacedBlock · = Item.unplacedBlock b) gs :=
      reads_block (h b rfl) (apart b rfl) .free hn
    exact Reads.optionally_some (reads_startsBlock .free b) hread fun found hfound => by
      rw [Item.unplacedBody, Item.unplacedBody, hfound]

/-! ## Declarations -/

/-- The keyword of a declaration is no modifier; in front of a plain name `class` is none either. -/
theorem reads_modifier_none {keyword name : String} (hkeyword : keyword ∉ modifiers)
    (plain : IsPlainName name) :
    Reads modifier? ((Glyph.word keyword).onLine :: .word name :: gs) (· = none)
      ((Glyph.word keyword).onLine :: .word name :: gs) := by
  refine (reads_attribute_none fun g hg => by
    cases hg
    simp [Glyph.word, Glyph.onLine]).bind_known ?_
  refine (reads_word _).bind_known ?_
  refine .ite_neg (by simpa using hkeyword) ?_
  have hnext : Reads (look fun ts => startsDeclaration ts.tail)
      ((Glyph.word keyword).onLine :: .word name :: gs) (· = false)
      ((Glyph.word keyword).onLine :: .word name :: gs) := by
    refine .look fun ts hts => ?_
    have hfree := plain.free
    simp only [reservedWords, List.mem_append, not_or] at hfree
    rw [startsDeclaration, hts.tail.word?]
    simp [Glyph.name?, Glyph.word, hfree]
  exact hnext.bind_known (.ite_neg (by simp) (.pure rfl))

/-- An item that begins with the keyword of a declaration is read as one. -/
theorem reads_declaration {keyword name : String} {P : Option (List Item) → Prop}
    (hkeyword : keyword ∈ itemWords) (hcast : keyword ≠ "as" ∧ keyword ≠ "is")
    (plain : IsPlainName name)
    (h : ∀ position, Reads (declared n position keyword)
      ((Glyph.word keyword).onLine :: .word name :: gs) P hs) :
    Reads (item (n + 2)) ((Glyph.word keyword).onLine :: .word name :: gs) P hs := by
  -- three looks at the keyword find no cast, no member after a dot and no modifier
  have hmodifier : keyword ∉ modifiers := by
    have hall : ∀ w ∈ itemWords, w ∉ modifiers := by decide
    exact hall keyword hkeyword
  have hno : Reads (look castWord?) ((Glyph.word keyword).onLine :: .word name :: gs)
      (· = none) ((Glyph.word keyword).onLine :: .word name :: gs) := by
    refine .look fun ts hts => ?_
    rcases hts with _ | ⟨first, -⟩
    simp [castWord?, Token.isWord, first.kind, Glyph.word, Glyph.onLine, hcast]
  have hdot : Reads (look fun ts => ts.head?.any (·.afterDot))
      ((Glyph.word keyword).onLine :: .word name :: gs) (· = false)
      ((Glyph.word keyword).onLine :: .word name :: gs) := by
    refine .look fun ts hts => ?_
    rcases hts with _ | ⟨first, -⟩
    simpa using first.afterDot rfl
  refine hno.bind_known ?_
  dsimp only
  rw [declaration_succ]
  refine hdot.bind_known (.ite_neg (by decide) ?_)
  refine Reads.position.bind fun position _ => ?_
  refine (reads_many_nil (reads_modifier_none hmodifier plain)).bind fun _ _ => ?_
  exact (reads_word _).bind_known (h position)

end TokenParser

namespace Item

/-- What is read in one step is read back by the loop. -/
theorem ReadAtOnce.readBack {i : Item} (h : i.ReadAtOnce) (hblock : ¬ i.isBlock) : i.ReadBack := by
  intro gs hs Q n closing done hgs hbody hn hmore
  obtain ⟨n, rfl⟩ : ∃ m, n = m + 1 := ⟨n - 1, by omega⟩
  have hitem : Reads (item n) (i.glyphs ++ gs)
      (fun found => found.map (·.map unplaced) = some [i.unplaced]) gs :=
    h hgs hbody (by omega)
  obtain ⟨g, more, hglyphs, -, hclose, hopen⟩ := i.begins
  rw [hglyphs] at hn hitem ⊢
  rw [List.length_cons] at hn
  refine reads_items_item (mt hopen.1 hblock) hclose ?_
  have hstep := reads_orSkip (hitem.mono fun found hfound => Option.map_eq_some_iff.1 hfound)
  refine hstep.bind fun found hfound => ?_
  obtain ⟨i', rfl, hi'⟩ := List.map_eq_singleton_iff.1 hfound
  exact hmore n i' hi' (by omega)

/-- A block is read back, if its items are. -/
theorem readBack_block {b : Block Item} (h : ∀ i ∈ b.items, i.ReadBack) (apart : Apart b.items) :
    (block b).ReadBack := by
  intro gs hs Q n closing done hgs hbody hn hmore
  obtain ⟨n, rfl⟩ : ∃ m, n = m + 1 := ⟨n - 1, by omega⟩
  rw [glyphs] at hn ⊢
  have hread : Reads (TokenParser.block n) (blockGlyphs .line b ++ gs)
      (unplacedBlock · = unplacedBlock b) gs := reads_block h apart .line (by omega)
  rw [blockGlyphs_eq] at hn hread ⊢
  rw [List.length_cons] at hn
  refine reads_items_block rfl (hread.bind fun found hfound => ?_)
  exact hmore n _ (by rw [unplaced, unplaced, hfound]) (by omega)

/-- What follows the name of a function as it is printed. -/
def signatureGlyphs (parameters : List Parameter) (effects : Effects) (result : Option TypeExpr)
    (requirements : List Requirement) (body : Option (Block Item)) : List Glyph :=
  .mark '(' :: (commaGlyphs (parameters.map (·.glyphs)) ++ .mark ')' :: (effects.glyphs ++
    ((result.toList.flatMap fun t => .arrow :: t.glyphs) ++
      (whereGlyphs requirements ++ bodyGlyphs body))))

theorem glyphs_function (position : Nat) (name : String) (parameters : List Parameter)
    (effects : Effects) (result : Option TypeExpr) (requirements : List Requirement)
    (body : Option (Block Item)) :
    (function position name parameters effects result requirements body).glyphs =
      (Glyph.word "func").onLine :: .word name ::
        signatureGlyphs parameters effects result requirements body := by
  rw [glyphs, signatureGlyphs]

/-! ## Items, constructor by constructor -/

section constructors

variable {position : Nat}

/-- Something in front of which an item can stand can follow every part of an item. -/
theorem stops_item {gs : List Glyph} (h : Stops Ends.line gs) : Stops Ends.item gs :=
  fun g hg => Ends.line_item (h g hg)

theorem stops_whereGlyphs (rs : List Requirement) {gs : List Glyph} (h : Stops Ends.item gs) :
    Stops Ends.item (whereGlyphs rs ++ gs) := by
  cases rs with
  | nil => exact h
  | cons r rs =>
    intro g hg
    cases hg
    rfl

theorem stops_bodyGlyphs (body : Option (Block Item)) {gs : List Glyph} (h : Stops Ends.line gs) :
    Stops Ends.item (bodyGlyphs body ++ gs) ∧
      ∀ g ∈ (bodyGlyphs body ++ gs).head?, g.name? ≠ some "where" := by
  cases body with
  | none => exact ⟨stops_item h, fun g hg => Ends.line_ne_where (h g hg)⟩
  | some b =>
    rw [bodyGlyphs, blockGlyphs_eq]
    constructor
    · intro g hg
      cases hg
      rfl
    · intro g hg
      cases hg
      simp [Glyph.name?]

theorem readAtOnce_variable {name : String} {type : Option TypeExpr} (plain : IsPlainName name)
    (canonical : ∀ t ∈ type, t.Canonical .whole) :
    («variable» position (.name name) type).ReadAtOnce := by
  intro gs n hgs _ hn
  obtain ⟨n, rfl⟩ : ∃ m, n = m + 2 := ⟨n - 2, by omega⟩
  rw [glyphs] at hn ⊢
  simp only [List.cons_append, List.length_cons] at hn ⊢
  refine reads_declaration (by decide) (by decide) plain fun start => ?_
  refine .ite_pos (by decide) ((Reads.skip 1).bind fun _ _ => ?_)
  refine (reads_bindings canonical (stops_item hgs) start (by omega)).bind fun found hfound => ?_
  obtain ⟨declared, rfl, hdeclared⟩ := hfound
  exact .pure (by simp [unplaced, hdeclared, Binder.text])

theorem readAtOnce_alias {name : String} {target : TypeExpr} (plain : IsPlainName name)
    (canonical : target.Canonical .whole) : («alias» position name target).ReadAtOnce := by
  intro gs n hgs _ hn
  obtain ⟨n, rfl⟩ : ∃ m, n = m + 2 := ⟨n - 2, by omega⟩
  rw [glyphs] at hn ⊢
  simp only [List.cons_append, List.length_cons] at hn ⊢
  refine reads_declaration (by decide) (by decide) plain fun start => ?_
  refine .ite_neg (by decide) (.ite_neg (by decide) (.ite_pos (by decide) ?_))
  refine (Reads.skip 1).bind fun _ _ => ?_
  refine (reads_name rfl).bind_known ?_
  refine (reads_angles_none fun g hg => by cases hg; simp [Glyph.mark]).bind fun _ _ => ?_
  refine (reads_eats rfl).bind_known (.ite_pos rfl ?_)
  refine (canonical.readBack (fun g hg => Ends.item_whole (Ends.line_item (hgs g hg)))
    (by omega)).bind fun found hfound => .pure ?_
  simp [unplaced, hfound]

theorem readAtOnce_cast {operator : CastOperator} {target : TypeExpr}
    (canonical : target.Canonical .whole) : (cast position operator target).ReadAtOnce := by
  intro gs n hgs _ hn
  obtain ⟨n, rfl⟩ : ∃ m, n = m + 1 := ⟨n - 1, by omega⟩
  rw [glyphs, List.length_append] at hn
  rw [glyphs, List.append_assoc]
  have hlook : Reads (look castWord?) (operator.glyphs ++ (target.glyphs ++ gs))
      (· = some operator.wordAlone) (operator.glyphs ++ (target.glyphs ++ gs)) :=
    .look fun ts hts => castWord_of_written operator hts
  refine hlook.bind_known ?_
  refine (reads_castExpr canonical (fun g hg => Ends.item_whole (Ends.line_item (hgs g hg)))
    operator (by omega)).map fun found hfound => ?_
  obtain ⟨start, target', rfl, htarget⟩ := hfound
  simp [unplaced, htarget]

section functions

variable {name : String} {parameters : List Parameter} {effects : Effects}
  {result : Option TypeExpr} {requirements : List Requirement} {body : Option (Block Item)}
  (canonical_parameters : ∀ p ∈ parameters, p.Canonical)
  (canonical_result : ∀ t ∈ result, t.Canonical .whole)
  (canonical_requirements : ∀ r ∈ requirements, r.Canonical)
  (h : ∀ b ∈ body, ∀ i ∈ b.items, i.ReadBack) (apart : ∀ b ∈ body, Apart b.items)
include canonical_parameters canonical_result canonical_requirements h apart

/-- What follows the name of a function is read back, whatever the name is. -/
theorem reads_signature {gs : List Glyph} {n : Nat} (hgs : Stops Ends.line gs)
    (hopen : body = none → ∀ g ∈ gs.head?, g.kind ≠ .punct '{')
    (hn : 16 * ((signatureGlyphs parameters effects result requirements body).length +
      gs.length) ≤ n) (start : Nat) :
    Reads (signature n start name)
      (signatureGlyphs parameters effects result requirements body ++ gs)
      (fun found => found.map (·.map unplaced) =
        some [(function position name parameters effects result requirements body).unplaced])
      gs := by
  rw [signatureGlyphs] at hn ⊢
  simp only [List.cons_append, List.append_assoc, List.length_cons, List.length_append] at hn ⊢
  obtain ⟨hstop, hwhere⟩ := stops_bodyGlyphs body hgs
  have hstops := stops_whereGlyphs requirements hstop
  -- no word after the parameters can be taken for an effect but the effects themselves
  have heffects : ∀ g ∈ ((result.toList.flatMap fun t => .arrow :: t.glyphs) ++
      (whereGlyphs requirements ++ (bodyGlyphs body ++ gs))).head?,
      g.kind ≠ .punct '(' ∧ g.name?.bind Effect.ofWord? = none := by
    intro g hg
    cases result with
    | none =>
      exact ⟨Ends.item_kind_ne (hstops g hg) (by decide), Ends.item_not_effect (hstops g hg)⟩
    | some t =>
      cases hg
      exact ⟨by simp [Glyph.arrow], rfl⟩
  refine (reads_angles_none fun g hg => by cases hg; simp [Glyph.mark]).bind fun _ _ => ?_
  refine (reads_eats rfl).bind_known (.ite_pos rfl ?_)
  refine (reads_parameters canonical_parameters ?_).bind fun parameters' hparameters => ?_
  · simp only [List.length_append]
    omega
  refine (reads_effects effects heffects).bind_known ?_
  refine (reads_result canonical_result hstops ?_).bind fun result' hresult => ?_
  · simp only [List.length_append]
    omega
  refine (reads_whereClause canonical_requirements hstop hwhere ?_).bind
    fun requirements' hrequirements => ?_
  · simp only [List.length_append]
    omega
  refine (reads_body h apart hopen (by omega)).bind fun body' hbody' => .pure ?_
  simp [unplaced, hparameters, hresult, hrequirements, hbody']

theorem readAtOnce_function (plain : IsPlainName name) :
    (function position name parameters effects result requirements body).ReadAtOnce := by
  intro gs n hgs hbody hn
  obtain ⟨n, rfl⟩ : ∃ m, n = m + 3 := ⟨n - 3, by omega⟩
  rw [glyphs_function] at hn ⊢
  simp only [List.cons_append, List.length_cons] at hn ⊢
  have hopen : body = none → ∀ g ∈ gs.head?, g.kind ≠ .punct '{' := by
    rintro rfl
    exact hbody rfl
  refine reads_declaration (by decide) (by decide) plain fun start => ?_
  refine .ite_neg (by decide) (.ite_pos (by decide) ?_)
  refine (Reads.skip 1).bind fun _ _ => ?_
  refine (reads_functionName name).bind_known ?_
  refine .ite_neg plain.ne_empty ?_
  exact reads_signature canonical_parameters canonical_result canonical_requirements h apart hgs
    hopen (by omega) start

end functions

theorem readAtOnce_nominal {kind : NominalKind} {name : String} {inherits : List TypeExpr}
    {requirements : List Requirement} {members : Block Item}
    (plain : ∀ part ∈ nameParts name, IsPlainName part)
    (canonical_inherits : ∀ t ∈ inherits, t.Canonical .whole)
    (canonical_requirements : ∀ r ∈ requirements, r.Canonical)
    (h : ∀ i ∈ members.items, i.ReadBack) (apart : Apart members.items) :
    (nominal position kind name inherits requirements members).ReadAtOnce := by
  intro gs n hgs hbody hn
  obtain ⟨n, rfl⟩ : ∃ m, n = m + 3 := ⟨n - 3, by omega⟩
  rw [glyphs] at hn ⊢
  simp only [List.cons_append, List.append_assoc, List.length_cons, List.length_append] at hn ⊢
  obtain ⟨hstop, hwhere⟩ := stops_bodyGlyphs (some members) hgs
  rw [bodyGlyphs] at hstop hwhere
  have hstops := stops_whereGlyphs requirements hstop
  have hnext : ∀ c, c = '.' ∨ c = '<' → ∀ g ∈ (inheritGlyphs inherits ++
      (whereGlyphs requirements ++ (blockGlyphs .free members ++ gs))).head?,
      g.kind ≠ .punct c := by
    intro c hc g hg
    cases inherits with
    | nil => exact Ends.item_kind_ne (hstops g hg) (by rcases hc with rfl | rfl <;> decide)
    | cons t ts =>
      cases hg
      rcases hc with rfl | rfl <;> simp [Glyph.mark]
  have hname : name ≠ "" := by
    rintro rfl
    exact (plain "" (by decide)).ne_empty rfl
  have hdeclared : ∀ start, Reads (declared (n + 1) start kind.keyword)
      ((Glyph.word kind.keyword).onLine :: (dottedGlyphs (nameParts name) ++
        (inheritGlyphs inherits ++
          (whereGlyphs requirements ++ (blockGlyphs .free members ++ gs)))))
      (fun found => found.map (·.map unplaced) =
        some [(nominal position kind name inherits requirements members).unplaced]) gs := by
    intro start
    rw [declared_keyword]
    refine (Reads.skip 1).bind fun _ _ => ?_
    refine (reads_nominalName name (hnext '.' (.inl rfl))).bind_known ?_
    refine .ite_neg hname ?_
    refine (reads_angles_none (hnext '<' (.inr rfl))).bind fun _ _ => ?_
    refine (reads_inherited canonical_inherits hstops ?_).bind fun inherits' hinherits => ?_
    · simp only [List.length_append]
      omega
    refine (reads_whereClause canonical_requirements hstop hwhere ?_).bind
      fun requirements' hrequirements => ?_
    · simp only [List.length_append]
      omega
    refine (reads_startsBlock .free members).bind_known (.ite_pos rfl ?_)
    refine (reads_block h apart .free (by omega)).bind fun members' hmembers => .pure ?_
    simp [unplaced, hinherits, hrequirements, hmembers]
  obtain ⟨part, parts, hparts⟩ := List.exists_cons_of_ne_nil (nameParts_ne_nil name)
  rw [hparts, dottedGlyphs] at hdeclared ⊢
  refine reads_declaration ?_ ?_ (plain part (by rw [hparts]; exact List.mem_cons_self)) hdeclared
  · cases kind <;> decide
  · cases kind <;> decide

end constructors

/-- **A printed item is read back.** -/
theorem Canonical.readBack {i : Item} (h : i.Canonical) : i.ReadBack := by
  induction h with
  | block _ apart ih => exact readBack_block ih apart
  | «variable» plain canonical =>
    exact (readAtOnce_variable plain canonical).readBack (by simp [isBlock])
  | function plain parameters result requirements _ apart ih =>
    exact (readAtOnce_function parameters result requirements ih apart plain).readBack
      (by simp [isBlock])
  | nominal plain inherits requirements _ apart ih =>
    exact (readAtOnce_nominal plain inherits requirements ih apart).readBack (by simp [isBlock])
  | «alias» plain canonical =>
    exact (readAtOnce_alias plain canonical).readBack (by simp [isBlock])
  | cast canonical => exact (readAtOnce_cast canonical).readBack (by simp [isBlock])

end Item

/-! ## Files -/

/-- The tokens of legible glyphs close the braces that the glyphs close, and no others. -/
theorem Legible.closes_append {afterDot : Bool} {pending : Nat} {gs : List Glyph}
    {ts : List Placed} (h : Legible afterDot pending gs) (hts : Written gs ts) (open_before : Nat)
    (more : List Token) :
    Closes (open_before + pending) (ts.map (·.toToken) ++ more) ↔ Closes open_before more := by
  induction h generalizing ts with
  | nil =>
    cases hts
    rfl
  | opening _ _ ih =>
    rcases hts with _ | ⟨first, more⟩
    rw [List.map_cons, List.cons_append, closes_open (by simp [first.is])]
    exact ih more
  | closing _ _ ih =>
    rcases hts with _ | ⟨first, more⟩
    rw [List.map_cons, List.cons_append, ← Nat.add_assoc, closes_close (by simp [first.is])]
    exact ih more
  | other _ _ hopen hclose _ ih =>
    rcases hts with _ | ⟨first, more⟩
    rw [List.map_cons, List.cons_append, Closes, if_neg (by simpa [first.is] using hopen),
      if_neg (by simpa [first.is] using hclose)]
    exact ih more

/-- The braces of legible glyphs are closed in their tokens too. -/
theorem Legible.closes {afterDot : Bool} {pending : Nat} {gs : List Glyph} {ts : List Placed}
    (h : Legible afterDot pending gs) (hts : Written gs ts) :
    Closes pending (ts.map (·.toToken)) := by
  have hcloses := (h.closes_append hts 0 []).2 rfl
  rwa [Nat.zero_add, List.append_nil] at hcloses

/-- **Parsing undoes printing.** Canonical items, printed one to a line in any layout, are read
back as they were, up to positions, if no block follows a function without a body. -/
theorem parse_printItems (loose : Nat → Bool) {items : List Item} (h : ∀ i ∈ items, i.Canonical)
    (apart : Item.Apart items) : ∃ file, SourceFile.parse (printItems loose items) = .ok file ∧
      file.items.map Item.unplaced = items.map Item.unplaced := by
  have hlegible : Legible false 0 (Item.listGlyphs items) := by
    have hsound := Item.sound_listGlyphs fun i hi => (h i hi).sound
    simpa using hsound .nil
  have hfirst : ∀ g ∈ (Item.listGlyphs items).head?, g.gap = .line := by
    have hstops : Stops Ends.line (Item.listGlyphs items ++ []) :=
      stops_listGlyphs items fun g hg => by cases hg
    intro g hg
    rw [List.append_nil] at hstops
    exact of_decide_eq_true (Bool.and_eq_true_iff.1 (hstops g hg)).1
  -- from here on only the tokens matter, and they are those of the glyphs
  obtain ⟨tokens, htokens, hwritten⟩ := written_of_tokenize loose hlegible hfirst
  have hlen : tokens.length = (Item.listGlyphs items).length := by
    rw [← hwritten.length_eq]
    exact (Placed.length_following none tokens).symm
  have hbraces : checkBraces tokens = .ok () := by
    rw [checkBraces, matchBraces_eq_ok, ← Placed.map_toToken_following none tokens]
    exact hlegible.closes hwritten
  have hread : Reads (TokenParser.items (depth tokens.length) false []) (Item.listGlyphs items)
      (·.map Item.unplaced = items.map Item.unplaced) [] := by
    rw [← List.append_nil (Item.listGlyphs items)]
    refine reads_items (fun i hi => (h i hi).readBack) apart (fun g hg => by cases hg)
      (fun g hg => by cases hg) ?_ fun m found hfound hm => ?_
    · rw [depth, hlen, List.length_nil]
      omega
    · obtain ⟨m, rfl⟩ : ∃ k, m = k + 1 := ⟨m - 1, by omega⟩
      refine (reads_items_end m found).mono fun l hl => ?_
      rw [hl, List.map_reverse, hfound]
      simp
  obtain ⟨found, rest, hitems, hfound, -⟩ := hread hwritten
  refine ⟨⟨found⟩, SourceFile.parse_eq_ok.2 ⟨tokens, htokens, hbraces, ?_⟩, hfound⟩
  rw [SourceFile.ofTokens, StateT.run, hitems]

/-- A function without a body, a variable and a block, printed with single spaces. -/
theorem sorting_function_read_back :
    let key : TypeExpr := .named 0 "Key" []
    let keys : TypeExpr := .attributed 0 [.word "inout"] (.array 0 key)
    let items : List Item := [
      .function 0 "sort" [⟨["by", "order"], keys⟩] ⟨true, true⟩ (some (.optional 0 key .question))
        [⟨key, true, key⟩] none,
      .variable 0 (.name "last") none,
      .block ⟨0, [.cast 0 .test (.tuple 0 [⟨some ⟨"x", none, 0⟩, key⟩, ⟨none, key⟩])]⟩]
    printItems (fun _ => true) items =
        ("func sort ( by order : inout [ Key ] ) async throws -> Key? where Key = = Key\n" ++
          "let last\n\x7b\nis ( x : Key , Key )\n\x7d").toList ∧
      ∃ file, SourceFile.parse (printItems (fun _ => true) items) = .ok file ∧
        file.items.map Item.unplaced = items.map Item.unplaced := by
  intro key keys items
  have hkey : key.Canonical .suffixable := .named (by decide) (by simp)
  have hwhole : key.Canonical .whole := .whole (.composed (.single hkey))
  have hkeys : keys.Canonical .whole :=
    show (TypeExpr.attributed 0 (([] : List String).map .attribute ++ ["inout"].map .word)
        (.array 0 key)).Canonical .whole from
      .attributed (.inr (by decide)) (by simp) (by decide) (.composed (.single (.array hwhole)))
  have hparameter : Parameter.Canonical ⟨["by", "order"], keys⟩ := ⟨by simp, by decide, hkeys⟩
  have hresult : (TypeExpr.optional 0 key .question).Canonical .whole :=
    .whole (.composed (.single (.optional hkey)))
  have htuple : (TypeExpr.tuple 0 [⟨some ⟨"x", none, 0⟩, key⟩, ⟨none, key⟩]).Canonical .whole := by
    have hx : IsPlainName "x" := by decide
    exact .whole (.composed (.single (.tuple (by simp [Label.Plain, Label.names, hx])
      (by simp [hwhole]))))
  have hitems : ∀ i ∈ items, i.Canonical := by
    refine List.forall_mem_cons.2 ⟨?_, List.forall_mem_cons.2 ⟨?_, List.forall_mem_singleton.2 ?_⟩⟩
    · exact .function (by decide) (by simp [hparameter]) (by simp [hresult])
        (List.forall_mem_singleton.2 ⟨hwhole, hwhole⟩) (by simp) (by simp)
    · exact .variable (by decide) (by simp)
    · exact .block (List.forall_mem_singleton.2 (.cast htuple)) trivial
  exact ⟨by decide +kernel, parse_printItems _ hitems ⟨by decide, by decide, trivial⟩⟩

end SwiftTuples
