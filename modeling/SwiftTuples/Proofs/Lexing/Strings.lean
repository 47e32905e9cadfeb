import SwiftTuples.Proofs.Lexing.Front
/-!
# String literals

What may stand inside a string literal, said without the scan that looks for its end (`Inside`).
Between quotes stand characters that begin neither the end nor an escape, escapes, and
interpolations; between the parentheses of an interpolation stand parentheses again, and string
literals. The scan ends where such a text does, and where it ends such a text stands
(`string_eq_ok_iff`). So a literal is cut off as one piece, whatever it holds.

How many quotes open a literal is seen from what follows them: two that hold nothing between them
are taken with a third one that follows. `Delimiter.Opens` leaves such texts out.
-/

namespace SwiftTuples

namespace Literal

/-! ## The grammar of string literals -/

namespace Delimiter

/-- The literal that holds a text. -/
def enclose (d : Delimiter) (body : Text) : Text :=
  List.replicate d.hashes '#' ++ (d.quotes ++ (body ++ d.closing))

/-- No more quotes stand before the text than open a literal, if `after` follows the literal. -/
def Opens (d : Delimiter) (body after : Text) : Prop :=
  d.multiline = false → ¬ ['"', '"'] <+: body ++ (d.closing ++ after)

end Delimiter

/-- What holds a text inside a literal. -/
inductive Holder where
  | quotes (d : Delimiter)
  | parentheses

/-- Texts that quotes and parentheses hold. -/
inductive Inside : Holder → Text → Prop
  | nil {holder : Holder} : Inside holder []
  /-- A character between quotes, where they are not closed and no escape begins. -/
  | char {d : Delimiter} {c : Char} {body : Text}
      (closes : ¬ d.closing <+: c :: (body ++ d.closing))
      (escapes : ¬ d.escape <+: c :: (body ++ d.closing)) (line : c = '\n' → d.multiline)
      (more : Inside (.quotes d) body) : Inside (.quotes d) (c :: body)
  /-- Any one character that is escaped, a quote and a line end too. -/
  | escape {d : Delimiter} {c : Char} {body : Text} (plain : c ≠ '(')
      (more : Inside (.quotes d) body) : Inside (.quotes d) (d.escape ++ c :: body)
  | interpolation {d : Delimiter} {inner body : Text} (inside : Inside .parentheses inner)
      (more : Inside (.quotes d) body) :
      Inside (.quotes d) (d.escape ++ '(' :: (inner ++ ')' :: body))
  | other {c : Char} {rest : Text} (plain : c ≠ '(' ∧ c ≠ ')' ∧ c ≠ '"')
      (more : Inside .parentheses rest) : Inside .parentheses (c :: rest)
  | group {inner rest : Text} (inside : Inside .parentheses inner)
      (more : Inside .parentheses rest) : Inside .parentheses ('(' :: (inner ++ ')' :: rest))
  /-- A literal between parentheses. Hash marks before it are characters like others. -/
  | string {d : Delimiter} {body rest : Text} (bare : d.hashes = 0)
      (inside : Inside (.quotes d) body) (opens : d.Opens body rest)
      (more : Inside .parentheses rest) : Inside .parentheses (d.enclose body ++ rest)

/-! ## How a literal opens -/

namespace Delimiter

variable {d : Delimiter} {body after : Text}

/-- What follows an empty literal has to be known to some character for how it opens. -/
theorem Opens.append (h : d.Opens body after) {u : Text} (hu : u.head? ≠ some '"') :
    d.Opens body (after ++ u) := by
  intro hsingle hquotes
  rw [← List.append_assoc, ← List.append_assoc] at hquotes
  by_cases hshort : 2 ≤ (body ++ d.closing ++ after).length
  · have hfront := List.prefix_of_prefix_length_le hquotes (List.prefix_append ..) hshort
    exact h hsingle (by rwa [List.append_assoc] at hfront)
  · obtain ⟨more, hmore⟩ := d.exists_closing
    -- one quote alone stands before `u`
    have hone : body ++ d.closing ++ after = ['"'] := by
      rw [hmore] at hshort ⊢
      simp only [List.length_append, List.length_cons] at hshort
      obtain rfl : body = [] := List.eq_nil_of_length_eq_zero (by omega)
      obtain rfl : more = [] := List.eq_nil_of_length_eq_zero (by omega)
      obtain rfl : after = [] := List.eq_nil_of_length_eq_zero (by omega)
      rfl
    rw [hone] at hquotes
    cases u with
    | nil => simp at hquotes
    | cons c u => exact hu (by simpa [eq_comm] using hquotes)

/-- What a literal opens with is seen from its text. -/
theorem Opens.of_prefix {after' : Text} (h : d.Opens body after) (hafter : after' <+: after) :
    d.Opens body after' := by
  obtain ⟨u, rfl⟩ := hafter
  intro hsingle hquotes
  refine h hsingle (hquotes.trans ?_)
  rw [← List.append_assoc, ← List.append_assoc, ← List.append_assoc]
  exact List.prefix_append ..

/-- **A literal is opened by its own hash marks and quotes.** -/
theorem atFront_enclose (h : d.Opens body after) : atFront (d.enclose body ++ after) = d := by
  obtain ⟨marks, multiline⟩ := d
  cases multiline with
  | true =>
    have htext : (Delimiter.mk marks true).enclose body ++ after =
        List.replicate marks '#' ++ '"' :: ('"' :: '"' ::
          (body ++ ((Delimiter.mk marks true).closing ++ after))) := by
      simp [enclose, quotes]
    rw [htext, atFront_replicate]
    rfl
  | false =>
    have htext : (Delimiter.mk marks false).enclose body ++ after =
        List.replicate marks '#' ++ '"' ::
          (body ++ ((Delimiter.mk marks false).closing ++ after)) := by
      simp [enclose, quotes]
    have hsingle := h rfl
    rw [← List.isPrefixOf_iff_prefix, Bool.not_eq_true] at hsingle
    rw [htext, atFront_replicate, hsingle]

theorem drop_openingLength (d : Delimiter) (body after : Text) :
    (d.enclose body ++ after).drop d.openingLength = body ++ (d.closing ++ after) := by
  have htext : d.enclose body ++ after =
      (List.replicate d.hashes '#' ++ d.quotes) ++ (body ++ (d.closing ++ after)) := by
    simp [enclose]
  rw [htext, List.drop_left' (by simp [openingLength])]

theorem length_enclose (d : Delimiter) (body : Text) :
    (d.enclose body).length = d.openingLength + body.length + d.closing.length := by
  simp only [enclose, openingLength, List.length_append, List.length_replicate]
  omega

end Delimiter

/-! ## The scan over what a literal holds -/

/-- The scan inside `holder` passes over a text: between quotes up to their end, and between
parentheses to whatever follows the text. -/
def Passes (body : Text) : Holder → Prop
  | .quotes d => ∀ opening seen u, stringBody d opening seen (body ++ (d.closing ++ u)) =
      .ok (seen + body.length + d.closing.length)
  | .parentheses => ∀ depth opening seen u, u.head? ≠ some '"' →
      interpolation depth opening seen (body ++ u) =
        interpolation depth opening (seen + body.length) u

section Passing

variable {d : Delimiter} {body inner rest : Text}

/-- What is not at the front of a text and the closing quotes is not there if more follows. -/
theorem not_isPrefixOf_append {front : Text} (hlength : front.length ≤ d.closing.length)
    (body : Text) (h : ¬ front <+: body ++ d.closing) (u : Text) :
    ¬ front.isPrefixOf (body ++ (d.closing ++ u)) := by
  rw [List.isPrefixOf_iff_prefix, ← List.append_assoc]
  refine fun hfront => h (List.prefix_of_prefix_length_le hfront (List.prefix_append ..) ?_)
  rw [List.length_append]
  omega

theorem Delimiter.length_escape_le (d : Delimiter) : d.escape.length ≤ d.closing.length := by
  obtain ⟨more, hmore⟩ := d.exists_quotes
  simp only [closing, hmore, length_escape, List.length_append, List.length_cons,
    List.length_replicate]
  omega

theorem Passes.char {c : Char} (closes : ¬ d.closing <+: c :: (body ++ d.closing))
    (escapes : ¬ d.escape <+: c :: (body ++ d.closing)) (line : c = '\n' → d.multiline)
    (more : Passes body (.quotes d)) : Passes (c :: body) (.quotes d) := by
  intro opening seen u
  have hline : ¬ (c = '\n' && !d.multiline) = true := by
    simp only [Bool.and_eq_true, decide_eq_true_eq, Bool.not_eq_true']
    exact fun ⟨hc, hsingle⟩ => by rw [line hc] at hsingle; cases hsingle
  have hclose : ¬ d.closing.isPrefixOf (c :: (body ++ (d.closing ++ u))) :=
    not_isPrefixOf_append (Nat.le_refl _) (c :: body) closes u
  have hescape : ¬ d.escape.isPrefixOf (c :: (body ++ (d.closing ++ u))) :=
    not_isPrefixOf_append d.length_escape_le (c :: body) escapes u
  rw [List.cons_append, stringBody_char hclose hescape hline, more, List.length_cons]
  congr 1
  omega

theorem Passes.escape {c : Char} (plain : c ≠ '(') (more : Passes body (.quotes d)) :
    Passes (d.escape ++ c :: body) (.quotes d) := by
  intro opening seen u
  have htext : (d.escape ++ c :: body) ++ (d.closing ++ u) =
      (d.escape ++ [c]) ++ (body ++ (d.closing ++ u)) := by simp
  rw [htext, stringBody_escape, if_neg plain, more]
  simp only [List.length_append, List.length_cons, Delimiter.length_escape]
  congr 1
  omega

theorem Passes.interpolation (inside : Passes inner .parentheses)
    (more : Passes body (.quotes d)) :
    Passes (d.escape ++ '(' :: (inner ++ ')' :: body)) (.quotes d) := by
  intro opening seen u
  have htext : (d.escape ++ '(' :: (inner ++ ')' :: body)) ++ (d.closing ++ u) =
      (d.escape ++ ['(']) ++ (inner ++ ')' :: (body ++ (d.closing ++ u))) := by simp
  have hdrop : (inner ++ ')' :: (body ++ (d.closing ++ u))).drop (0 + inner.length + 1) =
      body ++ (d.closing ++ u) := by
    rw [← List.singleton_append, ← List.append_assoc, List.drop_left' (by simp)]
  rw [htext, stringBody_escape, if_pos rfl, inside _ _ _ _ (by simp), interpolation_end]
  simp only [hdrop, more _ _ u, List.length_append, List.length_cons, Delimiter.length_escape]
  congr 1
  omega

theorem Passes.other {c : Char} (plain : c ≠ '(' ∧ c ≠ ')' ∧ c ≠ '"')
    (more : Passes rest .parentheses) : Passes (c :: rest) .parentheses := by
  intro depth opening seen u hu
  rw [List.cons_append, interpolation_char plain.1 plain.2.1 plain.2.2, more _ _ _ _ hu,
    List.length_cons, Nat.add_assoc, Nat.add_comm 1]

theorem Passes.group (inside : Passes inner .parentheses) (more : Passes rest .parentheses) :
    Passes ('(' :: (inner ++ ')' :: rest)) .parentheses := by
  intro depth opening seen u hu
  rw [List.cons_append, List.append_assoc, interpolation_open, inside _ _ _ _ (by simp),
    List.cons_append, interpolation_close, more _ _ _ _ hu]
  simp only [List.length_append, List.length_cons]
  congr 1
  omega

theorem Passes.string (bare : d.hashes = 0) (inside : Passes body (.quotes d))
    (opens : d.Opens body rest) (more : Passes rest .parentheses) :
    Passes (d.enclose body ++ rest) .parentheses := by
  intro depth opening seen u hu
  obtain ⟨quotes, hquotes⟩ := d.exists_quotes
  have htext : d.enclose body ++ (rest ++ u) =
      '"' :: (quotes ++ (body ++ (d.closing ++ (rest ++ u)))) := by
    simp [Delimiter.enclose, bare, hquotes]
  have hd : Delimiter.atFront ('"' :: (quotes ++ (body ++ (d.closing ++ (rest ++ u))))) = d := by
    rw [← htext, Delimiter.atFront_enclose (opens.append hu)]
  have hlength : d.quotes.length - 1 = quotes.length := by simp [hquotes]
  have hdrop : (quotes ++ (body ++ (d.closing ++ (rest ++ u)))).drop
      (quotes.length + body.length + d.closing.length) = rest ++ u := by
    rw [← List.append_assoc, ← List.append_assoc, List.drop_left' (by simp [Nat.add_assoc])]
  rw [List.append_assoc, htext, interpolation_string hd, hlength, List.drop_left, inside]
  simp only [hdrop, more _ _ _ _ hu, List.length_append, Delimiter.length_enclose,
    Delimiter.openingLength, bare, hquotes, List.length_cons]
  congr 1
  omega

end Passing

/-- **The scan passes over what a literal holds**, however deep literals nest. -/
theorem Inside.passes {holder : Holder} {body : Text} (h : Inside holder body) :
    Passes body holder := by
  induction h with
  | @nil holder =>
    cases holder with
    | quotes d => exact fun opening seen u => stringBody_closing d opening seen u
    | parentheses => exact fun _ _ _ _ _ => rfl
  | char closes escapes line _ ih => exact .char closes escapes line ih
  | escape plain _ ih => exact .escape plain ih
  | interpolation _ _ ih ih' => exact .interpolation ih ih'
  | other plain _ ih => exact .other plain ih
  | group _ _ ih ih' => exact .group ih ih'
  | string bare _ opens _ ih ih' => exact .string bare ih opens ih'

/-- **A literal reaches as far as its closing quotes.** -/
theorem string_enclose {d : Delimiter} {body after : Text} (inside : Inside (.quotes d) body)
    (opens : d.Opens body after) :
    string (d.enclose body ++ after) = .ok (d.enclose body).length := by
  rw [string, d.atFront_enclose opens, d.drop_openingLength, inside.passes, d.length_enclose]

/-! ## What stands before the end of a literal -/

/-- Texts that close an interpolation from within `depth` further parentheses. -/
inductive ClosesGroups : Nat → Text → Prop
  | last {inner : Text} (inside : Inside .parentheses inner) : ClosesGroups 0 (inner ++ [')'])
  | next {depth : Nat} {inner more : Text} (inside : Inside .parentheses inner)
      (closes : ClosesGroups depth more) : ClosesGroups (depth + 1) (inner ++ ')' :: more)

/-- What goes in front of what parentheses hold goes in front of what closes them. -/
theorem ClosesGroups.prepend {depth : Nat} {t : Text} (h : ClosesGroups depth t) (front : Text)
    (hfront : ∀ inner, inner <+: t → Inside .parentheses inner →
      Inside .parentheses (front ++ inner)) : ClosesGroups depth (front ++ t) := by
  cases h with
  | last inside =>
    rw [← List.append_assoc]
    exact .last (hfront _ (List.prefix_append ..) inside)
  | next inside closes =>
    rw [← List.append_assoc]
    exact .next (hfront _ (List.prefix_append ..) inside) closes

/-- The text goes on up to the closing quotes, `m` characters after `seen` others. -/
def EndsAt (d : Delimiter) (seen : Nat) (t : Text) (m : Nat) : Prop :=
  ∃ body after, t = body ++ (d.closing ++ after) ∧ Inside (.quotes d) body ∧
    m = seen + body.length + d.closing.length

/-- The text goes on up to the end of an interpolation, `m` characters after `seen` others. -/
def LeavesAt (depth seen : Nat) (t : Text) (m : Nat) : Prop :=
  ∃ front after, t = front ++ after ∧ ClosesGroups depth front ∧ m = seen + front.length

section Finding

variable {d : Delimiter} {depth seen m : Nat} {t : Text}

theorem EndsAt.char {c : Char} (hclose : ¬ d.closing.isPrefixOf (c :: t))
    (hescape : ¬ d.escape.isPrefixOf (c :: t)) (hline : ¬ (c = '\n' && !d.multiline) = true)
    (h : EndsAt d (seen + 1) t m) : EndsAt d seen (c :: t) m := by
  obtain ⟨body, after, rfl, inside, rfl⟩ := h
  rw [List.isPrefixOf_iff_prefix] at hclose hescape
  have hfront : c :: (body ++ d.closing) <+: c :: (body ++ (d.closing ++ after)) := by
    rw [← List.append_assoc]
    exact List.prefix_append (c :: (body ++ d.closing)) after
  refine ⟨c :: body, after, rfl, .char (fun h => hclose (h.trans hfront))
    (fun h => hescape (h.trans hfront)) ?_ inside, by rw [List.length_cons]; omega⟩
  rintro rfl
  simpa using hline

theorem EndsAt.escape {c : Char} (hc : c ≠ '(') (h : EndsAt d (seen + d.hashes + 2) t m) :
    EndsAt d seen ((d.escape ++ [c]) ++ t) m := by
  obtain ⟨body, after, rfl, inside, rfl⟩ := h
  refine ⟨d.escape ++ c :: body, after, by simp, .escape hc inside, ?_⟩
  simp only [List.length_append, List.length_cons, Delimiter.length_escape]
  omega

theorem EndsAt.interpolation {n : Nat} (hinner : LeavesAt 0 0 t n)
    (h : EndsAt d (seen + d.hashes + 2 + n) (t.drop n) m) :
    EndsAt d seen ((d.escape ++ ['(']) ++ t) m := by
  obtain ⟨front, rest, rfl, hfront, rfl⟩ := hinner
  rw [Nat.zero_add, List.drop_left] at h
  obtain ⟨body, after, rfl, inside, rfl⟩ := h
  cases hfront with
  | @last inner hinner =>
    refine ⟨d.escape ++ '(' :: (inner ++ ')' :: body), after, by simp,
      .interpolation hinner inside, ?_⟩
    simp only [List.length_append, List.length_cons, List.length_nil, Delimiter.length_escape]
    omega

theorem LeavesAt.other {c : Char} (plain : c ≠ '(' ∧ c ≠ ')' ∧ c ≠ '"')
    (h : LeavesAt depth (seen + 1) t m) : LeavesAt depth seen (c :: t) m := by
  obtain ⟨front, after, rfl, hfront, rfl⟩ := h
  exact ⟨c :: front, after, rfl, hfront.prepend [c] fun _ _ inside => .other plain inside,
    by rw [List.length_cons]; omega⟩

theorem LeavesAt.opens (h : LeavesAt (depth + 1) (seen + 1) t m) :
    LeavesAt depth seen ('(' :: t) m := by
  obtain ⟨front, after, rfl, hfront, rfl⟩ := h
  cases hfront with
  | @next _ inner more hinner closes =>
    refine ⟨'(' :: (inner ++ ')' :: more), after, rfl, ?_, by rw [List.length_cons]; omega⟩
    have hgroup := closes.prepend ('(' :: (inner ++ [')'])) fun rest _ inside => by
      simpa using Inside.group hinner inside
    simpa using hgroup

theorem LeavesAt.closes (h : LeavesAt depth (seen + 1) t m) :
    LeavesAt (depth + 1) seen (')' :: t) m := by
  obtain ⟨front, after, rfl, hfront, rfl⟩ := h
  exact ⟨')' :: front, after, rfl, .next .nil hfront, by rw [List.length_cons]; omega⟩

end Finding

/-- How a literal opens is seen from the text after its quotes. -/
theorem exists_opening {t : Text} {d : Delimiter} (hraw : isRawString t)
    (hd : Delimiter.atFront t = d) :
    ∃ rest, t = List.replicate d.hashes '#' ++ (d.quotes ++ rest) ∧
      (d.multiline = false → ¬ ['"', '"'] <+: rest) := by
  obtain ⟨k, rest, rfl⟩ := exists_quote hraw
  rw [atFront_replicate] at hd
  subst hd
  by_cases hquotes : ['"', '"'] <+: rest
  · obtain ⟨more, rfl⟩ := hquotes
    exact ⟨more, by simp [Delimiter.quotes], by simp⟩
  · have hsingle : ['"', '"'].isPrefixOf rest = false := by
      rw [Bool.eq_false_iff, ne_eq, List.isPrefixOf_iff_prefix]
      exact hquotes
    exact ⟨rest, by simp [Delimiter.quotes, hsingle], fun _ => hquotes⟩

/-- A literal inside an interpolation ends where its closing quotes are. -/
theorem LeavesAt.string {depth seen m n : Nat} {t : Text} {d : Delimiter}
    (hd : Delimiter.atFront ('"' :: t) = d)
    (hbody : EndsAt d (d.quotes.length - 1) (t.drop (d.quotes.length - 1)) n)
    (h : LeavesAt depth (seen + 1 + n) (t.drop n) m) : LeavesAt depth seen ('"' :: t) m := by
  have hbare : d.hashes = 0 := by rw [← hd]; exact congrArg Delimiter.hashes (atFront_replicate 0 t)
  obtain ⟨rest, ht, hopens⟩ := exists_opening (isRawString_replicate 0 t) hd
  rw [List.replicate_zero, List.nil_append, hbare, List.replicate_zero, List.nil_append] at ht
  obtain ⟨quotes, hquotes⟩ := d.exists_quotes
  rw [hquotes, List.cons_append] at ht
  obtain ⟨-, rfl⟩ := List.cons.inj ht
  rw [hquotes, List.length_cons, Nat.add_sub_cancel, List.drop_left] at hbody
  obtain ⟨body, after, rfl, inside, rfl⟩ := hbody
  have hdrop : (quotes ++ (body ++ (d.closing ++ after))).drop
      (quotes.length + body.length + d.closing.length) = after := by
    rw [← List.append_assoc, ← List.append_assoc, List.drop_left' (by simp [Nat.add_assoc])]
  rw [hdrop] at h
  obtain ⟨front, after, rfl, hfront, rfl⟩ := h
  have hliteral : d.enclose body = '"' :: (quotes ++ (body ++ d.closing)) := by
    simp [Delimiter.enclose, hbare, hquotes]
  refine ⟨d.enclose body ++ front, after, by simp [hliteral], ?_, ?_⟩
  · refine hfront.prepend _ fun inner hinner more => .string hbare inside ?_ more
    exact Delimiter.Opens.of_prefix hopens (hinner.trans (List.prefix_append ..))
  · simp only [hliteral, List.length_append, List.length_cons]
    omega

/-- **The scan ends where the grammar does**, for strings and interpolations at once. -/
theorem strings_inside :
    (∀ d opening seen t m, stringBody d opening seen t = .ok m → EndsAt d seen t m) ∧
      ∀ depth opening seen t m, interpolation depth opening seen t = .ok m →
        LeavesAt depth seen t m := by
  refine stringBody.mutual_induct
    (fun d opening seen t => ∀ m, stringBody d opening seen t = .ok m → EndsAt d seen t m)
    (fun depth opening seen t => ∀ m, interpolation depth opening seen t = .ok m →
      LeavesAt depth seen t m) ?stringEnds ?closing ?escapeEnds ?openInterpolation
    ?interpolation ?escape ?line ?char ?interpolationEnds ?opens ?closes ?closesInner
    ?openString ?string ?other
  case stringEnds =>
    intro d opening seen m h
    rw [stringBody] at h
    cases h
  case closing =>
    intro d opening seen c rest hclose m h
    obtain ⟨after, ht⟩ := List.isPrefixOf_iff_prefix.1 hclose
    rw [← ht, stringBody_closing] at h
    exact ⟨[], after, ht.symm, .nil, (Except.ok.inj h).symm⟩
  case escapeEnds =>
    intro d opening seen c rest hclose hescape hdrop m h
    rw [stringBody, if_neg hclose, if_pos hescape] at h
    split at h
    · cases h
    · next hcons => rw [hdrop] at hcons; cases hcons
  case openInterpolation =>
    intro d opening seen c rest _ hescape after fault hdrop hfault _ m h
    rw [d.eq_escape_append hescape hdrop, stringBody_escape, if_pos rfl, hfault] at h
    cases h
  case interpolation =>
    intro d opening seen c rest _ hescape after n hdrop hn hinner hrest m h
    rw [d.eq_escape_append hescape hdrop] at h ⊢
    rw [stringBody_escape, if_pos rfl, hn] at h
    exact .interpolation (hinner n hn) (hrest m h)
  case escape =>
    intro d opening seen c rest _ hescape e after hdrop he hrest m h
    rw [d.eq_escape_append hescape hdrop] at h ⊢
    rw [stringBody_escape, if_neg he] at h
    exact .escape he (hrest m h)
  case line =>
    intro d opening seen c rest hclose hescape hline m h
    rw [stringBody, if_neg hclose, if_neg hescape, if_pos hline] at h
    cases h
  case char =>
    intro d opening seen c rest hclose hescape hline hrest m h
    rw [stringBody_char hclose hescape hline] at h
    exact .char hclose hescape hline (hrest m h)
  case interpolationEnds =>
    intro depth opening seen m h
    rw [interpolation] at h
    cases h
  case opens =>
    intro depth opening seen rest hrest m h
    rw [interpolation_open] at h
    exact .opens (hrest m h)
  case closes =>
    intro opening seen rest _ m h
    rw [interpolation_end] at h
    exact ⟨[')'], rest, rfl, .last .nil, (Except.ok.inj h).symm⟩
  case closesInner =>
    intro opening seen rest depth _ hrest m h
    rw [interpolation_close] at h
    exact .closes (hrest m h)
  case openString =>
    intro depth opening seen rest fault _ _ d quotes hfault _ m h
    have hquotes : d.quotes.length - 1 = quotes := rfl
    rw [interpolation_string rfl, hquotes, hfault] at h
    cases h
  case string =>
    intro depth opening seen rest n _ _ d quotes hn hbody hrest m h
    have hquotes : d.quotes.length - 1 = quotes := rfl
    rw [interpolation_string rfl, hquotes, hn] at h
    exact .string rfl (hbody n hn) (hrest m h)
  case other =>
    intro depth opening seen c rest hopen hclose hquote hrest m h
    rw [interpolation_char hopen hclose hquote] at h
    exact .other ⟨hopen, hclose, hquote⟩ (hrest m h)

/-- **A literal is found exactly where one of the grammar stands**, and it is that one. -/
theorem string_eq_ok_iff {t : Text} {n : Nat} (hraw : isRawString t) : string t = .ok n ↔
    ∃ (d : Delimiter) (body after : Text), t = d.enclose body ++ after ∧
      Inside (.quotes d) body ∧ d.Opens body after ∧ n = (d.enclose body).length := by
  constructor
  · intro h
    rw [string] at h
    generalize hd : Delimiter.atFront t = d at h
    obtain ⟨rest, rfl, hopens⟩ := exists_opening hraw hd
    rw [← List.append_assoc, List.drop_left' (by simp [Delimiter.openingLength])] at h
    obtain ⟨body, after, rfl, inside, rfl⟩ := strings_inside.1 _ _ _ _ _ h
    exact ⟨d, body, after, by simp [Delimiter.enclose], inside, hopens,
      (Delimiter.length_enclose ..).symm⟩
  · rintro ⟨d, body, after, rfl, inside, opens, rfl⟩
    exact string_enclose inside opens

/-- The scan decides what a literal may hold: it ends at the closing quotes and not before. -/
theorem inside_iff {d : Delimiter} {body : Text} : Inside (.quotes d) body ↔
    (stringBody d [] 0 (body ++ d.closing)).toOption = some (body.length + d.closing.length) := by
  constructor
  · intro h
    have hpasses := h.passes [] 0 []
    rw [List.append_nil, Nat.zero_add] at hpasses
    rw [hpasses]
    rfl
  · intro h
    cases hscan : stringBody d [] 0 (body ++ d.closing) with
    | error fault =>
      rw [hscan] at h
      cases h
    | ok n =>
      rw [hscan] at h
      obtain rfl : n = body.length + d.closing.length := Option.some.inj h
      obtain ⟨body', after, htext, inside, hlength⟩ := strings_inside.1 _ _ _ _ _ hscan
      obtain ⟨rfl, -⟩ := List.append_inj htext (by omega)
      exact inside

instance (d : Delimiter) (body : Text) : Decidable (Inside (.quotes d) body) :=
  decidable_of_iff _ inside_iff.symm

/-- Only a backslash begins an escape. -/
theorem Inside.plain {d : Delimiter} {c : Char} {body : Text} (hc : c ≠ '\\')
    (closes : ¬ d.closing <+: c :: (body ++ d.closing)) (line : c = '\n' → d.multiline)
    (more : Inside (.quotes d) body) : Inside (.quotes d) (c :: body) := by
  refine .char closes (fun hescape => ?_) line more
  rw [Delimiter.escape, List.cons_prefix_cons] at hescape
  exact hc hescape.1.symm

/-- Without hash marks a text that a literal holds begins with no quote that closes it, so a
literal that no quote follows opens as it should. -/
theorem Inside.opens {d : Delimiter} {body after : Text} (bare : d.hashes = 0)
    (h : Inside (.quotes d) body) (hafter : after.head? ≠ some '"') : d.Opens body after := by
  intro hsingle hquotes
  have hclosing : d.closing = ['"'] := by simp [Delimiter.closing, Delimiter.quotes, hsingle, bare]
  rw [hclosing] at hquotes
  cases h with
  | nil =>
    cases after with
    | nil => simp at hquotes
    | cons c after => exact hafter (by simpa [eq_comm] using hquotes)
  | char closes =>
    rw [List.cons_append, List.cons_prefix_cons] at hquotes
    exact closes (by simp [hclosing, ← hquotes.1])
  | escape => simp [Delimiter.escape] at hquotes
  | interpolation => simp [Delimiter.escape] at hquotes

end Literal

/-! ## The literal as a token -/

section Literals

open Literal

variable {d : Delimiter} {body after : Text} {operand : Bool}

/-- **A literal is one piece**, wherever it stands in a text. -/
theorem Piece.cutFrom_enclose (inside : Inside (.quotes d) body) (opens : d.Opens body after)
    (done : List Piece) : Piece.cutFrom operand done (d.enclose body ++ after) =
      Piece.cutFrom false (⟨.token .literal, d.enclose body⟩ :: done) after := by
  have hstring := string_enclose inside opens
  have hraw : isRawString (d.enclose body ++ after) := by
    obtain ⟨quotes, hquotes⟩ := d.exists_quotes
    have htext : d.enclose body ++ after =
        List.replicate d.hashes '#' ++ '"' :: (quotes ++ (body ++ (d.closing ++ after))) := by
      simp [Delimiter.enclose, hquotes]
    rw [htext]
    exact isRawString_replicate ..
  obtain ⟨c, rest, hliteral, hc⟩ : ∃ c rest, d.enclose body = c :: rest ∧ (c = '"' ∨ c = '#') := by
    obtain ⟨marks, multiline⟩ := d
    cases marks with
    | zero => cases multiline <;> exact ⟨'"', _, rfl, .inl rfl⟩
    | succ marks => exact ⟨'#', _, rfl, .inr rfl⟩
  rw [hliteral, List.cons_append] at hstring hraw ⊢
  have front : PieceKind.Front operand c (rest ++ after) (.token .literal) rest.length := by
    refine .string ?_ ?_ ?_ ?_ ?_ hstring
    · rcases hc with rfl | rfl <;> exact ⟨by decide, by simp, by simp⟩
    · rcases hc with rfl | rfl <;> decide
    · rcases hc with rfl | rfl <;> decide
    · rcases hc with rfl | rfl <;> decide
    · rcases hc with rfl | rfl <;> simp [hraw]
  rw [cutFrom, front.atFront_eq]
  simp only [List.take_left, List.drop_left]
  rfl

/-- The tokens of a text that begins at `offset`, after tokens that let an operand follow or not
and with or without a line end since them. -/
def lexFrom (operand newline : Bool) (offset : Nat) (t : Text) :
    Except Unterminated (List Token) :=
  (Piece.cutFrom operand [] t).map (Piece.tokensFrom offset newline)

/-- What has been cut off stays as it is. -/
theorem Piece.cutFrom_append (operand : Bool) (done before : List Piece) (t : Text) :
    cutFrom operand (done ++ before) t =
      (cutFrom operand done t).map (before.reverse ++ ·) := by
  fun_induction cutFrom operand done t with
  | case1 => simp [cutFrom, Except.map]
  | case2 operand done c rest fault hfront =>
    rw [cutFrom, hfront]
    rfl
  | case3 operand done c rest kind n hfront ih =>
    rw [cutFrom, hfront]
    exact ih

/-- **A string literal hides what it holds.** Wherever a text is cut from, a literal without hash
marks that no further quote follows is one piece and one token, which reaches from its first quote
to its last one. Then the cut goes on with what follows, and fails only where that does. -/
theorem string_hides_contents {multiline : Bool} {body after : Text}
    (inside : Inside (.quotes ⟨0, multiline⟩) body) (hafter : after.head? ≠ some '"')
    (operand : Bool) :
    let literal := (Delimiter.mk 0 multiline).enclose body
    (∀ done, Piece.cutFrom operand done (literal ++ after) =
        Piece.cutFrom false (⟨.token .literal, literal⟩ :: done) after) ∧
      ∀ newline offset, lexFrom operand newline offset (literal ++ after) =
        (lexFrom false false (offset + literal.size) after).map
          (⟨.literal, offset, offset + literal.size, newline⟩ :: ·) := by
  intro literal
  have hcut : ∀ done, Piece.cutFrom operand done (literal ++ after) =
      Piece.cutFrom false (⟨.token .literal, literal⟩ :: done) after :=
    Piece.cutFrom_enclose inside (inside.opens rfl hafter)
  refine ⟨hcut, fun newline offset => ?_⟩
  have hrest := Piece.cutFrom_append false [] [⟨.token .literal, literal⟩] after
  rw [List.nil_append] at hrest
  rw [lexFrom, hcut, hrest, lexFrom]
  cases Piece.cutFrom false [] after with
  | error fault => rfl
  | ok pieces => rfl

/-- Braces, a comment and further literals are hidden at two depths. -/
theorem nested_string_hides_contents :
    let body : Text := "\x7b \\(f(\"\x7d \\(\"//\")\", (\"\"))) \\\" func".toList
    Inside (.quotes ⟨0, false⟩) body ∧ ", x".toList.head? ≠ some '"' ∧
      (lexFrom true true 0 ('"' :: (body ++ '"' :: ", x".toList))).toOption = some
        [⟨.literal, 0, 35, true⟩, ⟨.punct ',', 35, 36, false⟩, ⟨.ident "x", 37, 38, false⟩] := by
  intro body
  have inside : Inside (.quotes ⟨0, false⟩) body := by decide +kernel
  have hafter : ", x".toList.head? ≠ some '"' := by decide
  refine ⟨inside, hafter, ?_⟩
  have htext : (Delimiter.mk 0 false).enclose body ++ ", x".toList =
      '"' :: (body ++ '"' :: ", x".toList) := by decide
  have hmap : ∀ tokens : Except Unterminated (List Token),
      (tokens.map (⟨.literal, 0, 35, true⟩ :: ·)).toOption =
        tokens.toOption.map (⟨.literal, 0, 35, true⟩ :: ·) := fun tokens => by cases tokens <;> rfl
  have hsize : 0 + ((Delimiter.mk 0 false).enclose body).size = 35 := by decide +kernel
  have hrest : (lexFrom false false 35 ", x".toList).toOption =
      some [⟨.punct ',', 35, 36, false⟩, ⟨.ident "x", 37, 38, false⟩] := by decide +kernel
  rw [← htext, (string_hides_contents inside hafter true).2 true 0, hsize, hmap, hrest]
  rfl

end Literals

end SwiftTuples
