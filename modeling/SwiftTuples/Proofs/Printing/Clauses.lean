import SwiftTuples.Proofs.Printing.Items
/-!
# Clauses of printed items are read back

The parts that declarations are put together from: declared types, parameters, requirements,
dotted names and the types that are inherited.
-/

namespace SwiftTuples

/-- What the word of a cast operator means without its mark. -/
def CastOperator.wordAlone : CastOperator → CastOperator
  | test => test
  | _ => cast

/-- The word of a cast operator. -/
def CastOperator.word : CastOperator → String
  | test => "is"
  | _ => "as"

namespace TokenParser

variable {gs : List Glyph} {n : Nat}

/-! ## Names -/

/-- Names are read up to what is none. -/
theorem reads_names {names : List String} (h : ∀ g ∈ gs.head?, ¬ g.kind.isName) :
    Reads (many name?) (names.map .word ++ gs) (· = names) gs := by
  refine reads_many fun n hn => ?_
  induction names generalizing n with
  | nil => exact reads_collect_nil (reads_name_none h) n
  | cons name names ih =>
    simp only [List.map_cons, List.cons_append, List.length_cons] at hn
    obtain ⟨n, rfl⟩ : ∃ m, n = m + 1 := ⟨n - 1, by omega⟩
    exact reads_collect_cons (reads_name rfl) (ih n (by omega))

theorem reads_parameterNames {names : List String} (hne : names ≠ [])
    (h : ∀ g ∈ gs.head?, ¬ g.kind.isName) :
    Reads parameterNames (names.map .word ++ gs) (· = names) gs := by
  refine (reads_names h).bind fun found hfound => ?_
  subst hfound
  cases found with
  | nil => exact absurd rfl hne
  | cons name names => exact .pure rfl

theorem reads_functionName (name : String) :
    Reads (functionName "func") (.word name :: gs) (· = name) gs := by
  refine .ite_pos rfl ((reads_name rfl).bind fun found hfound => ?_)
  subst hfound
  exact .pure rfl

/-- The parts of a dotted name are taken up to what is no dot. -/
theorem dottedName_of_written {parts : List String} (hne : parts ≠ [])
    (h : ∀ g ∈ gs.head?, g.kind ≠ .punct '.') {ts : List Placed}
    (hts : Written (dottedGlyphs parts ++ gs) ts) :
    ∃ rest, dottedName ts = (parts, rest) ∧ Written gs rest := by
  induction parts generalizing ts with
  | nil => exact absurd rfl hne
  | cons part parts ih =>
    cases parts with
    | nil =>
      rcases hts with _ | @⟨_, _, t, rest, first, more⟩
      have ht : t.name? = some part := first.name?
      refine ⟨rest, ?_, more⟩
      cases rest with
      | nil => simp [dottedName, ht]
      | cons dot rest =>
        have hdot : dot.is '.' = false := by
          cases more with
          | cons next _ => simpa [next.is] using h _ rfl
        simp [dottedName, ht, hdot]
    | cons next parts =>
      rcases hts with _ | @⟨_, _, t, _, first, _ | @⟨_, _, dot, rest, hdot, more⟩⟩
      have ht : t.name? = some part := first.name?
      have his : dot.is '.' = true := by simp [hdot.is, Glyph.mark]
      have hword : startsWithWord rest = true := by
        rw [startsWithWord, more.word?]
        rfl
      obtain ⟨left, hparts, hleft⟩ := ih (List.cons_ne_nil _ _) more
      exact ⟨left, by simp [dottedName, ht, his, hword, hparts], hleft⟩

/-- A dotted name is made of its parts. -/
theorem intercalate_nameParts (name : String) : ".".intercalate (nameParts name) = name := by
  have hparts : String.toList ∘ String.ofList = id := funext fun _ => String.toList_ofList
  rw [← String.toList_inj, String.toList_intercalate, nameParts, List.map_map, hparts, List.map_id]
  exact List.intercalate_splitOn _

theorem nameParts_ne_nil (name : String) : nameParts name ≠ [] := by
  simp [nameParts]

theorem reads_nominalName (name : String) (h : ∀ g ∈ gs.head?, g.kind ≠ .punct '.') :
    Reads nominalName (dottedGlyphs (nameParts name) ++ gs) (· = name) gs := by
  intro ts hts
  obtain ⟨rest, hparts, hrest⟩ := dottedName_of_written (nameParts_ne_nil name) h hts
  refine ⟨name, rest, ?_, rfl, hrest⟩
  rw [nominalName, hparts]
  dsimp only
  rw [intercalate_nameParts]

/-! ## Declared types -/

/-- A colon on the same line as a type begins its declaration. -/
theorem reads_declaredColon {g : Glyph} (hg : g.StartsType) :
    Reads declaredColon (.mark ':' :: g :: gs) (· = true) (g :: gs) := by
  have hlook : Reads (look startsDeclaredType) (.mark ':' :: g :: gs) (· = true)
      (.mark ':' :: g :: gs) := by
    refine .look fun ts hts => ?_
    rcases hts with _ | @⟨_, _, t, _, first, _ | @⟨_, _, u, _, second, _⟩⟩
    have ht : t.is ':' = true := by simp [first.is, Glyph.mark]
    -- a colon that ends a line declares nothing; the type stands on the same line
    have hline : u.newlineBefore = false := by rw [second.newline, hg.gap]; rfl
    have hstart : (u.name?.isSome || u.is '(' || u.is '[' || u.is '@') = true := by
      rw [second.name?]
      simp only [second.is]
      rcases hg.kind with hname | hkind | hkind | hkind
      · simp [Glyph.isSome_name? hname]
      all_goals simp [hkind]
    simp [startsDeclaredType, ht, hline, hstart]
  exact hlook.bind_known (.ite_pos rfl ((Reads.skip 1).bind fun _ _ => .pure rfl))

theorem reads_declaredColon_false (h : ∀ g ∈ gs.head?, g.kind ≠ .punct ':') :
    Reads declaredColon gs (· = false) gs := by
  have hlook : Reads (look startsDeclaredType) gs (· = false) gs := by
    refine .look fun ts hts => ?_
    rcases hts with _ | @⟨_, _, t, _, first, _ | _⟩
    · rfl
    · rfl
    · have ht : t.is ':' = false := by simpa [first.is] using h _ rfl
      simp [startsDeclaredType, ht]
  exact hlook.bind_known (.ite_neg (by decide) (.pure rfl))

/-- A declared type is read, or its absence. -/
theorem reads_declaredType {type : Option TypeExpr} (h : ∀ t ∈ type, t.Canonical .whole)
    (hgs : Stops Ends.item gs)
    (hn : 16 * ((type.toList.flatMap fun t => .mark ':' :: t.glyphs).length + gs.length) ≤ n) :
    Reads (optionally declaredColon (typeExpr n))
      ((type.toList.flatMap fun t => .mark ':' :: t.glyphs) ++ gs)
      (·.map (·.unplaced) = type.map (·.unplaced)) gs := by
  cases type with
  | none =>
    have hcolon : ∀ g ∈ gs.head?, g.kind ≠ .punct ':' := fun g hg =>
      Ends.item_kind_ne (hgs g hg) (by decide)
    exact (Reads.optionally_none (reads_declaredColon_false hcolon)).mono fun found hfound => by
      rw [hfound]
  | some t =>
    have ht : t.Canonical .whole := h t rfl
    obtain ⟨g, more, hglyphs, hg⟩ := ht.startsType
    have hcolon : Reads declaredColon (.mark ':' :: (t.glyphs ++ gs)) (· = true)
        (t.glyphs ++ gs) := by
      rw [hglyphs]
      exact reads_declaredColon hg
    simp only [Option.toList_some, List.flatMap_cons, List.flatMap_nil, List.append_nil,
      List.cons_append, List.length_cons] at hn ⊢
    have hread : Reads (typeExpr n) (t.glyphs ++ gs) (·.unplaced = t.unplaced) gs :=
      ht.readBack (fun g hg => Ends.item_whole (hgs g hg)) (by omega)
    exact Reads.optionally_some hcolon hread fun found hfound => by
      rw [Option.map_some, hfound]
      rfl

/-- One binding is read. -/
theorem reads_bindings {name : String} {type : Option TypeExpr}
    (h : ∀ t ∈ type, t.Canonical .whole) (hgs : Stops Ends.item gs) (position : Nat)
    (hn : 16 * ((type.toList.flatMap fun t => .mark ':' :: t.glyphs).length + gs.length) + 1 ≤ n) :
    Reads (bindings n position)
      (.word name :: ((type.toList.flatMap fun t => .mark ':' :: t.glyphs) ++ gs))
      (fun found => ∃ declared, found = [.variable position (.name name) declared] ∧
        declared.map (·.unplaced) = type.map (·.unplaced)) gs := by
  obtain ⟨n, rfl⟩ : ∃ m, n = m + 1 := ⟨n - 1, by omega⟩
  have hbinder : Reads binder?
      (.word name :: ((type.toList.flatMap fun t => .mark ':' :: t.glyphs) ++ gs))
      (· = some (.name name)) ((type.toList.flatMap fun t => .mark ':' :: t.glyphs) ++ gs) := by
    refine (reads_name rfl).bind_known ?_
    exact .pure rfl
  refine hbinder.bind_known ?_
  refine (reads_declaredType h hgs (by omega)).bind fun declared hdeclared => ?_
  have hnext : Reads (look startsNextBinding) gs (· = false) gs := by
    refine .look fun ts hts => ?_
    have hcomma : startsWith ',' ts = false := hts.startsWith_eq_false fun g hg =>
      Ends.item_kind_ne (hgs g hg) (by decide)
    simp [startsNextBinding, hcomma]
  exact hnext.bind_known (.ite_neg (by decide) (.pure ⟨declared, rfl, hdeclared⟩))

/-! ## Parameters and requirements -/

/-- The parameters of a function are read, and the parenthesis after them. -/
theorem reads_parameters {ps : List Parameter} (h : ∀ p ∈ ps, p.Canonical)
    (hn : 16 * ((commaGlyphs (ps.map (·.glyphs))).length + gs.length + 1) + 1 ≤ n) :
    Reads (parameters n) (commaGlyphs (ps.map (·.glyphs)) ++ .mark ')' :: gs)
      (·.map (·.unplaced) = ps.map (·.unplaced)) gs := by
  induction ps generalizing n with
  | nil =>
    obtain ⟨n, rfl⟩ : ∃ m, n = m + 1 := ⟨n - 1, by omega⟩
    exact (reads_eats rfl).bind_known (.ite_pos rfl (.pure rfl))
  | cons p ps ih =>
    obtain ⟨n, rfl⟩ : ∃ m, n = m + 1 := ⟨n - 1, by omega⟩
    obtain ⟨names, type⟩ := p
    obtain ⟨hnamed, -, htype⟩ := h _ List.mem_cons_self
    have hglyphs : Parameter.glyphs ⟨names, type⟩ =
        names.map .word ++ .mark ':' :: type.glyphs := rfl
    rw [List.map_cons, commaGlyphs] at hn ⊢
    simp only [hglyphs, List.append_assoc, List.cons_append, List.length_append,
      List.length_cons, List.length_map] at hn ⊢ hnamed htype
    have hfirst : ∀ g ∈ (names.map Glyph.word ++ .mark ':' :: (type.glyphs ++
        (separator ',' (ps.map (·.glyphs)) ++
          (commaGlyphs (ps.map (·.glyphs)) ++ .mark ')' :: gs)))).head?,
        g.kind ≠ .punct ')' ∧ g.kind ≠ .punct '@' := by
      intro g hg
      cases names with
      | nil => exact absurd rfl hnamed
      | cons => cases hg; simp [Glyph.word]
    refine (reads_eats_false fun g hg => (hfirst g hg).1).bind_known (.ite_neg (by decide) ?_)
    refine (reads_many_nil (reads_attribute_none fun g hg => (hfirst g hg).2)).bind fun _ _ => ?_
    refine (reads_parameterNames hnamed fun g hg => by cases hg; decide).bind_known ?_
    refine (reads_expect rfl).bind fun _ _ => ?_
    refine TypeExpr.reads_elementType htype.readBack _ (fun hnil => by rw [hnil, commaGlyphs])
      (by omega) fun t ht => ?_
    refine reads_listEnd _ (fun hnil => ?_) fun hmore => ?_
    · rw [List.map_eq_nil_iff.1 hnil]
      exact ⟨rfl, by simp [Parameter.unplaced, ht]⟩
    · have hcomma := length_separator ',' hmore
      refine (ih (fun p hp => h p (List.mem_cons_of_mem _ hp)) (by omega)).mono
        fun others hothers => ?_
      rw [List.map_cons, List.map_cons, hothers, Parameter.unplaced, Parameter.unplaced, ht]

theorem reads_relation (sameType : Bool) :
    Reads relation ((if sameType then [.mark '=', .mark '='] else [.mark ':']) ++ gs)
      (· = sameType) gs := by
  cases sameType with
  | true =>
    have hlook : Reads (look fun ts => startsWith '=' ts && startsWith '=' ts.tail)
        (.mark '=' :: .mark '=' :: gs) (· = true) (.mark '=' :: .mark '=' :: gs) :=
      .look fun ts hts => by
        rw [hts.startsWith, hts.tail.startsWith]
        rfl
    exact hlook.bind_known (.ite_pos rfl ((Reads.skip 2).bind fun _ _ => .pure rfl))
  | false =>
    have hlook : Reads (look fun ts => startsWith '=' ts && startsWith '=' ts.tail)
        (.mark ':' :: gs) (· = false) (.mark ':' :: gs) :=
      .look fun ts hts => by
        rw [hts.startsWith]
        rfl
    exact hlook.bind fun _ hno => .ite_neg (by simp [hno])
      ((reads_expect rfl).bind fun _ _ => .pure rfl)

/-- The requirements of a clause are read up to what follows it. -/
theorem reads_requirements {rs : List Requirement} (h : ∀ r ∈ rs, r.Canonical) (hne : rs ≠ [])
    (hgs : Stops Ends.item gs)
    (hn : 16 * ((commaGlyphs (rs.map (·.glyphs))).length + gs.length) + 6 ≤ n) :
    Reads (requirements n) (commaGlyphs (rs.map (·.glyphs)) ++ gs)
      (·.map (·.unplaced) = rs.map (·.unplaced)) gs := by
  induction rs generalizing n with
  | nil => exact absurd rfl hne
  | cons r rs ih =>
    obtain ⟨n, rfl⟩ : ∃ m, n = m + 1 := ⟨n - 1, by omega⟩
    obtain ⟨subject, sameType, constraint⟩ := r
    obtain ⟨hsubject, hconstraint⟩ := h _ List.mem_cons_self
    have hglyphs : Requirement.glyphs ⟨subject, sameType, constraint⟩ = subject.glyphs ++
        ((if sameType then [.mark '=', .mark '='] else [.mark ':']) ++ constraint.glyphs) := rfl
    rw [List.map_cons, commaGlyphs] at hn ⊢
    simp only [hglyphs, List.append_assoc, List.length_append] at hn ⊢ hsubject hconstraint
    refine (hsubject.readBack (fun g hg => ?_) ?_).bind fun first hfirst => ?_
    · cases sameType <;> (cases hg; rfl)
    · simp only [List.length_append]
      omega
    refine (reads_relation sameType).bind_known ?_
    cases rs with
    | nil =>
      simp only [List.map_nil, separator_nil, commaGlyphs, List.nil_append, List.length_nil] at hn ⊢
      have hcomma : ∀ g ∈ gs.head?, g.kind ≠ .punct ',' := fun g hg =>
        Ends.item_kind_ne (hgs g hg) (by decide)
      refine (hconstraint.readBack (fun g hg => Ends.item_whole (hgs g hg)) (by omega)).bind
        fun second hsecond => ?_
      refine (reads_eats_false hcomma).bind_known (.ite_neg (by decide) (.pure ?_))
      simp [Requirement.unplaced, hfirst, hsecond]
    | cons r rs =>
      simp only [List.map_cons, separator_cons, List.cons_append, List.nil_append, List.length_cons,
        List.length_nil] at hn ⊢ ih
      refine (hconstraint.readBack (fun g hg => by cases hg; rfl) ?_).bind fun second hsecond => ?_
      · simp only [List.length_append, List.length_cons]
        omega
      refine (reads_eats rfl).bind_known (.ite_pos rfl ?_)
      refine (ih (fun r hr => h r (List.mem_cons_of_mem _ hr)) (List.cons_ne_nil _ _)
        (by omega)).bind fun others hothers => .pure ?_
      rw [List.map_cons, hothers, Requirement.unplaced, hfirst, hsecond]
      rfl

/-- A `where` clause is read, or its absence. -/
theorem reads_whereClause {rs : List Requirement} (h : ∀ r ∈ rs, r.Canonical)
    (hgs : Stops Ends.item gs) (hword : ∀ g ∈ gs.head?, g.name? ≠ some "where")
    (hn : 16 * ((whereGlyphs rs).length + gs.length) ≤ n) :
    Reads (whereClause n) (whereGlyphs rs ++ gs)
      (·.map (·.unplaced) = rs.map (·.unplaced)) gs := by
  cases rs with
  | nil =>
    have hlook : Reads (look fun ts => word? ts == some "where") gs (· = false) gs := by
      refine .look fun ts hts => ?_
      rw [hts.word?]
      cases gs with
      | nil => rfl
      | cons g gs => simpa using hword g rfl
    exact hlook.bind_known (.ite_neg (by decide) (.pure rfl))
  | cons r rs =>
    rw [whereGlyphs_cons] at hn ⊢
    rw [List.length_cons] at hn
    have hlook : Reads (look fun ts => word? ts == some "where")
        (.word "where" :: (commaGlyphs ((r :: rs).map (·.glyphs)) ++ gs)) (· = true)
        (.word "where" :: (commaGlyphs ((r :: rs).map (·.glyphs)) ++ gs)) :=
      .look fun ts hts => by
        rw [hts.word?]
        rfl
    refine hlook.bind_known (.ite_pos rfl ((Reads.skip 1).bind fun _ _ => ?_))
    exact reads_requirements h (List.cons_ne_nil _ _) hgs (by omega)

/-- The types that a declaration inherits from are read, or their absence. -/
theorem reads_inherited {ts : List TypeExpr} (h : ∀ t ∈ ts, t.Canonical .whole)
    (hgs : Stops Ends.item gs) (hn : 16 * ((inheritGlyphs ts).length + gs.length) ≤ n) :
    Reads (inherited n) (inheritGlyphs ts ++ gs)
      (·.map (·.unplaced) = ts.map (·.unplaced)) gs := by
  have hno : ∀ c, c = ':' ∨ c = ',' → ∀ g ∈ gs.head?, g.kind ≠ .punct c := by
    rintro c (rfl | rfl) g hg <;> exact Ends.item_kind_ne (hgs g hg) (by decide)
  cases ts with
  | nil =>
    exact (reads_eats_false (hno ':' (.inl rfl))).bind_known (.ite_neg (by decide) (.pure rfl))
  | cons t ts =>
    rw [inheritGlyphs_cons] at hn ⊢
    rw [List.length_cons] at hn
    refine (reads_eats rfl).bind_known (.ite_pos rfl ?_)
    exact TypeExpr.reads_types (fun t ht => (h t ht).readBack) (List.cons_ne_nil _ _)
      (fun g hg => Ends.item_whole (hgs g hg)) (hno ',' (.inr rfl)) (by omega)

/-- Nothing is passed over where no angle bracket opens. -/
theorem reads_angles_none (h : ∀ g ∈ gs.head?, g.kind ≠ .punct '<') :
    Reads angles gs (fun _ => True) gs :=
  (reads_startsWith_false h).bind_known (.ite_neg (by decide) (.pure trivial))

/-- The result of a function is read, or its absence. -/
theorem reads_result {result : Option TypeExpr} (h : ∀ t ∈ result, t.Canonical .whole)
    (hgs : Stops Ends.item gs)
    (hn : 16 * ((result.toList.flatMap fun t => .arrow :: t.glyphs).length + gs.length) ≤ n) :
    Reads (optionally arrow (typeExpr n))
      ((result.toList.flatMap fun t => .arrow :: t.glyphs) ++ gs)
      (·.map (·.unplaced) = result.map (·.unplaced)) gs := by
  cases result with
  | none =>
    have harrow : ∀ g ∈ gs.head?, g.kind ≠ .arrow := fun g hg => Ends.item_ne_arrow (hgs g hg)
    exact (Reads.optionally_none (reads_arrow_false harrow)).mono fun found hfound => by
      rw [hfound]
  | some t =>
    simp only [Option.toList_some, List.flatMap_cons, List.flatMap_nil, List.append_nil,
      List.cons_append, List.length_cons] at hn ⊢
    have hread : Reads (typeExpr n) (t.glyphs ++ gs) (·.unplaced = t.unplaced) gs :=
      (h t rfl).readBack (fun g hg => Ends.item_whole (hgs g hg)) (by omega)
    exact Reads.optionally_some reads_arrow hread fun found hfound => by
      rw [Option.map_some, hfound]
      rfl

/-! ## Casts -/

/-- The word of a cast begins one, if it is no member after a dot. -/
theorem castWord?_of_word {operator : CastOperator} {t : Placed}
    (hword : t.kind = .ident operator.word) (hdot : t.afterDot = false) (ts : List Placed) :
    castWord? (t :: ts) = some operator.wordAlone := by
  cases operator <;> simp [castWord?, Token.isWord, hdot, hword, CastOperator.word] <;> rfl

/-- It is none where it begins a line. -/
theorem castWord_of_written (operator : CastOperator) {ts : List Placed}
    (hts : Written (operator.glyphs ++ gs) ts) : castWord? ts = some operator.wordAlone := by
  have hglyphs : operator.glyphs ++ gs =
      (Glyph.word operator.word).onLine :: (operator.glyphs.tail ++ gs) := by cases operator <;> rfl
  rw [hglyphs] at hts
  rcases hts with _ | ⟨first, _⟩
  exact castWord?_of_word first.kind (by simpa using first.afterDot rfl) _

/-- The mark after the word of a cast is read, if there is one. -/
theorem reads_castOperator (operator : CastOperator)
    (hgs : ∀ g ∈ gs.head?, g.kind ≠ .punct '?' ∧ g.kind ≠ .punct '!') :
    Reads (castOperator operator.wordAlone) (operator.glyphs.tail ++ gs) (· = operator) gs := by
  cases operator with
  | cast =>
    refine (reads_optionalMark_none hgs).bind_known ?_
    exact .pure rfl
  | optionalCast =>
    refine (reads_optionalMark .question).bind_known ?_
    exact .pure rfl
  | forcedCast =>
    refine (reads_optionalMark .exclamation).bind_known ?_
    exact .pure rfl
  | test => exact .pure rfl

/-- No canonical type begins with a mark that belongs to a cast. -/
theorem head_ne_castMark {t : TypeExpr} (ht : t.Canonical .whole) :
    ∀ g ∈ (t.glyphs ++ gs).head?, g.kind ≠ .punct '?' ∧ g.kind ≠ .punct '!' := by
  obtain ⟨first, more, hglyphs, hfirst⟩ := ht.startsType
  intro g hg
  rw [hglyphs] at hg
  cases hg
  exact ⟨hfirst.kind_ne (by decide), hfirst.kind_ne (by decide)⟩

/-- A cast is read: its operator, and the type after it. -/
theorem reads_castExpr {t : TypeExpr} (ht : t.Canonical .whole) (hgs : Stops Ends.whole gs)
    (operator : CastOperator) (hn : 16 * (t.glyphs.length + gs.length) + 5 ≤ n) :
    Reads (castExpr n operator.wordAlone) (operator.glyphs ++ (t.glyphs ++ gs))
      (fun found => ∃ position target, found = [.cast position operator target] ∧
        target.unplaced = t.unplaced) gs := by
  have hskip : (operator.glyphs ++ (t.glyphs ++ gs)).drop 1 =
      operator.glyphs.tail ++ (t.glyphs ++ gs) := by cases operator <;> rfl
  refine Reads.position.bind fun position _ => (Reads.skip 1).bind fun _ _ => ?_
  rw [hskip]
  refine (reads_castOperator operator (head_ne_castMark ht)).bind_known ?_
  exact (ht.readBack hgs hn).bind fun target htarget => .pure ⟨position, target, rfl, htarget⟩

end TokenParser

end SwiftTuples
