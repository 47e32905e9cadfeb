import SwiftTuples.Proofs.Parsing.Keeping
import SwiftTuples.Proofs.Parsing.Keywords
/-!
# Collecting items

The readers of items put what they find on a list that they are handed, and may fail after they have
put something there. They are read here with the list and the cursor as what they change (`Desk`). A
reader that says it found nothing may have moved the cursor, and one that fails may have left items
behind: the loop puts both right. Mirrored are the readers that run: what those answer with is what
is put on the list (`PushesAt`).
-/

namespace SwiftTuples

/-- What readers of items change: the cursor, and the items found so far. -/
structure Desk where
  cursor : Cursor
  items : List Item

namespace Keeper

variable {α β : Type}

/-! ## Parts of items -/

/-- Takes an attribute or a modifier, passing over its arguments. -/
def modifier? : Keeper Cursor (Option Unit) := do
  match ← attribute? with
  | some _ => return some ()
  | none =>
    match ← look word? with
    | none => return none
    | some word =>
      if TokenParser.modifiers.contains word then
        advance 1
        arguments
        return some ()
      else if word = "class" && (← look fun ts => TokenParser.startsDeclaration ts.tail) then
        advance 1
        return some ()
      else return none

/-- Takes what a binding introduces. -/
def binder? : Keeper Cursor (Option Binder) := do
  match ← name? with
  | some name => return some (.name name)
  | none =>
    if ← look (startsWith '(') then
      balanced '(' ')'
      return some .pattern
    else return none

/-- Takes the colon before a declared type. -/
def declaredColon : Keeper Cursor Bool := do
  if ← look TokenParser.startsDeclaredType then
    advance 1
    return true
  else return false

/-- Takes the tokens before those that `f` leaves. -/
def takeUpTo (f : List Placed → α × List Placed) : Keeper Cursor α := do
  let found ← look fun ts => ((f ts).1, ts.length - (f ts).2.length)
  advance found.2
  return found.1

/-- Takes the name of an operator; there may be none. -/
def operator : Keeper Cursor String :=
  String.ofList <$> takeUpTo (TokenParser.operatorName true)

/-- Takes the name of a function; `keyword` is the keyword of its declaration. -/
def functionName (keyword : String) : Keeper Cursor String := do
  if keyword = "func" then
    match ← name? with
    | some name => return name
    | none => operator
  else
    let _ ← optionalMark?
    return keyword

/-- Takes the names of a parameter; there has to be one. -/
def parameterNames : Keeper Cursor (List String) := do
  match ← many name? with
  | [] => fail .expectedParameterName
  | names => return names

/-- The parameters of a function declaration and the parenthesis after them. -/
def parameters : Nat → Keeper Cursor (List Parameter)
  | 0 => fail .tooDeep
  | n + 1 => do
    if ← eats ')' then return []
    let _ ← many attribute?
    let names ← parameterNames
    let _ ← expect ':'
    let type ← typeExpr n
    trailer
    if ← eats ',' then return ⟨names, type⟩ :: (← parameters n)
    else if ← eats ')' then return [⟨names, type⟩]
    else fail .openParameterList

/-- Takes what relates both sides of a requirement. -/
def relation : Keeper Cursor Bool := do
  if ← look fun ts => startsWith '=' ts && startsWith '=' ts.tail then
    advance 2
    return true
  else
    let _ ← expect ':'
    return false

/-- The requirements of a `where` clause, its keyword having been taken. -/
def requirements : Nat → Keeper Cursor (List Requirement)
  | 0 => fail .tooDeep
  | n + 1 => do
    let subject ← typeExpr n
    let sameType ← relation
    let constraint ← typeExpr n
    if ← eats ',' then return ⟨subject, sameType, constraint⟩ :: (← requirements n)
    else return [⟨subject, sameType, constraint⟩]

/-- The requirements of a `where` clause, if there is one. -/
def whereClause (n : Nat) : Keeper Cursor (List Requirement) := do
  if ← look fun ts => word? ts == some "where" then
    advance 1
    requirements n
  else return []

/-- Takes the name of a type declaration. -/
def nominalName : Keeper Cursor String :=
  (".".intercalate ·) <$> takeUpTo TokenParser.dottedName

/-- The types after the colon of a type declaration. -/
def inherited (n : Nat) : Keeper Cursor (List TypeExpr) := do
  if ← eats ':' then types n else return []

/-- Takes the mark of a cast, if it is at hand. A type test takes none. -/
def castOperator : CastOperator → Keeper Cursor CastOperator
  | .cast => do
    match ← optionalMark? with
    | some .question => return .optionalCast
    | some .exclamation => return .forcedCast
    | none => return .cast
  | operator => return operator

/-! ## Mirrors of those -/

theorem mirrors_modifier? : Mirrors modifier? TokenParser.modifier? := by
  refine fun c => (mirrors_attribute? c).bind fun found c _ => ?_
  cases found with
  | some name => exact .pure
  | none =>
    refine .look_bind ?_
    cases hword : word? c.ahead with
    | none => exact .pure
    | some word =>
      have hone := one_le_of_word? hword
      refine .ite (fun _ => ?_) fun _ => .look_bind (.ite (fun _ => ?_) fun _ => .pure)
      · refine (MirrorsAt.advance hone).bind fun _ c _ => ?_
        exact (mirrors_arguments c).bind fun _ _ _ => .pure
      · exact (MirrorsAt.advance hone).bind fun _ _ _ => .pure

theorem mirrors_binder? : Mirrors binder? TokenParser.binder? := by
  refine fun c => (mirrors_name? c).bind fun found c _ => ?_
  cases found with
  | some name => exact .pure
  | none =>
    refine .look_bind (.ite (fun _ => ?_) fun _ => .pure)
    exact (mirrors_balanced '(' ')' c).bind fun _ _ _ => .pure

theorem mirrors_declaredColon : Mirrors declaredColon TokenParser.declaredColon := by
  refine fun c => .look_bind (.ite (fun h => ?_) fun _ => .pure)
  have hone : 1 ≤ c.ahead.length := by
    cases hahead : c.ahead with
    | nil => simp [hahead, TokenParser.startsDeclaredType] at h
    | cons t ts => simp
  exact (MirrorsAt.advance hone).bind fun _ _ _ => .pure

theorem mirrors_takeUpTo {f : List Placed → α × List Placed}
    (h : ∀ ts, ∃ used, ts = used ++ (f ts).2) : Mirrors (takeUpTo f) fun ts => .ok (f ts) := by
  intro c
  obtain ⟨used, hused⟩ := h c.ahead
  have hrest : c.ahead.drop (c.ahead.length - (f c.ahead).2.length) = (f c.ahead).2 := by
    have hcount : c.ahead.length - (f c.ahead).2.length = used.length := by
      have := congrArg List.length hused
      rw [List.length_append] at this
      omega
    calc c.ahead.drop (c.ahead.length - (f c.ahead).2.length)
        = c.ahead.drop used.length := congrArg (c.ahead.drop ·) hcount
      _ = (used ++ (f c.ahead).2).drop used.length := congrArg (List.drop _) hused
      _ = (f c.ahead).2 := List.drop_left
  refine ⟨?_, Cursor.within_advance (Nat.sub_le _ _)⟩
  change Except.ok ((f c.ahead).1, c.ahead.drop (c.ahead.length - (f c.ahead).2.length)) = _
  rw [hrest]

theorem mirrors_operator : Mirrors operator TokenParser.operator := fun c =>
  (mirrors_takeUpTo (TokenParser.operatorName_append true) c).map

theorem mirrors_functionName (keyword : String) :
    Mirrors (functionName keyword) (TokenParser.functionName keyword) := by
  refine fun c => .ite (fun _ => (mirrors_name? c).bind fun name c _ => ?_) fun _ =>
    (mirrors_optionalMark? c).bind fun _ _ _ => .pure
  cases name with
  | some name => exact .pure
  | none => exact mirrors_operator c

theorem mirrors_parameterNames : Mirrors parameterNames TokenParser.parameterNames := by
  refine fun c => (mirrors_many mirrors_name? c).bind fun names _ _ => ?_
  cases names with
  | nil => exact .fail
  | cons name names => exact .pure

theorem mirrors_parameters (n : Nat) : Mirrors (parameters n) (TokenParser.parameters n) := by
  induction n with
  | zero => exact fun _ => .fail
  | succ n ih =>
    refine fun c => (mirrors_eats ')' c).bind fun closed c _ => .ite (fun _ => .pure) fun _ => ?_
    refine (mirrors_many mirrors_attribute? c).bind fun _ c _ => ?_
    refine (mirrors_parameterNames c).bind fun names c _ => ?_
    refine (mirrors_expect ':' c).bind fun _ c _ => ?_
    refine ((typeReadersMirror n).typeExpr c).bind fun type c _ => ?_
    refine (mirrors_trailer c).bind fun _ c _ => ?_
    refine (mirrors_eats ',' c).bind fun goesOn c _ => .ite (fun _ => ?_) fun _ => ?_
    · exact (ih c).bind fun _ _ _ => .pure
    · exact (mirrors_eats ')' c).bind fun closed _ _ => .ite (fun _ => .pure) fun _ => .fail

theorem mirrors_relation : Mirrors relation TokenParser.relation := by
  refine fun c => .look_bind (.ite (fun h => ?_) fun _ =>
    (mirrors_expect ':' c).bind fun _ _ _ => .pure)
  have htwo := one_le_of_startsWith (Bool.and_eq_true_iff.1 h).2
  rw [List.length_tail] at htwo
  exact (MirrorsAt.advance (by omega)).bind fun _ _ _ => .pure

theorem mirrors_requirements (n : Nat) :
    Mirrors (requirements n) (TokenParser.requirements n) := by
  induction n with
  | zero => exact fun _ => .fail
  | succ n ih =>
    refine fun c => ((typeReadersMirror n).typeExpr c).bind fun subject c _ => ?_
    refine (mirrors_relation c).bind fun sameType c _ => ?_
    refine ((typeReadersMirror n).typeExpr c).bind fun constraint c _ => ?_
    refine (mirrors_eats ',' c).bind fun goesOn c _ => .ite (fun _ => ?_) fun _ => .pure
    exact (ih c).bind fun _ _ _ => .pure

theorem mirrors_whereClause (n : Nat) : Mirrors (whereClause n) (TokenParser.whereClause n) := by
  refine fun c => .look_bind (.ite (fun h => ?_) fun _ => .pure)
  have hone := one_le_of_word? (beq_iff_eq.1 h)
  exact (MirrorsAt.advance hone).bind fun _ c _ => mirrors_requirements n c

theorem mirrors_nominalName : Mirrors nominalName TokenParser.nominalName := fun c =>
  (mirrors_takeUpTo TokenParser.dottedName_append c).map

theorem mirrors_inherited (n : Nat) : Mirrors (inherited n) (TokenParser.inherited n) :=
  fun c => (mirrors_eats ':' c).bind fun _ c _ =>
    .ite (fun _ => (typeReadersMirror n).types c) fun _ => .pure

theorem mirrors_castOperator (operator : CastOperator) :
    Mirrors (castOperator operator) (TokenParser.castOperator operator) := by
  intro c
  cases operator with
  | cast =>
    refine (mirrors_optionalMark? c).bind fun mark _ _ => ?_
    rcases mark with _ | _ | _ <;> exact .pure
  | optionalCast | forcedCast | test => exact .pure

/-! ## Items -/

/-- Reads without a look at the items. -/
def onCursor (q : Keeper Cursor α) : Keeper Desk α := fun d =>
  ((q d.cursor).1, ⟨(q d.cursor).2, d.items⟩)

/-- Puts an item on the list. -/
def push (item : Item) : Keeper Desk Unit := fun d => (.ok (), ⟨d.cursor, d.items ++ [item]⟩)

/-- Goes back to where it began if it finds nothing. -/
def orReturn (q : Keeper Desk Bool) : Keeper Desk Bool := fun d =>
  match q d with
  | (.ok false, d') => (.ok false, ⟨d.cursor, d'.items⟩)
  | result => result

/-- Goes one token past where it began, if it finds nothing or fails; what a failure has left on the
list is taken off. -/
def orAdvance (q : Keeper Desk Bool) : Keeper Desk Unit := fun d =>
  match q d with
  | (.ok true, d') => (.ok (), d')
  | (.ok false, d') => (.ok (), ⟨d.cursor.advance 1, d'.items⟩)
  | (.error _, d') => (.ok (), ⟨d.cursor.advance 1, d'.items.take d.items.length⟩)

/-- Collects items on a list of its own. -/
def collected (q : Keeper Desk Unit) : Keeper Cursor (List Item) := fun c =>
  ((q ⟨c, []⟩).1.map fun _ => (q ⟨c, []⟩).2.items, (q ⟨c, []⟩).2.cursor)

/-- The bindings of a variable declaration that starts at `position`. It is found if there is one;
`found` says that there was one before. -/
def bindings : Nat → Nat → Bool → Keeper Desk Bool
  | 0, _, _ => onCursor (fail .tooDeep)
  | n + 1, position, found => do
    match ← onCursor binder? with
    | none => return found
    | some binder =>
      let declared ← onCursor (optionally declaredColon (typeExpr n))
      push (.variable position binder declared)
      if ← onCursor (look TokenParser.startsNextBinding) then
        onCursor (advance 1)
        bindings n position true
      else return true

/-- A variable declaration that starts at `position`, its keyword being at hand. -/
def variableDeclaration (n position : Nat) : Keeper Desk Bool := do
  onCursor (advance 1)
  bindings n position false

/-- A type alias that starts at `position`, its keyword being at hand. -/
def typeAlias (n position : Nat) : Keeper Desk Bool := do
  onCursor (advance 1)
  match ← onCursor name? with
  | none => return false
  | some name =>
    onCursor angles
    if ← onCursor (eats '=') then
      let target ← onCursor (typeExpr n)
      push (.alias position name target)
      return true
    else return false

/-- A cast; `operator` is the one that its word alone means. -/
def castExpr (n : Nat) (operator : CastOperator) : Keeper Desk Bool := do
  let position ← onCursor position
  let _ ← onCursor name?
  let operator ← onCursor (castOperator operator)
  let target ← onCursor (typeExpr n)
  push (.cast position operator target)
  return true

/-- A function declaration from the end of its name on. -/
def signature (n : Nat) (block : Keeper Cursor (Block Item)) (position : Nat) (name : String) :
    Keeper Desk Bool := do
  onCursor angles
  if ← onCursor (eats '(') then
    let parameters ← onCursor (parameters n)
    let effects ← onCursor effects
    let result ← onCursor (optionally arrow (typeExpr n))
    let requirements ← onCursor (whereClause n)
    let body ← onCursor (optionally (look (startsWith '{')) block)
    push (.function position name parameters effects result requirements body)
    return true
  else return false

/-- A type declaration from its name on. -/
def heading (n : Nat) (block : Keeper Cursor (Block Item)) (position : Nat) (kind : NominalKind) :
    Keeper Desk Bool := do
  let name ← onCursor nominalName
  if name = "" then return false
  onCursor angles
  let inherits ← onCursor (inherited n)
  let requirements ← onCursor (whereClause n)
  if ← onCursor (look (startsWith '{')) then
    let members ← onCursor block
    push (.nominal position kind name inherits requirements members)
    return true
  else return false

/-- One turn of a loop over items: up to the end of the text or of a block, a block, an item or a
token that is passed over. It says whether the loop goes on. -/
def turn (block : Keeper Cursor (Block Item)) (item : Keeper Desk Bool) (closing : Bool) :
    Keeper Desk Bool := do
  match ← onCursor (look List.head?) with
  | none => if closing then onCursor (fail .missingBrace) else return false
  | some t =>
    if t.is '}' then
      if closing then
        onCursor (advance 1)
        return false
      else onCursor (fail .unexpectedBrace)
    else if t.is '{' then
      let block ← onCursor block
      push (.block block)
      return true
    else
      orAdvance item
      return true

mutual

/-- Items up to the end of the text or, if `closing`, up to the brace that closes their block. -/
def loop : Nat → Bool → Keeper Desk Unit
  | 0, _ => onCursor (fail .tooDeep)
  | n + 1, closing => do
    if ← turn (block n) (item n) closing then loop n closing

/-- A block, whose brace is at hand. -/
def block : Nat → Keeper Cursor (Block Item)
  | 0 => fail .tooDeep
  | n + 1 => do
    let position ← expect '{'
    return ⟨position, ← collected (loop n true)⟩

/-- A cast or a declaration, if one starts here. -/
def item : Nat → Keeper Desk Bool
  | 0 => onCursor (fail .tooDeep)
  | n + 1 => do
    match ← onCursor (look TokenParser.castWord?) with
    | some operator => castExpr n operator
    | none => declaration n

/-- A declaration, if one starts here. Where none does the cursor is put back. -/
def declaration : Nat → Keeper Desk Bool
  | 0 => onCursor (fail .tooDeep)
  | n + 1 => orReturn do
    if ← onCursor (look fun ts => ts.head?.any (·.afterDot)) then return false
    let position ← onCursor position
    let _ ← onCursor (many modifier?)
    let keyword := (← onCursor (look word?)).getD ""
    if keyword = "let" || keyword = "var" then variableDeclaration n position
    else if keyword = "func" || keyword = "init" || keyword = "subscript" then
      function n position keyword
    else if keyword = "typealias" then typeAlias n position
    else
      match NominalKind.ofKeyword? keyword with
      | some kind => nominal n position kind
      | none => return false

/-- A function declaration that starts at `position`, its keyword being at hand. -/
def function : Nat → Nat → String → Keeper Desk Bool
  | 0, _, _ => onCursor (fail .tooDeep)
  | n + 1, position, keyword => do
    let _ ← onCursor name?
    let name ← onCursor (functionName keyword)
    if name = "" then return false
    signature n (block n) position name

/-- A type declaration that starts at `position`, its keyword being at hand. -/
def nominal : Nat → Nat → NominalKind → Keeper Desk Bool
  | 0, _, _ => onCursor (fail .tooDeep)
  | n + 1, position, kind => do
    let _ ← onCursor name?
    heading n (block n) position kind

end

/-! ## Putting items on the list -/

/-- What a reader of items made of the desk `d`, beside what the reader that runs answers with. -/
inductive Pushed (d : Desk) :
    Except ReadError Bool × Desk → Except ReadError (Option (List Item) × List Placed) → Prop
  /-- What is found is put on the list, and the same tokens are left. -/
  | found {c : Cursor} (found : List Item) (h : d.cursor.Within c) :
      Pushed d (.ok true, ⟨c, d.items ++ found⟩) (.ok (some found, c.ahead))
  /-- Where nothing is found nothing is put on the list. -/
  | nothing {c : Cursor} {rest : List Placed} (h : d.cursor.Within c) :
      Pushed d (.ok false, ⟨c, d.items⟩) (.ok (none, rest))
  /-- A failure may leave items behind. -/
  | failed {c : Cursor} {e : ReadError} (left : List Item) (h : d.cursor.Within c) :
      Pushed d (.error e, ⟨c, d.items ++ left⟩) (.error e)

/-- From the desk `d` on, `q` puts on the list what `p` answers with. -/
def PushesAt (q : Keeper Desk Bool) (p : TokenParser (Option (List Item))) (d : Desk) : Prop :=
  Pushed d (q d) (p d.cursor.ahead)

/-- A desk that has only gone on is as good as the one before it. -/
theorem Pushed.of_within {d : Desk} {c : Cursor} (h : d.cursor.Within c)
    {result : Except ReadError Bool × Desk}
    {answer : Except ReadError (Option (List Item) × List Placed)}
    (hpushed : Pushed ⟨c, d.items⟩ result answer) : Pushed d result answer := by
  cases hpushed with
  | found found hwithin => exact .found found (h.trans hwithin)
  | nothing hwithin => exact .nothing (h.trans hwithin)
  | failed left hwithin => exact .failed left (h.trans hwithin)

theorem Pushed.within {d : Desk} {result : Except ReadError Bool × Desk}
    {answer : Except ReadError (Option (List Item) × List Placed)} (h : Pushed d result answer) :
    d.cursor.Within result.2.cursor := by
  cases h with
  | found _ h | nothing h | failed _ h => exact h

/-- Where nothing is found the items are left. -/
theorem Pushed.items_eq {d : Desk} {result : Except ReadError Bool × Desk}
    {answer : Except ReadError (Option (List Item) × List Placed)} (h : Pushed d result answer)
    (hresult : result.1 = .ok false) : result.2.items = d.items := by
  cases h with
  | nothing => rfl
  | found | failed => cases hresult

/-- Where nothing is found the cursor is put back. -/
theorem cursor_orReturn {q : Keeper Desk Bool} {d : Desk} (h : (orReturn q d).1 = .ok false) :
    (orReturn q d).2.cursor = d.cursor := by
  rw [orReturn] at h ⊢
  generalize q d = result at h ⊢
  rcases result with ⟨e | _ | _, d'⟩
  · cases h
  · rfl
  · cases h

theorem onCursor_apply {q : Keeper Cursor α} {d : Desk} {r : Except ReadError α} {c : Cursor}
    (h : q d.cursor = (r, c)) : onCursor q d = (r, ⟨c, d.items⟩) := by
  rw [onCursor, h]

namespace PushesAt

variable {q q' : Keeper Desk Bool} {p p' : TokenParser (Option (List Item))} {d : Desk}

/-- **What is read before an item is found leaves the list alone.** -/
theorem bind {q : Keeper Cursor α} {p : TokenParser α} {g : α → Keeper Desk Bool}
    {f : α → TokenParser (Option (List Item))} (h : MirrorsAt q p d.cursor)
    (hg : ∀ a c, q d.cursor = (.ok a, c) → PushesAt (g a) (f a) ⟨c, d.items⟩) :
    PushesAt (onCursor q >>= g) (p >>= f) d := by
  rcases hq : q d.cursor with ⟨e | a, c⟩
  · have hwithin := h.within
    rw [hq] at hwithin
    rw [PushesAt, bind_of_error (onCursor_apply hq), TokenParser.bind_apply, h.answer_error hq]
    have hfailed : Pushed d (.error e, ⟨c, d.items ++ []⟩) (.error e) := .failed [] hwithin
    rwa [List.append_nil] at hfailed
  · have hwithin := h.within
    rw [hq] at hwithin
    rw [PushesAt, bind_of_ok (onCursor_apply hq), TokenParser.bind_of_eq_ok (h.answer_ok hq)]
    exact (hg a c hq).of_within hwithin

theorem look_bind {f : List Placed → β} {g : β → Keeper Desk Bool}
    {r : β → TokenParser (Option (List Item))}
    (h : PushesAt (g (f d.cursor.ahead)) (r (f d.cursor.ahead)) d) :
    PushesAt (onCursor (look f) >>= g) (TokenParser.look f >>= r) d := h

theorem nothing : PushesAt (pure false) (pure none) d := Pushed.nothing (.refl _)

theorem fail {cause : SyntaxCause} :
    PushesAt (onCursor (Keeper.fail cause)) (TokenParser.fail cause) d := by
  have hfailed : Pushed d (.error ⟨d.cursor.ahead.head?.map (·.start), cause⟩,
    ⟨d.cursor, d.items ++ []⟩) (.error ⟨d.cursor.ahead.head?.map (·.start), cause⟩) :=
    .failed [] (.refl _)
  rwa [List.append_nil] at hfailed

theorem push (item : Item) :
    PushesAt (Keeper.push item >>= fun _ => pure true) (pure (some [item])) d :=
  Pushed.found [item] (.refl _)

theorem ite {b : Prop} [Decidable b] (h : b → PushesAt q p d) (h' : ¬ b → PushesAt q' p' d) :
    PushesAt (if b then q else q') (if b then p else p') d := by
  split
  · next hb => exact h hb
  · next hb => exact h' hb

theorem orReturn (h : PushesAt q p d) : PushesAt (Keeper.orReturn q) p d := by
  rw [PushesAt, Keeper.orReturn]
  rw [PushesAt] at h
  generalize q d = result at h
  generalize p d.cursor.ahead = answer at h
  cases h with
  | found found h => exact .found found h
  | nothing h => exact .nothing (.refl _)
  | failed left h => exact .failed left h

end PushesAt

/-! ## Readers of items -/

/-- What bindings are found; `before` says that there were some before them. -/
def bound (before : Bool) (found : List Item) : Option (List Item) :=
  if before || !found.isEmpty then some found else none

/-- What is found after an item is found together with it. -/
theorem Pushed.push {d : Desk} {item : Item} {result : Except ReadError Bool × Desk}
    {answer : Except ReadError (List Item × List Placed)} (before : Bool)
    (h : Pushed ⟨d.cursor, d.items ++ [item]⟩ result
      (answer.map fun read => (bound true read.1, read.2))) :
    Pushed d result (answer.map fun read => (bound before (item :: read.1), read.2)) := by
  cases answer with
  | error e =>
    change Pushed _ result (.error e) at h
    cases h with
    | failed left hwithin =>
      rw [List.append_assoc]
      exact .failed _ hwithin
  | ok read =>
    obtain ⟨found, rest⟩ := read
    have hbound : bound before (item :: found) = some (item :: found) := by simp [bound]
    change Pushed d result (.ok (bound before (item :: found), rest))
    change Pushed _ result (.ok (some found, rest)) at h
    rw [hbound]
    cases h with
    | found found hwithin =>
      rw [List.append_assoc]
      exact .found _ hwithin

theorem map_apply (g : α → β) (p : TokenParser α) (ts : List Placed) :
    (g <$> p) ts = (p ts).map fun read => (g read.1, read.2) := by
  change (p >>= fun a => pure (g a)) ts = _
  rw [TokenParser.bind_apply]
  cases p ts <;> rfl

theorem PushesAt.push_bind {d : Desk} {q : Keeper Desk Bool} {p : TokenParser (List Item)}
    (item : Item) (before : Bool)
    (h : PushesAt q (bound true <$> p) ⟨d.cursor, d.items ++ [item]⟩) :
    PushesAt (Keeper.push item >>= fun _ => q) (bound before <$> (item :: ·) <$> p) d := by
  rw [PushesAt, map_apply] at h
  rw [PushesAt, map_apply, map_apply]
  have hpushed := Pushed.push before h
  cases hp : p d.cursor.ahead <;> rwa [hp] at hpushed

/-- What the bindings after one are. -/
theorem bindings_more (n position : Nat) (item : Item) :
    (do
      if ← TokenParser.look TokenParser.startsNextBinding then
        TokenParser.skip 1
        return item :: (← TokenParser.bindings n position)
      else return [item]) =
    (item :: ·) <$> do
      if ← TokenParser.look TokenParser.startsNextBinding then
        TokenParser.skip 1
        TokenParser.bindings n position
      else return [] := by
  rw [map_bind]
  refine congrArg (TokenParser.look TokenParser.startsNextBinding >>= ·) (funext fun next => ?_)
  cases next with
  | false => rfl
  | true => simp only [if_true, map_bind, bind_pure_comp]

/-- Nothing is put on a list, and something was found before. -/
theorem PushesAt.found_nil (d : Desk) : PushesAt (pure true) (pure (some [])) d := by
  have hfound : Pushed d (.ok true, ⟨d.cursor, d.items ++ []⟩) (.ok (some [], d.cursor.ahead)) :=
    .found [] (.refl _)
  rwa [List.append_nil] at hfound

theorem pushesAt_bindings (n position : Nat) (before : Bool) (d : Desk) :
    PushesAt (bindings n position before) (bound before <$> TokenParser.bindings n position) d := by
  induction n generalizing before d with
  | zero => exact .fail
  | succ n ih =>
    rw [TokenParser.bindings, map_bind]
    refine .bind (mirrors_binder? _) fun binder c _ => ?_
    cases binder with
    | none =>
      cases before with
      | false => exact .nothing
      | true => exact .found_nil _
    | some binder =>
      dsimp only
      rw [map_bind]
      refine .bind (mirrors_optionally mirrors_declaredColon (typeReadersMirror n).typeExpr _)
        fun declared c _ => ?_
      rw [bindings_more]
      refine .push_bind _ before ?_
      rw [map_bind]
      refine .look_bind ?_
      by_cases hnext : TokenParser.startsNextBinding c.ahead = true
      · have hone := one_le_of_startsWith (Bool.and_eq_true_iff.1 hnext).1
        rw [if_pos hnext, if_pos hnext, map_bind]
        exact .bind (.advance hone) fun _ c _ => ih true _
      · rw [if_neg hnext, if_neg hnext]
        exact .found_nil _

/-- A name is taken as a word that is passed over. -/
theorem name?_of_word? {ts : List Placed} {word : String} (h : word? ts = some word) :
    TokenParser.name? ts = .ok (some word, ts.drop 1) := by
  cases ts with
  | nil => cases h
  | cons t ts =>
    have hname : t.name? = some word := h
    simp [TokenParser.name?, hname]

/-- From the desk `d` on, `q` puts on the list what `p` answers with if a word is at hand. In any
case it does as some reader does. -/
def PushesAtWord (q : Keeper Desk Bool) (p : TokenParser (Option (List Item))) (d : Desk) : Prop :=
  ∃ r, PushesAt q r d ∧
    ∀ word, word? d.cursor.ahead = some word → r d.cursor.ahead = p d.cursor.ahead

namespace PushesAtWord

variable {q : Keeper Desk Bool} {p : TokenParser (Option (List Item))} {d : Desk}

theorem pushesAt (h : PushesAtWord q p d) {word : String}
    (hword : word? d.cursor.ahead = some word) : PushesAt q p d := by
  obtain ⟨r, hr, heq⟩ := h
  rwa [PushesAt, ← heq word hword]

theorem within (h : PushesAtWord q p d) : d.cursor.Within (q d).2.cursor := by
  obtain ⟨r, hr, -⟩ := h
  exact hr.within

/-- The word is taken as a name, where the reader that runs passes over a token. -/
theorem name?_bind (h : ∀ c, PushesAt q p ⟨c, d.items⟩) :
    PushesAtWord (onCursor name? >>= fun _ => q) (TokenParser.skip 1 >>= fun _ => p) d := by
  refine ⟨TokenParser.name? >>= fun _ => p, .bind (mirrors_name? _) fun _ c _ => h c, ?_⟩
  intro word hword
  rw [TokenParser.bind_of_eq_ok (name?_of_word? hword)]
  rfl

theorem look_bind {f : List Placed → β} {g : β → Keeper Desk Bool}
    {r : β → TokenParser (Option (List Item))}
    (h : PushesAtWord (g (f d.cursor.ahead)) (r (f d.cursor.ahead)) d) :
    PushesAtWord (onCursor (look f) >>= g) (TokenParser.look f >>= r) d := h

end PushesAtWord

/-- A cast begins with a word. -/
theorem exists_word_of_castWord? {ts : List Placed} {operator : CastOperator}
    (h : TokenParser.castWord? ts = some operator) : ∃ word, word? ts = some word := by
  cases ts with
  | nil => cases h
  | cons t ts =>
    cases hname : t.name? with
    | some word => exact ⟨word, hname⟩
    | none =>
      have hnone : TokenParser.castWord? (t :: ts) = none :=
        TokenParser.castWord?_of_not (by simp [hname])
      rw [hnone] at h
      cases h

theorem pushesAt_castExpr (n : Nat) (operator : CastOperator) (d : Desk) :
    PushesAtWord (castExpr n operator) (some <$> TokenParser.castExpr n operator) d := by
  rw [TokenParser.castExpr, map_bind]
  refine .look_bind ?_
  rw [map_bind]
  refine .name?_bind fun c => ?_
  rw [map_bind]
  refine .bind (mirrors_castOperator operator _) fun operator c _ => ?_
  rw [map_bind]
  exact .bind ((typeReadersMirror n).typeExpr _) fun target c _ => .push _

theorem pushesAt_variableDeclaration (n position : Nat) {d : Desk} (h : d.cursor.ahead ≠ []) :
    PushesAt (variableDeclaration n position) (do
      TokenParser.skip 1
      match ← TokenParser.bindings n position with
      | [] => return none
      | found => return some found) d := by
  refine .bind (.advance (List.length_pos_iff.2 h)) fun _ c _ => ?_
  have hbound := pushesAt_bindings n position false ⟨c, d.items⟩
  rw [map_eq_pure_bind] at hbound
  refine cast (congrArg (PushesAt _ · _) (congrArg (_ >>= ·) (funext fun found => ?_))) hbound
  cases found <;> rfl

theorem pushesAt_typeAlias (n position : Nat) {d : Desk} (h : d.cursor.ahead ≠ []) :
    PushesAt (typeAlias n position) (TokenParser.typeAlias n position) d := by
  refine .bind (.advance (List.length_pos_iff.2 h)) fun _ c _ => ?_
  refine .bind (mirrors_name? _) fun name c _ => ?_
  cases name with
  | none => exact .nothing
  | some name =>
    refine .bind (mirrors_angles _) fun _ c _ => ?_
    refine .bind (mirrors_eats '=' _) fun assigned c _ => .ite (fun _ => ?_) fun _ => .nothing
    exact .bind ((typeReadersMirror n).typeExpr _) fun target c _ => .push _

theorem pushesAt_signature {n : Nat} (h : Mirrors (block n) (TokenParser.block n)) (position : Nat)
    (name : String) (d : Desk) :
    PushesAt (signature n (block n) position name) (TokenParser.signature n position name) d := by
  refine .bind (mirrors_angles _) fun _ c _ => ?_
  refine .bind (mirrors_eats '(' _) fun opened c _ => .ite (fun _ => ?_) fun _ => .nothing
  refine .bind (mirrors_parameters n _) fun parameters c _ => ?_
  refine .bind (mirrors_effects _) fun effects c _ => ?_
  refine .bind (mirrors_optionally mirrors_arrow (typeReadersMirror n).typeExpr _)
    fun result c _ => ?_
  refine .bind (mirrors_whereClause n _) fun requirements c _ => ?_
  exact .bind (mirrors_optionally (fun _ => ⟨rfl, .refl _⟩) h _) fun body c _ => .push _

theorem pushesAt_heading {n : Nat} (h : Mirrors (block n) (TokenParser.block n)) (position : Nat)
    (kind : NominalKind) (d : Desk) : PushesAt (heading n (block n) position kind) (do
      let name ← TokenParser.nominalName
      if name = "" then return none
      TokenParser.angles
      let inherits ← TokenParser.inherited n
      let requirements ← TokenParser.whereClause n
      if ← TokenParser.look (startsWith '{') then
        return some [.nominal position kind name inherits requirements (← TokenParser.block n)]
      else return none) d := by
  refine .bind (mirrors_nominalName _) fun name c _ => .ite (fun _ => .nothing) fun _ => ?_
  refine .bind (mirrors_angles _) fun _ c _ => ?_
  refine .bind (mirrors_inherited n _) fun inherits c _ => ?_
  refine .bind (mirrors_whereClause n _) fun requirements c _ => ?_
  refine .look_bind (.ite (fun _ => ?_) fun _ => .nothing)
  exact .bind (h _) fun members c _ => .push _

/-! ## Loops -/

/-- A loop that goes on from the desk `d` collects what the loop that runs answers with, leaves the
same tokens, and stays within the tokens ahead in any case. -/
structure LoopsAt (q : Keeper Desk Unit) (p : List Item → TokenParser (List Item)) (d : Desk) :
    Prop where
  answer : ((q d).1.map fun _ => ((q d).2.items, (q d).2.cursor.ahead)) =
    p d.items.reverse d.cursor.ahead
  within : d.cursor.Within (q d).2.cursor

theorem LoopsAt.of_eq {q : Keeper Desk Unit} {p : List Item → TokenParser (List Item)} {d d' : Desk}
    {r : Except ReadError Unit} (hq : q d = (r, d'))
    (hanswer : (r.map fun _ => (d'.items, d'.cursor.ahead)) = p d.items.reverse d.cursor.ahead)
    (hwithin : d.cursor.Within d'.cursor) : LoopsAt q p d := by
  constructor <;> rw [hq] <;> assumption

theorem mirrorsAt_collected {q : Keeper Desk Unit} {p : List Item → TokenParser (List Item)}
    {c : Cursor} (h : LoopsAt q p ⟨c, []⟩) : MirrorsAt (collected q) (p []) c := by
  have hanswer : _ = p [] c.ahead := h.answer
  refine ⟨?_, h.within⟩
  rw [← hanswer]
  change ((q ⟨c, []⟩).1.map _).map _ = _
  cases (q ⟨c, []⟩).1 <;> rfl

/-- A step that is put right does what the loop that runs does where it fails or finds nothing. -/
theorem orAdvance_spec {q : Keeper Desk Bool} {p : TokenParser (Option (List Item))} {d : Desk}
    (h : PushesAt q p d) (hne : d.cursor.ahead ≠ []) :
    ∃ found c, TokenParser.orSkip p d.cursor.ahead = .ok (found, c.ahead) ∧
      orAdvance q d = (.ok (), ⟨c, d.items ++ found⟩) ∧ d.cursor.Within c := by
  have hone : d.cursor.Within (d.cursor.advance 1) :=
    Cursor.within_advance (List.length_pos_iff.2 hne)
  have htail : d.cursor.ahead.tail = (d.cursor.advance 1).ahead := (List.drop_one).symm
  rw [PushesAt] at h
  rw [TokenParser.orSkip, orAdvance]
  generalize q d = result at h
  generalize p d.cursor.ahead = answer at h
  cases h with
  | found found hwithin => exact ⟨found, _, rfl, rfl, hwithin⟩
  | nothing hwithin => exact ⟨[], d.cursor.advance 1, by rw [htail], by simp, hone⟩
  | failed left hwithin => exact ⟨[], d.cursor.advance 1, by rw [htail], by simp, hone⟩

/-- **A step that fails or finds nothing leaves no trace**, but for one token passed over. -/
theorem orAdvance_of_not {q : Keeper Desk Bool} {p : TokenParser (Option (List Item))} {d : Desk}
    (h : PushesAt q p d) (hnot : (q d).1 ≠ .ok true) :
    orAdvance q d = (.ok (), ⟨d.cursor.advance 1, d.items⟩) := by
  rw [PushesAt] at h
  rw [orAdvance]
  generalize q d = result at h hnot
  generalize p d.cursor.ahead = answer at h
  cases h with
  | found found hwithin => exact absurd rfl hnot
  | nothing hwithin => rfl
  | failed left hwithin => simp

section turns

variable {b : Keeper Cursor (Block Item)} {q : Keeper Desk Bool} {closing : Bool} {passed : Nat}
  {t : Placed} {ts : List Placed} {found : List Item}

theorem turn_nil : turn b q closing ⟨⟨passed, []⟩, found⟩ =
    if closing then (.error ⟨none, .missingBrace⟩, ⟨⟨passed, []⟩, found⟩)
    else (.ok false, ⟨⟨passed, []⟩, found⟩) := by
  cases closing <;> rfl

theorem turn_cons : turn b q closing ⟨⟨passed, t :: ts⟩, found⟩ =
    (if t.is '}' then
      if closing then onCursor (advance 1) >>= fun _ => pure false
      else onCursor (fail .unexpectedBrace)
    else if t.is '{' then
      onCursor b >>= fun block => push (.block block) >>= fun _ => pure true
    else orAdvance q >>= fun _ => pure true : Keeper Desk Bool) ⟨⟨passed, t :: ts⟩, found⟩ := rfl

theorem turn_close (h : t.is '}') : turn b q closing ⟨⟨passed, t :: ts⟩, found⟩ =
    if closing then (.ok false, ⟨⟨passed + 1, ts⟩, found⟩)
    else (.error ⟨some t.start, .unexpectedBrace⟩, ⟨⟨passed, t :: ts⟩, found⟩) := by
  rw [turn_cons, if_pos h]
  cases closing <;> rfl

theorem turn_open (h : t.is '{') : turn b q closing ⟨⟨passed, t :: ts⟩, found⟩ =
    (onCursor b >>= fun block => push (.block block) >>= fun _ => pure true)
      ⟨⟨passed, t :: ts⟩, found⟩ := by
  rw [turn_cons, if_neg fun hclose => Token.not_is_open_of_is_close hclose h, if_pos h]

theorem turn_item (hopen : ¬ t.is '{') (hclose : ¬ t.is '}') :
    turn b q closing ⟨⟨passed, t :: ts⟩, found⟩ =
      (orAdvance q >>= fun _ => pure true) ⟨⟨passed, t :: ts⟩, found⟩ := by
  rw [turn_cons, if_neg hclose, if_neg hopen]

end turns

section loops

variable {n : Nat} {closing : Bool} {d d' : Desk}

theorem loop_of_goes_on (h : turn (block n) (item n) closing d = (.ok true, d')) :
    loop (n + 1) closing d = loop n closing d' := bind_of_ok h

theorem loop_of_ends (h : turn (block n) (item n) closing d = (.ok false, d')) :
    loop (n + 1) closing d = (.ok (), d') := bind_of_ok h

theorem loop_of_fails {e : ReadError}
    (h : turn (block n) (item n) closing d = (.error e, d')) :
    loop (n + 1) closing d = (.error e, d') := bind_of_error h

end loops

/-- The readers of items at bound `n` mirror those that run. -/
structure ItemReadersMirror (n : Nat) : Prop where
  loop : ∀ closing d, LoopsAt (loop n closing) (TokenParser.items n closing) d
  block : Mirrors (block n) (TokenParser.block n)
  item : ∀ d, PushesAt (item n) (TokenParser.item n) d
  declaration : ∀ d, PushesAt (declaration n) (TokenParser.declaration n) d
  function : ∀ position keyword d,
    PushesAtWord (function n position keyword) (TokenParser.function n position keyword) d
  nominal : ∀ position kind d,
    PushesAtWord (nominal n position kind) (TokenParser.nominal n position kind) d

namespace ItemReadersMirror

variable {n : Nat} (h : ItemReadersMirror n)
include h

theorem succ_block : Mirrors (Keeper.block (n + 1)) (TokenParser.block (n + 1)) := by
  refine fun c => (mirrors_expect '{' c).bind fun position c _ => ?_
  exact (mirrorsAt_collected (h.loop true ⟨c, []⟩)).bind fun _ _ _ => .pure

theorem succ_item (d : Desk) : PushesAt (Keeper.item (n + 1)) (TokenParser.item (n + 1)) d := by
  refine .look_bind ?_
  cases hcast : TokenParser.castWord? d.cursor.ahead with
  | none => exact h.declaration d
  | some operator =>
    obtain ⟨word, hword⟩ := exists_word_of_castWord? hcast
    exact (pushesAt_castExpr n operator d).pushesAt hword

theorem succ_function (position : Nat) (keyword : String) (d : Desk) :
    PushesAtWord (Keeper.function (n + 1) position keyword)
      (TokenParser.function (n + 1) position keyword) d := by
  refine .name?_bind fun c => ?_
  refine .bind (mirrors_functionName keyword _) fun name c _ => .ite (fun _ => .nothing) fun _ => ?_
  exact pushesAt_signature h.block position name _

theorem succ_nominal (position : Nat) (kind : NominalKind) (d : Desk) :
    PushesAtWord (Keeper.nominal (n + 1) position kind)
      (TokenParser.nominal (n + 1) position kind) d :=
  .name?_bind fun _ => pushesAt_heading h.block position kind _

theorem succ_declaration (d : Desk) :
    PushesAt (Keeper.declaration (n + 1)) (TokenParser.declaration (n + 1)) d := by
  refine .orReturn (.look_bind (.ite (fun _ => .nothing) fun _ => .look_bind ?_))
  refine .bind (mirrors_many mirrors_modifier? _) fun _ c _ => .look_bind ?_
  cases hword : word? c.ahead with
  | none => exact .nothing
  | some word =>
    have hne : c.ahead ≠ [] := TokenParser.ne_nil_of_word? hword
    refine .ite (fun _ => ?_) fun _ => .ite (fun _ => ?_) fun _ => .ite (fun _ => ?_) fun _ => ?_
    · exact pushesAt_variableDeclaration n _ hne
    · exact (h.function _ _ _).pushesAt hword
    · exact pushesAt_typeAlias n _ hne
    · dsimp only [Option.getD_some]
      cases NominalKind.ofKeyword? word with
      | some kind => exact (h.nominal _ _ _).pushesAt hword
      | none => exact .nothing

/-- A turn that goes on is a part of what the loop that runs does. -/
theorem loopsAt_of_goes_on {closing : Bool} {d d' : Desk}
    (hturn : turn (Keeper.block n) (Keeper.item n) closing d = (.ok true, d'))
    (hwithin : d.cursor.Within d'.cursor)
    (hitems : TokenParser.items (n + 1) closing d.items.reverse d.cursor.ahead =
      TokenParser.items n closing d'.items.reverse d'.cursor.ahead) :
    LoopsAt (Keeper.loop (n + 1) closing) (TokenParser.items (n + 1) closing) d := by
  have hrest := h.loop closing d'
  have hloop := loop_of_goes_on hturn
  refine .of_eq hloop ?_ (hwithin.trans hrest.within)
  rw [hitems]
  exact hrest.answer

theorem loopsAt_open {t : Placed} (hopen : t.is '{') (closing : Bool) (passed : Nat)
    (ts : List Placed) (found : List Item) :
    LoopsAt (Keeper.loop (n + 1) closing) (TokenParser.items (n + 1) closing)
      ⟨⟨passed, t :: ts⟩, found⟩ := by
  have hblock := h.block ⟨passed, t :: ts⟩
  have hwithin := hblock.within
  rcases hread : Keeper.block n ⟨passed, t :: ts⟩ with ⟨e | b, c⟩
  · rw [hread] at hwithin
    have hturn : turn (Keeper.block n) (Keeper.item n) closing ⟨⟨passed, t :: ts⟩, found⟩ =
        (.error e, ⟨c, found⟩) := by
      rw [turn_open hopen]
      exact bind_of_error (onCursor_apply hread)
    refine .of_eq (loop_of_fails hturn) ?_ hwithin
    rw [TokenParser.items_open hopen, TokenParser.bind_apply, hblock.answer_error hread]
    rfl
  · rw [hread] at hwithin
    have hturn : turn (Keeper.block n) (Keeper.item n) closing ⟨⟨passed, t :: ts⟩, found⟩ =
        (.ok true, ⟨c, found ++ [.block b]⟩) := by
      rw [turn_open hopen]
      exact bind_of_ok (onCursor_apply hread)
    refine h.loopsAt_of_goes_on hturn hwithin ?_
    rw [TokenParser.items_open hopen, TokenParser.bind_of_eq_ok (hblock.answer_ok hread)]
    simp

theorem loopsAt_item {t : Placed} (hopen : ¬ t.is '{') (hclose : ¬ t.is '}') (closing : Bool)
    (passed : Nat) (ts : List Placed) (found : List Item) :
    LoopsAt (Keeper.loop (n + 1) closing) (TokenParser.items (n + 1) closing)
      ⟨⟨passed, t :: ts⟩, found⟩ := by
  obtain ⟨more, c, hskip, hadvance, hwithin⟩ :=
    orAdvance_spec (h.item ⟨⟨passed, t :: ts⟩, found⟩) (List.cons_ne_nil t ts)
  have hturn : turn (Keeper.block n) (Keeper.item n) closing ⟨⟨passed, t :: ts⟩, found⟩ =
      (.ok true, ⟨c, found ++ more⟩) := by
    rw [turn_item hopen hclose]
    exact bind_of_ok hadvance
  refine h.loopsAt_of_goes_on hturn hwithin ?_
  rw [TokenParser.items_item hopen hclose, TokenParser.bind_of_eq_ok hskip, List.reverse_append]

theorem succ_loop (closing : Bool) (d : Desk) :
    LoopsAt (Keeper.loop (n + 1) closing) (TokenParser.items (n + 1) closing) d := by
  obtain ⟨⟨passed, ts⟩, found⟩ := d
  cases ts with
  | nil =>
    cases closing with
    | false =>
      refine .of_eq (loop_of_ends turn_nil) ?_ (.refl _)
      simp [TokenParser.items_nil, Except.map]
    | true => exact .of_eq (loop_of_fails turn_nil) rfl (.refl _)
  | cons t ts =>
    by_cases hclose : t.is '}'
    · cases closing with
      | false =>
        refine .of_eq (loop_of_fails (turn_close hclose)) ?_ (.refl _)
        rw [TokenParser.items_stray hclose]
        rfl
      | true =>
        refine .of_eq (loop_of_ends (turn_close hclose)) ?_ ⟨1, by simp, rfl⟩
        simp [TokenParser.items_close hclose, Except.map]
    by_cases hopen : t.is '{'
    · exact h.loopsAt_open hopen closing passed ts found
    · exact h.loopsAt_item hopen hclose closing passed ts found

theorem succ : ItemReadersMirror (n + 1) where
  loop := h.succ_loop
  block := h.succ_block
  item := h.succ_item
  declaration := h.succ_declaration
  function := h.succ_function
  nominal := h.succ_nominal

end ItemReadersMirror

/-- **The readers of items that keep their place mirror those that run**, whatever their bound. -/
theorem itemReadersMirror (n : Nat) : ItemReadersMirror n := by
  induction n with
  | zero =>
    exact {
      loop := fun _ _ => ⟨rfl, .refl _⟩
      block := fun _ => .fail
      item := fun _ => .fail
      declaration := fun _ => .fail
      function := fun _ _ _ => ⟨_, .fail, fun _ _ => rfl⟩
      nominal := fun _ _ _ => ⟨_, .fail, fun _ _ => rfl⟩ }
  | succ n ih => exact ih.succ

end Keeper

end SwiftTuples
