import SwiftTuples.Proofs.Printing.Glyph
import SwiftTuples.Syntax.Item.Parser
/-!
# Canonical printing

Items and types as they are printed, and the grammar of those that printing and reading give back.
A canonical type is built by levels: what takes suffixes, a function type, types joined by `&`, and
specifiers before all of them. Items stand on lines of their own.

A tree has positions and a printed text has none, so trees are compared by what `unplaced` leaves
of them.
-/

namespace SwiftTuples

/-! ## Names -/

/-- Words that mean something where a name could stand. -/
def reservedWords : List String :=
  TokenParser.modifiers ++ TokenParser.declarationWords ++ Specifier.words ++
    ["as", "is", "where", "async", "throws", "rethrows"]

/-- A word that is only a name. -/
structure IsPlainName (name : String) : Prop where
  word : isWord name.toList
  free : name ∉ reservedWords

instance (name : String) : Decidable (IsPlainName name) :=
  decidable_of_iff (isWord name.toList ∧ name ∉ reservedWords)
    ⟨fun h => ⟨h.1, h.2⟩, fun h => ⟨h.word, h.free⟩⟩

/-- The parts of a dotted name. -/
def nameParts (name : String) : List String := (name.toList.splitOn '.').map String.ofList

/-! ## Glyphs of types -/

/-- The mark between an element of a list and the elements after it. -/
def separator {α : Type} (c : Char) (rest : List α) : List Glyph :=
  if rest.isEmpty then [] else [.mark c]

/-- Generic arguments in angle brackets; there are no brackets without arguments. -/
def angled {α : Type} (arguments : List α) (inside : List Glyph) : List Glyph :=
  if arguments.isEmpty then [] else .suffix '<' :: (inside ++ [.mark '>'])

/-- The glyphs with a space before them. -/
def spaced : List Glyph → List Glyph
  | [] => []
  | g :: gs => { g with gap := .space } :: gs

/-- The mark of an optional type as it is written. -/
def OptionalMark.char : OptionalMark → Char
  | question => '?'
  | exclamation => '!'

def Effects.glyphs (e : Effects) : List Glyph :=
  (if e.isAsync then [.word "async"] else []) ++ if e.throws then [.word "throws"] else []

def Specifier.glyphs : Specifier → List Glyph
  | .attribute name => [.mark '@', .word name]
  | .suppression => [.mark '~']
  | .word text => [.word text]

def Label.glyphs (l : Label) : List Glyph := l.names.map .word ++ [.mark ':']

namespace TypeExpr

mutual

/-- A type as it is printed. -/
def glyphs : TypeExpr → List Glyph
  | named _ name arguments => .word name :: angled arguments (listGlyphs ',' arguments)
  | member _ base name arguments =>
    base.glyphs ++ .mark '.' :: .word name :: angled arguments (listGlyphs ',' arguments)
  | tuple _ elements => .mark '(' :: (elementGlyphs elements ++ [.mark ')'])
  | function _ parameters effects result =>
    .mark '(' :: (elementGlyphs parameters ++
      .mark ')' :: (effects.glyphs ++ .arrow :: result.glyphs))
  | optional _ wrapped mark => wrapped.glyphs ++ [.suffix mark.char]
  | array _ element => .mark '[' :: (element.glyphs ++ [.mark ']'])
  | dictionary _ key value =>
    .mark '[' :: (key.glyphs ++ .mark ':' :: (value.glyphs ++ [.mark ']']))
  | composition _ parts => listGlyphs '&' parts
  | attributed _ specifiers base => specifiers.flatMap (·.glyphs) ++ spaced base.glyphs

/-- Types with the mark `c` between them. -/
def listGlyphs (c : Char) : List TypeExpr → List Glyph
  | [] => []
  | t :: rest => t.glyphs ++ (separator c rest ++ listGlyphs c rest)

/-- Elements with commas between them. -/
def elementGlyphs : List (Element TypeExpr) → List Glyph
  | [] => []
  | ⟨label, type⟩ :: rest =>
    label.toList.flatMap (·.glyphs) ++
      (type.glyphs ++ (separator ',' rest ++ elementGlyphs rest))

end

end TypeExpr

/-! ## Glyphs of items -/

/-- Lists of glyphs with commas between them. -/
def commaGlyphs : List (List Glyph) → List Glyph
  | [] => []
  | gs :: rest => gs ++ (separator ',' rest ++ commaGlyphs rest)

/-- A name with dots between its parts. -/
def dottedGlyphs : List String → List Glyph
  | [] => []
  | part :: rest => .word part :: (separator '.' rest ++ dottedGlyphs rest)

def Parameter.glyphs (p : Parameter) : List Glyph :=
  p.names.map .word ++ .mark ':' :: p.type.glyphs

def Requirement.glyphs (r : Requirement) : List Glyph :=
  r.subject.glyphs ++
    ((if r.sameType then [.mark '=', .mark '='] else [.mark ':']) ++ r.constraint.glyphs)

/-- A `where` clause, if there are requirements. -/
def whereGlyphs : List Requirement → List Glyph
  | [] => []
  | requirements => .word "where" :: commaGlyphs (requirements.map (·.glyphs))

/-- The types that a type declaration inherits from, if there are any. -/
def inheritGlyphs : List TypeExpr → List Glyph
  | [] => []
  | types => .mark ':' :: TypeExpr.listGlyphs ',' types

def CastOperator.glyphs : CastOperator → List Glyph
  | cast => [(Glyph.word "as").onLine]
  | optionalCast => [(Glyph.word "as").onLine, .suffix '?']
  | forcedCast => [(Glyph.word "as").onLine, .suffix '!']
  | test => [(Glyph.word "is").onLine]

namespace Item

mutual

/-- An item as it is printed, on a line of its own. -/
def glyphs : Item → List Glyph
  | block b => blockGlyphs .line b
  | «variable» _ binder type =>
    (Glyph.word "let").onLine :: .word binder.text ::
      type.toList.flatMap fun t => .mark ':' :: t.glyphs
  | function _ name parameters effects result requirements body =>
    (Glyph.word "func").onLine :: .word name :: .mark '(' ::
      (commaGlyphs (parameters.map (·.glyphs)) ++ .mark ')' :: (effects.glyphs ++
        ((result.toList.flatMap fun t => .arrow :: t.glyphs) ++
          (whereGlyphs requirements ++ bodyGlyphs body))))
  | nominal _ kind name inherits requirements members =>
    (Glyph.word kind.keyword).onLine :: (dottedGlyphs (nameParts name) ++
      (inheritGlyphs inherits ++ (whereGlyphs requirements ++ blockGlyphs .free members)))
  | «alias» _ name target =>
    (Glyph.word "typealias").onLine :: .word name :: .mark '=' :: target.glyphs
  | cast _ operator target => operator.glyphs ++ target.glyphs

/-- A block whose brace stands after the gap `gap`. -/
def blockGlyphs (gap : Gap) : Block Item → List Glyph
  | ⟨_, items⟩ => ⟨.punct '{', gap⟩ :: (listGlyphs items ++ [(Glyph.mark '}').onLine])

def bodyGlyphs : Option (Block Item) → List Glyph
  | none => []
  | some body => blockGlyphs .free body

/-- Items one after the other. -/
def listGlyphs : List Item → List Glyph
  | [] => []
  | i :: rest => i.glyphs ++ listGlyphs rest

end

end Item

/-- Items one to a line, in the layout `loose`. -/
def printItems (loose : Nat → Bool) (items : List Item) : Text :=
  render loose (Item.listGlyphs items)

/-! ## Canonical trees -/

/-- How far a type goes. -/
inductive TypeLevel where
  /-- A type that takes suffixes. -/
  | suffixable
  /-- That, or a function type. -/
  | single
  /-- That, or types joined by `&`. -/
  | composed
  /-- That, or one with specifiers. -/
  | whole
deriving DecidableEq

/-- The names of a label are plain. -/
def Label.Plain (l : Label) : Prop := ∀ name ∈ l.names, IsPlainName name

/-- The types that printing and reading give back, by level. -/
inductive TypeExpr.Canonical : TypeLevel → TypeExpr → Prop
  | named {position : Nat} {name : String} {arguments : List TypeExpr} (plain : IsPlainName name)
      (inside : ∀ t ∈ arguments, Canonical .whole t) :
      Canonical .suffixable (.named position name arguments)
  | member {position : Nat} {base : TypeExpr} {name : String} {arguments : List TypeExpr}
      (canonical : Canonical .suffixable base) (plain : IsPlainName name)
      (inside : ∀ t ∈ arguments, Canonical .whole t) :
      Canonical .suffixable (.member position base name arguments)
  | tuple {position : Nat} {elements : List (Element TypeExpr)}
      (labels : ∀ e ∈ elements, ∀ l ∈ e.label, l.Plain)
      (inside : ∀ e ∈ elements, Canonical .whole e.type) :
      Canonical .suffixable (.tuple position elements)
  | optional {position : Nat} {wrapped : TypeExpr} {mark : OptionalMark}
      (canonical : Canonical .suffixable wrapped) :
      Canonical .suffixable (.optional position wrapped mark)
  | array {position : Nat} {element : TypeExpr} (canonical : Canonical .whole element) :
      Canonical .suffixable (.array position element)
  | dictionary {position : Nat} {key value : TypeExpr} (canonical_key : Canonical .whole key)
      (canonical_value : Canonical .whole value) :
      Canonical .suffixable (.dictionary position key value)
  | function {position : Nat} {parameters : List (Element TypeExpr)} {effects : Effects}
      {result : TypeExpr} (labels : ∀ e ∈ parameters, ∀ l ∈ e.label, l.Plain)
      (inside : ∀ e ∈ parameters, Canonical .whole e.type) (canonical : Canonical .whole result) :
      Canonical .single (.function position parameters effects result)
  | single {t : TypeExpr} (canonical : Canonical .suffixable t) : Canonical .single t
  | composition {position : Nat} {first last : TypeExpr} {middle : List TypeExpr}
      (canonical_first : Canonical .suffixable first)
      (canonical_middle : ∀ t ∈ middle, Canonical .suffixable t)
      (canonical_last : Canonical .single last) :
      Canonical .composed (.composition position (first :: middle ++ [last]))
  | composed {t : TypeExpr} (canonical : Canonical .single t) : Canonical .composed t
  | attributed {position : Nat} {attributes words : List String} {base : TypeExpr}
      (some_specifier : attributes ≠ [] ∨ words ≠ [])
      (plain : ∀ name ∈ attributes, IsPlainName name)
      (specifying : ∀ word ∈ words, word ∈ Specifier.words) (canonical : Canonical .composed base) :
      Canonical .whole
        (.attributed position (attributes.map .attribute ++ words.map .word) base)
  | whole {t : TypeExpr} (canonical : Canonical .composed t) : Canonical .whole t

/-- A parameter that printing and reading give back. -/
structure Parameter.Canonical (p : Parameter) : Prop where
  named : p.names ≠ []
  plain : ∀ name ∈ p.names, IsPlainName name
  type : p.type.Canonical .whole

/-- A requirement that printing and reading give back. -/
structure Requirement.Canonical (r : Requirement) : Prop where
  subject : r.subject.Canonical .whole
  constraint : r.constraint.Canonical .whole

namespace Item

/-- A function without a body. -/
def lacksBody : Item → Bool
  | function _ _ _ _ _ _ none => true
  | _ => false

/-- A block that belongs to no declaration. -/
def isBlock : Item → Bool
  | block _ => true
  | _ => false

/-- No block follows a function that it would be read as the body of. -/
def Apart : List Item → Prop
  | i :: j :: rest => ¬ (i.lacksBody ∧ j.isBlock) ∧ Apart (j :: rest)
  | _ => True

/-- The items that printing and reading give back. -/
inductive Canonical : Item → Prop
  | block {b : Block Item} (inside : ∀ i ∈ b.items, Canonical i) (apart : Apart b.items) :
      Canonical (.block b)
  | «variable» {position : Nat} {name : String} {type : Option TypeExpr} (plain : IsPlainName name)
      (canonical : ∀ t ∈ type, t.Canonical .whole) :
      Canonical (.variable position (.name name) type)
  | function {position : Nat} {name : String} {parameters : List Parameter} {effects : Effects}
      {result : Option TypeExpr} {requirements : List Requirement} {body : Option (Block Item)}
      (plain : IsPlainName name) (canonical_parameters : ∀ p ∈ parameters, p.Canonical)
      (canonical_result : ∀ t ∈ result, t.Canonical .whole)
      (canonical_requirements : ∀ r ∈ requirements, r.Canonical)
      (inside : ∀ b ∈ body, ∀ i ∈ b.items, Canonical i) (apart : ∀ b ∈ body, Apart b.items) :
      Canonical (.function position name parameters effects result requirements body)
  | nominal {position : Nat} {kind : NominalKind} {name : String} {inherits : List TypeExpr}
      {requirements : List Requirement} {members : Block Item}
      (plain : ∀ part ∈ nameParts name, IsPlainName part)
      (canonical_inherits : ∀ t ∈ inherits, t.Canonical .whole)
      (canonical_requirements : ∀ r ∈ requirements, r.Canonical)
      (inside : ∀ i ∈ members.items, Canonical i) (apart : Apart members.items) :
      Canonical (.nominal position kind name inherits requirements members)
  | «alias» {position : Nat} {name : String} {target : TypeExpr} (plain : IsPlainName name)
      (canonical : target.Canonical .whole) : Canonical (.alias position name target)
  | cast {position : Nat} {operator : CastOperator} {target : TypeExpr}
      (canonical : target.Canonical .whole) : Canonical (.cast position operator target)

end Item

/-! ## Trees without positions -/

def Label.unplaced (l : Label) : Label := { l with colon := 0 }

namespace TypeExpr

mutual

/-- The type with every position at 0. -/
def unplaced : TypeExpr → TypeExpr
  | named _ name arguments => named 0 name (unplacedList arguments)
  | member _ base name arguments => member 0 base.unplaced name (unplacedList arguments)
  | tuple _ elements => tuple 0 (unplacedElements elements)
  | function _ parameters effects result =>
    function 0 (unplacedElements parameters) effects result.unplaced
  | optional _ wrapped mark => optional 0 wrapped.unplaced mark
  | array _ element => array 0 element.unplaced
  | dictionary _ key value => dictionary 0 key.unplaced value.unplaced
  | composition _ parts => composition 0 (unplacedList parts)
  | attributed _ specifiers base => attributed 0 specifiers base.unplaced

def unplacedList : List TypeExpr → List TypeExpr
  | [] => []
  | t :: rest => t.unplaced :: unplacedList rest

def unplacedElements : List (Element TypeExpr) → List (Element TypeExpr)
  | [] => []
  | ⟨label, type⟩ :: rest => ⟨label.map (·.unplaced), type.unplaced⟩ :: unplacedElements rest

end

end TypeExpr

def Parameter.unplaced (p : Parameter) : Parameter := { p with type := p.type.unplaced }

def Requirement.unplaced (r : Requirement) : Requirement :=
  { r with subject := r.subject.unplaced, constraint := r.constraint.unplaced }

namespace Item

mutual

/-- The item with every position at 0. -/
def unplaced : Item → Item
  | block b => block (unplacedBlock b)
  | «variable» _ binder type => «variable» 0 binder (type.map (·.unplaced))
  | function _ name parameters effects result requirements body =>
    function 0 name (parameters.map (·.unplaced)) effects (result.map (·.unplaced))
      (requirements.map (·.unplaced)) (unplacedBody body)
  | nominal _ kind name inherits requirements members =>
    nominal 0 kind name (inherits.map (·.unplaced)) (requirements.map (·.unplaced))
      (unplacedBlock members)
  | «alias» _ name target => «alias» 0 name target.unplaced
  | cast _ operator target => cast 0 operator target.unplaced

def unplacedBlock : Block Item → Block Item
  | ⟨_, items⟩ => ⟨0, unplacedList items⟩

def unplacedBody : Option (Block Item) → Option (Block Item)
  | none => none
  | some body => some (unplacedBlock body)

def unplacedList : List Item → List Item
  | [] => []
  | i :: rest => i.unplaced :: unplacedList rest

end

end Item

end SwiftTuples
