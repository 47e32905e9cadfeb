import SwiftTuples.Pattern.Look
/-!
# Regular expressions

Expressions are built in a normal form: texts stand together, a sequence is no part of a sequence
and a choice no branch of one, branches of one character each are a set, and what all branches begin
with is taken out of them. The form says the same as what was written, and it decides how large the
machine for a pattern becomes.
-/

namespace SwiftTuples.Pattern

/-- A regular expression. -/
inductive Expr where
  | empty
  /-- One character after the other; there is at least one. -/
  | literal (text : List Char)
  /-- A character out of a set. -/
  | oneOf (set : CharSet)
  | look (condition : Look)
  | group (body : Expr)
  /-- At least `least` and at most `most` times; eager or not, the same texts match. -/
  | repeated (least : Nat) (most : Option Nat) (eager : Bool) (body : Expr)
  | sequence (first rest : Expr)
  | choice (first rest : Expr)
deriving DecidableEq

namespace Expr

/-- One character out of a set. -/
def ofSet (set : CharSet) : Expr :=
  match set.char? with
  | some c => literal [c]
  | none => oneOf set

/-- The parts of a sequence. -/
def parts : Expr → List Expr
  | empty => []
  | sequence first rest => first :: rest.parts
  | e => [e]

/-- The branches of a choice. -/
def branches : Expr → List Expr
  | choice first rest => first :: rest.branches
  | e => [e]

/-- The number of expressions inside the expression, and one. -/
def size : Expr → Nat
  | group body | repeated _ _ _ body => body.size + 1
  | sequence a b | choice a b => a.size + b.size + 1
  | _ => 1

/-- A group stands in the expression. -/
def hasGroup : Expr → Bool
  | group _ => true
  | repeated _ _ _ body => body.hasGroup
  | sequence a b | choice a b => a.hasGroup || b.hasGroup
  | _ => false

/-- Matches pass over no character. -/
def isEmpty : Expr → Bool
  | empty | look _ => true
  | literal _ | oneOf _ => false
  | group body => body.isEmpty
  | repeated _ most _ body => most.isSome && body.isEmpty
  | sequence a b | choice a b => a.isEmpty && b.isEmpty

/-- Whether all matches pass over some character; unknown where a set without characters stands. -/
def passes? : Expr → Option Bool
  | empty | look _ => some false
  | literal _ => some true
  | oneOf set => if set.ranges.isEmpty then none else some true
  | group body => body.passes?
  | repeated least _ _ body => body.passes?.map (· && 0 < least)
  | sequence a b => return (← a.passes?) || (← b.passes?)
  | choice a b => return (← a.passes?) && (← b.passes?)

/-- Matches start at the start of the text, as far as the form shows. -/
def isAnchored : Expr → Bool
  | look condition => condition == .start
  | group body => body.isAnchored
  | repeated least _ _ body => 0 < least && body.isAnchored
  | sequence a b => a.isAnchored || (a.isEmpty && b.isAnchored)
  | choice a b => a.isAnchored && b.isAnchored
  | _ => false

/-- Matches stop at the end of the text, as far as the form shows. -/
def isAnchoredAtEnd : Expr → Bool
  | look condition => condition == .stop
  | group body => body.isAnchoredAtEnd
  | repeated least _ _ body => 0 < least && body.isAnchoredAtEnd
  | sequence a b => b.isAnchoredAtEnd || (b.isEmpty && a.isAnchoredAtEnd)
  | choice a b => a.isAnchoredAtEnd && b.isAnchoredAtEnd
  | _ => false

/-- A part, itself no sequence, and a sequence after it. -/
def prepend (a b : Expr) : Expr :=
  match a, b with
  | a, empty => a
  | literal s, literal t => literal (s ++ t)
  | literal s, sequence (literal t) rest => sequence (literal (s ++ t)) rest
  | a, b => sequence a b

/-- One expression after the other. -/
def append : Expr → Expr → Expr
  | empty, b => b
  | sequence first rest, b => first.prepend (rest.append b)
  | a, b => a.prepend b

/-- All of the expressions one after the other. -/
def join (parts : List Expr) : Expr := parts.foldr append empty

/-- The expression at least `least` and at most `most` times. What passes over no character is not
repeated more than once. -/
def times (body : Expr) (least : Nat) (most : Option Nat) (eager : Bool) : Expr :=
  let (least, most) :=
    if body.isEmpty then (min least 1, some (min (most.getD 1) 1)) else (least, most)
  match least, most with
  | 0, some 0 => empty
  | 1, some 1 => body
  | least, most => repeated least most eager body

/-- The set of the characters that match, of an expression for one character. -/
def set? : Expr → Option CharSet
  | oneOf set => some set
  | literal [c] => some (.ofChar c)
  | _ => none

/-- The parts that two lists begin with. Groups differ from each other. -/
def shared : List Expr → List Expr → List Expr
  | a :: as, b :: bs => if a == b && !a.hasGroup then a :: shared as bs else []
  | _, _ => []

/-- The parts that all branches begin with; none where a branch is no sequence. -/
def sharedParts : List Expr → List Expr
  | [] => []
  | first :: others =>
    others.foldl (fun parts e => shared parts (sequenceParts e)) (sequenceParts first)
where
  /-- The parts of a sequence, none of anything else. -/
  sequenceParts : Expr → List Expr
    | sequence a b => a :: b.parts
    | _ => []

/-- A choice of branches as they are. -/
def nest : List Expr → Expr
  | [] => oneOf .empty
  | [e] => e
  | e :: others => choice e (nest others)

/-- A choice of branches, with what they begin with taken out up to `depth` times. -/
def chooseWithin (depth : Nat) (options : List Expr) : Expr :=
  let options := options.flatMap branches
  match options, options.mapM set? with
  | [e], _ => e
  | _ :: _, some sets => ofSet (.unions sets)
  | _, _ =>
    match depth, sharedParts options with
    | depth + 1, part :: parts =>
      let rests := options.map fun e => join (e.parts.drop (parts.length + 1))
      join (part :: parts ++ [chooseWithin depth rests])
    | _, _ => nest options

/-- A choice of branches. -/
def choose (options : List Expr) : Expr :=
  chooseWithin (options.foldl (fun n e => n + e.size) 0) options

end Expr

end SwiftTuples.Pattern
