import SwiftTuples.Pattern.Expr
/-!
# Routes through a text

An expression maps a set of places in a text to the set of places where a match that started at
one of them can end. A set of places is a number: place `i` belongs to it when bit `i` is set. A
text has a match when the places reached from all of its places are not none at all.
-/

namespace SwiftTuples.Pattern

/-- An expression laid along a text. -/
inductive Route where
  /-- Stays where it is, at certain places. -/
  | stay (places : Nat)
  /-- Passes over one character, from certain places. -/
  | step (places : Nat)
  | sequence (first rest : Route)
  | choice (first rest : Route)
  | repeated (least : Nat) (most : Option Nat) (body : Route)

namespace Route

/-- `f` a number of times, or until it changes nothing more. -/
def exactly (f : Nat → Nat) : Nat → Nat → Nat
  | 0, places => places
  | n + 1, places =>
    let next := f places
    if next = places then places else exactly f n next

/-- The places and all that `f` reaches from them in up to `n` steps. -/
def upTo (f : Nat → Nat) (n places : Nat) : Nat := exactly (fun p => p ||| f p) n places

/-- The places at which matches from `places` end, in a text of `size` characters. -/
def run (size : Nat) : Route → Nat → Nat
  | stay here, places => places &&& here
  | step here, places => (places &&& here) <<< 1
  | sequence a b, places => b.run size (a.run size places)
  | choice a b, places => a.run size places ||| b.run size places
  | repeated least most body, places =>
    let reached := exactly (body.run size) least places
    match most with
    | none => upTo (body.run size) (size + 1) reached
    | some most => upTo (body.run size) (most - least) reached

end Route

/-- The numbers of the characters with a property, as a set of places. -/
def placesOf (p : Char → Bool) (text : List Char) : Nat :=
  text.foldr (fun c places => 2 * places + if p c then 1 else 0) 0

/-- The places of a text at which a condition holds; `before` is the character before it. -/
def Look.places (l : Look) (before : Option Char) : List Char → Nat
  | [] => if l.holds before none then 1 else 0
  | c :: rest =>
    2 * l.places (some c) rest + if l.holds before (some c) then 1 else 0

namespace Expr

/-- All places of a text. -/
def allPlaces (text : List Char) : Nat := 1 <<< (text.length + 1) - 1

/-- The expression laid along a text. -/
def route (text : List Char) : Expr → Route
  | empty => .stay (allPlaces text)
  | literal cs =>
    cs.foldr (fun c rest => .sequence (.step (placesOf (· == c) text)) rest)
      (.stay (allPlaces text))
  | oneOf set => .step (placesOf (fun c => set.contains c.toNat) text)
  | look condition => .stay (condition.places none text)
  | group body => body.route text
  | repeated least most _ body => .repeated least most (body.route text)
  | sequence a b => .sequence (a.route text) (b.route text)
  | choice a b => .choice (a.route text) (b.route text)

/-- A match of the expression stands somewhere in the text. -/
def occursIn (e : Expr) (text : List Char) : Bool :=
  (e.route text).run text.length (allPlaces text) != 0

end Expr

end SwiftTuples.Pattern
