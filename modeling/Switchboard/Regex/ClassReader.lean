import Switchboard.Regex.Posix
import Switchboard.Unicode.CaseOrbit

/-! Bracketed classes. A class is a list of tokens, because an escape inside it may stand for a
character, a set, or a property; the grammar of ranges, nested classes and set operations is
read from the tokens. -/
namespace Switchboard.Regex

open Unicode (CharSet)

/-- The set with all characters that equal a member up to case, if case is to be ignored. -/
def foldCaseIf (ignoringCase : Bool) (set : CharSet) : CharSet :=
  if ignoringCase then Unicode.CaseOrbit.close set else set

inductive ClassToken where
  /-- A character that is written as it is and may be punctuation of the class. -/
  | plain (c : Char)
  /-- A character that is written with an escape. -/
  | escaped (c : Char)
  | set (accepts : CharSet)
  | property (accepts : CharSet) (negated : Bool)

namespace ClassToken

inductive Operation where
  | intersection
  | difference
  | symmetricDifference

def Operation.apply : Operation → CharSet → CharSet → CharSet
  | intersection => CharSet.intersection
  | difference => CharSet.difference
  | symmetricDifference => CharSet.symmetricDifference

/-- The set that is being collected, and the operation that waits for it with its left side. -/
structure Collected where
  current : CharSet := .empty
  waiting : Option (CharSet × Operation) := none

namespace Collected

def add (collected : Collected) (set : CharSet) : Collected :=
  { collected with current := collected.current ∪ set }

/-- The waiting operation applied to what was collected. Its sides are compared without regard
to case if the pattern ignores case. -/
def result (ignoringCase : Bool) (collected : Collected) : CharSet :=
  match collected.waiting with
  | none => collected.current
  | some (left, operation) =>
    operation.apply (foldCaseIf ignoringCase left) (foldCaseIf ignoringCase collected.current)

/-- Makes what was collected the left side of an operation. Operations group to the left. -/
def await (ignoringCase : Bool) (operation : Operation) (collected : Collected) : Collected :=
  { waiting := some (collected.result ignoringCase, operation) }

end Collected

def literal? : ClassToken → Option Char
  | plain c | escaped c => some c
  | _ => none

def toSet (ignoringCase : Bool) : ClassToken → CharSet
  | plain c | escaped c => CharSet.single c
  | set accepts => accepts
  | property accepts negated =>
    let folded := foldCaseIf ignoringCase accepts
    if negated then folded.complement else folded

/-- A named class such as `[:alpha:]`, after its opening bracket. It takes in other cases before it
is negated. -/
def readNamed? (ignoringCase : Bool) (tokens : List ClassToken) :
    Option (CharSet × List ClassToken) :=
  match tokens with
  | plain ':' :: plain '^' :: rest =>
    (named rest).map fun (members, rest) => ((foldCaseIf ignoringCase members).complement, rest)
  | plain ':' :: rest =>
    (named rest).map fun (members, rest) => (foldCaseIf ignoringCase members, rest)
  | _ => none
where
  named (tokens : List ClassToken) : Option (CharSet × List ClassToken) :=
    let name := (tokens.map literal?).takeWhile (· != some ':')
    match tokens.drop name.length with
    | plain ':' :: plain ']' :: rest =>
      (Posix.class? (String.ofList (name.filterMap id))).map (·, rest)
    | _ => none

/-- The opening of a class: whether it is negated, the characters that are literal only there,
and the rest. -/
def readOpening (tokens : List ClassToken) : Bool × CharSet × List ClassToken :=
  let (negated, tokens) :=
    match tokens with
    | plain '^' :: rest => (true, rest)
    | _ => (false, tokens)
  let body := tokens.dropWhile fun token => token matches plain '-'
  if body.length < tokens.length then (negated, CharSet.single '-', body)
  else
    match body with
    | plain ']' :: rest => (negated, CharSet.single ']', rest)
    | _ => (negated, .empty, body)

/-- Reads the tokens after an opening bracket up to the bracket that closes it. Every call takes
a token, so their number is enough fuel. -/
def readItems (ignoringCase : Bool) :
    Nat → Bool → Collected → List ClassToken → Option (CharSet × List ClassToken)
  | 0, _, _, _ => none
  | _ + 1, _, _, [] => none
  | fuel + 1, negated, collected, token :: rest =>
    let next := readItems ignoringCase fuel negated
    match token, rest with
    | plain ']', rest =>
      let folded := foldCaseIf ignoringCase (collected.result ignoringCase)
      some (if negated then folded.complement else folded, rest)
    | plain '&', plain '&' :: rest => next (collected.await ignoringCase .intersection) rest
    | plain '-', plain '-' :: rest => next (collected.await ignoringCase .difference) rest
    | plain '~', plain '~' :: rest =>
      next (collected.await ignoringCase .symmetricDifference) rest
    | plain '[', rest =>
      match readNamed? ignoringCase rest with
      | some (members, rest) => next (collected.add members) rest
      | none =>
        let (inner, first, rest) := readOpening rest
        match readItems ignoringCase fuel inner { current := first } rest with
        | some (members, rest) => next (collected.add members) rest
        | none => none
    | first, plain '-' :: last :: rest =>
      match last with
      | plain ']' | plain '-' =>
        next (collected.add (first.toSet ignoringCase)) (plain '-' :: last :: rest)
      | _ =>
        match first.literal?, last.literal? with
        | some low, some high =>
          if low ≤ high then next (collected.add (CharSet.range low high)) rest else none
        | _, _ => none
    | item, rest => next (collected.add (item.toSet ignoringCase)) rest

/-- The set of a whole class, given the tokens between its outer brackets and the closing one. -/
def readClass? (ignoringCase : Bool) (tokens : List ClassToken) : Option CharSet :=
  let (negated, first, body) := readOpening tokens
  match readItems ignoringCase (tokens.length + 1) negated { current := first } body with
  | some (members, []) => some members
  | _ => none

end ClassToken

end Switchboard.Regex
