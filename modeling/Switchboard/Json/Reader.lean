import Switchboard.Json.Token

/-! Reading JSON texts. The tokens are taken one by one onto a stack of the arrays and objects
that are still open. -/
namespace Switchboard.Json

/-- An array or object that is still open, with what has been read of it, latest first. -/
inductive Open where
  | array (items : List Json)
  /-- An object in which the member of this name comes next. -/
  | object (members : List (String × Json)) (name : String)
deriving Repr

inductive Progress where
  /-- A value has to follow; `closable` while the innermost array could also end. -/
  | beforeValue (closable : Bool) (stack : List Open)
  /-- A name has to follow; `closable` while the innermost object could also end. -/
  | beforeName (closable : Bool) (members : List (String × Json)) (stack : List Open)
  | beforeColon (members : List (String × Json)) (name : String) (stack : List Open)
  /-- A value is complete; what it stands in goes on or ends. -/
  | complete (value : Json) (stack : List Open)
deriving Repr

def maxDepth : Nat := 127

namespace Progress

def enter (stack : List Open) (inside : Progress) : Option Progress :=
  if stack.length < maxDepth then some inside else none

def step (progress : Progress) (token : Token) : Option Progress :=
  match progress, token with
  | beforeValue _ stack, .scalar value => some (complete value stack)
  | beforeValue _ stack, .openArray => enter stack (beforeValue true (.array [] :: stack))
  | beforeValue _ stack, .openObject => enter stack (beforeName true [] stack)
  | beforeValue true (.array _ :: stack), .closeArray => some (complete (.array []) stack)
  | beforeName _ members stack, .scalar (.string name) => some (beforeColon members name stack)
  | beforeName true members stack, .closeObject =>
    some (complete (.object members.reverse) stack)
  | beforeColon members name stack, .colon =>
    some (beforeValue false (.object members name :: stack))
  | complete item (.array items :: stack), .comma =>
    some (beforeValue false (.array (item :: items) :: stack))
  | complete item (.array items :: stack), .closeArray =>
    some (complete (.array (item :: items).reverse) stack)
  | complete item (.object members name :: stack), .comma =>
    some (beforeName false ((name, item) :: members) stack)
  | complete item (.object members name :: stack), .closeObject =>
    some (complete (.object ((name, item) :: members).reverse) stack)
  | _, _ => none

def run (progress : Progress) : List Token → Option Progress
  | [] => some progress
  | token :: rest => do run (← progress.step token) rest

end Progress

/-- The value of a text that is one JSON value, white space around it apart. -/
def read? (text : String) : Option Json := do
  let tokens ← tokens? text.toList
  match ← (Progress.beforeValue false []).run tokens with
  | .complete value [] => some value
  | _ => none

end Switchboard.Json
