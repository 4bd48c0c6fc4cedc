import Switchboard.Regex.Code

/-! The backtracking search. It keeps a list of tasks that are still to succeed and a stack of
the choices it may return to; returning to one is a backtrack. A search is given up when it has
made too many backtracks or holds too many choices. -/
namespace Switchboard.Regex

mutual

inductive Task where
  | run (code : Code)
  /-- Notes the position under a number. -/
  | mark (number : Nat)
  | moveTo (position : Nat)
  /-- Gives up the choices made since the latest checkpoint, and the checkpoint. -/
  | commit
  /-- Gives up the choices made since `choices` were the open ones, and this attempt with them. -/
  | reject (choices : List Choice)
  /-- Decides whether a guarded loop goes on; the last place where it could have stopped is
  remembered. -/
  | guarded (least : Nat) (greedy : Bool) (body : Code) (count : Nat) (stopped : Option Nat)
  | counted (least most : Nat) (greedy : Bool) (body : Code) (count : Nat)

/-- An alternative that can be taken up later. It knows how many others lie under it. -/
inductive Choice where
  | resume (tasks : List Task) (position : Nat) (marks : Marks)
    (checkpoints : List (List Choice)) (others : Nat)

end

structure Search where
  tasks : List Task
  position : Nat
  marks : Marks
  choices : List Choice
  /-- The choices that were open where parts began that never change their mind, the latest
  first. A condition that fails leaves its own behind. -/
  checkpoints : List (List Choice)
  backtracks : Nat

inductive Progress where
  | going (search : Search)
  | matched
  | failed
  /-- More backtracks or choices were needed than are allowed. -/
  | exhausted

namespace Search

/-- The greatest number of backtracks in one search, and of choices that are open at once. -/
def limit : Nat := 1000000

def height : List Choice → Nat
  | [] => 0
  | .resume _ _ _ _ others :: _ => others + 1

def backtrack (search : Search) : Progress :=
  match search.choices with
  | [] => .failed
  | .resume tasks position marks checkpoints _ :: choices =>
    if search.backtracks < limit then
      .going ⟨tasks, position, marks, choices, checkpoints, search.backtracks + 1⟩
    else .exhausted

/-- Goes on with the tasks, and leaves the other tasks as a choice. -/
def choose (search : Search) (tasks others : List Task) : Progress :=
  let open' := height search.choices
  if open' < limit then
    .going { search with
      tasks
      choices :=
        .resume others search.position search.marks search.checkpoints open' :: search.choices }
  else .exhausted

/-- Goes on with the first tasks if `preferFirst` holds, else with the second ones. -/
def decide (search : Search) (preferFirst : Bool) (first second : List Task) : Progress :=
  if preferFirst then search.choose first second else search.choose second first

/-- The search from an earlier position, if there are so many characters before it. -/
def stepBack (search : Search) (back : Nat) : Progress :=
  if back ≤ search.position then .going { search with position := search.position - back }
  else search.backtrack

def groupText? (text : Array Char) (marks : Marks) (group : Nat) : Option (Array Char) :=
  match marks.at? (Marks.opening group), marks.at? (Marks.closing group) with
  | some first, some last => if first ≤ last then some (text.extract first last) else none
  | _, _ => none

def runCode (text : Array Char) (search : Search) (tasks : List Task) : Code → Progress
  | .nothing => .going { search with tasks }
  | .set accepts =>
    if (text[search.position]?).any accepts.contains then
      .going { search with tasks, position := search.position + 1 }
    else search.backtrack
  | .regular automaton groups =>
    match automaton.matchFrom? text [search.position] with
    | some (position, marks) =>
      .going { search with tasks, position, marks := search.marks.replace groups marks }
    | none => search.backtrack
  | .sequence parts => .going { search with tasks := parts.map .run ++ tasks }
  | .choice [] => search.backtrack
  | .choice [branch] => .going { search with tasks := .run branch :: tasks }
  | .choice (branch :: others) =>
    search.choose (.run branch :: tasks) (.run (.choice others) :: tasks)
  | .group number body =>
    .going { search with
      tasks :=
        .mark (Marks.opening number) :: .run body :: .mark (Marks.closing number) :: tasks }
  | .optional greedy body => search.decide greedy (.run body :: tasks) tasks
  | .loop false greedy body =>
    search.decide greedy (.run body :: .run (.loop false greedy body) :: tasks) tasks
  | .loop true greedy body =>
    .going { search with tasks := .run body :: .run (.loop false greedy body) :: tasks }
  | .guardedLoop least greedy body =>
    .going { search with tasks := .guarded least greedy body 0 none :: tasks }
  | .countedLoop least most greedy body =>
    .going { search with tasks := .counted least most greedy body 0 :: tasks }
  | .look back false body =>
    stepBack { search with tasks := .run body :: .moveTo search.position :: tasks } back
  | .look back true body =>
    match search.choose [.run body, .reject search.choices] tasks with
    | .going search => search.stepBack back
    | other => other
  | .backreference group =>
    match groupText? text search.marks group with
    | some piece =>
      let position := search.position + piece.size
      if text.extract search.position position == piece then .going { search with tasks, position }
      else search.backtrack
    | none => search.backtrack
  | .atomic body =>
    .going { search with
      tasks := .run body :: .commit :: tasks
      checkpoints := search.choices :: search.checkpoints }
  | .searchStart => if search.position == 0 then .going { search with tasks } else search.backtrack
  | .groupMatched group =>
    if (search.marks.at? (Marks.opening group)).isSome then .going { search with tasks }
    else search.backtrack
  | .conditional condition whenTrue whenFalse =>
    choose { search with checkpoints := search.choices :: search.checkpoints }
      (.run condition :: .commit :: .run whenTrue :: tasks) (.run whenFalse :: tasks)

def step (text : Array Char) (search : Search) : Progress :=
  match search.tasks with
  | [] => .matched
  | task :: tasks =>
    match task with
    | .run code => search.runCode text tasks code
    | .mark number =>
      .going { search with tasks, marks := (number, some search.position) :: search.marks }
    | .moveTo position => .going { search with tasks, position }
    | .commit =>
      match search.checkpoints with
      | choices :: checkpoints => .going { search with tasks, choices, checkpoints }
      | [] => .going { search with tasks }
    | .reject choices => backtrack { search with choices }
    | .guarded least greedy body count stopped =>
      if 0 < count && stopped == some search.position then search.backtrack
      else
        let again (stopped : Option Nat) : List Task :=
          .run body :: .guarded least greedy body (count + 1) stopped :: tasks
        if least ≤ count then search.decide greedy (again (some search.position)) tasks
        else .going { search with tasks := again stopped }
    | .counted least most greedy body count =>
      if count == most then .going { search with tasks }
      else
        let again := .run body :: .counted least most greedy body (count + 1) :: tasks
        if least ≤ count then search.decide greedy again tasks
        else .going { search with tasks := again }

/-- Whether the search finds a match within so many steps. Giving up counts as finding none. -/
def succeeds (text : Array Char) : Nat → Search → Bool
  | 0, _ => false
  | fuel + 1, search =>
    match search.step text with
    | .going search => succeeds text fuel search
    | .matched => true
    | .failed | .exhausted => false

/-- Steps that no search of practical size uses up. -/
def maxSteps : Nat := 0x10000000000

/-- The search for a match that may begin anywhere, the earliest place first. The whole match is
group 0. -/
def start (code : Code) : Search where
  tasks := [.run (.loop false false (.set Unicode.CharSet.all)), .run (.group 0 code)]
  position := 0
  marks := []
  choices := []
  checkpoints := []
  backtracks := 0

end Search

end Switchboard.Regex
