import Mathlib.Data.List.Chain
import Mathlib.Tactic.Common
import Switchboard.Proofs.Standing

/-! A message passes the chain as it stood when the run began. Filters may edit the chain that they
stand in while they run; the run calls the filters that were there at its start, in their order, up
to the first that blocks, and the edits that these make show in the next run. -/
namespace Switchboard

/-- What an edit does to the chain over text, -/
def Chain.editText (chain : Chain TextFilter) : Edit → Chain TextFilter
  | .addText key filter => chain.insert key filter.priority filter
  | .dropText key => chain.erase key
  | .addMessage _ _ | .dropMessage _ => chain

/-- and to the chain over messages. -/
def Chain.editMessage (chain : Chain MessageFilter) : Edit → Chain MessageFilter
  | .addMessage key filter => chain.insert key filter.priority filter
  | .dropMessage key => chain.erase key
  | .addText _ _ | .dropText _ => chain

namespace Filters

variable {φ α : Type}

/-- What a filter does with what it is given and what is remembered. -/
abbrev Conduct (φ α : Type) := φ → α → Memory → TextFilter.Result α

/-- Runs filters of either kind one after another, up to the first that blocks. -/
def pass (conduct : Conduct φ α) :
    List (Entry φ) → α → Filters → Except Blocked α × Filters
  | [], message, filters => (.ok message, filters)
  | entry :: rest, message, filters =>
    let result := conduct entry.filter message filters.memory
    let later := result.edits.foldl edit { filters with memory := result.memory }
    match result.outcome with
    | .ok passed => pass conduct rest passed later
    | .error blocked => (.error blocked, later)

def ofTexts (clock : Clock) (sender : Account) : Conduct TextFilter String :=
  fun filter text memory => filter.run clock sender text memory

/-- What filters over messages do, which remember nothing. -/
def ofMessages (sender : Account) : Conduct MessageFilter Message := fun filter message memory =>
  { outcome := (filter.run sender message).1, memory, edits := (filter.run sender message).2 }

theorem runText_eq_pass (clock : Clock) (sender : Account) (entries : List (Entry TextFilter))
    (text : String) (filters : Filters) :
    runText clock sender entries text filters =
      pass (ofTexts clock sender) entries text filters := by
  induction entries generalizing text filters with
  | nil => rfl
  | cons entry rest ih =>
    rw [runText, pass, applyText, ofTexts]
    cases (entry.filter.run clock sender text filters.memory).outcome with
    | ok passed => exact ih passed _
    | error blocked => rfl

theorem runMessage_eq_pass (sender : Account) (entries : List (Entry MessageFilter))
    (message : Message) (filters : Filters) :
    runMessage sender entries message filters =
      pass (ofMessages sender) entries message filters := by
  induction entries generalizing message filters with
  | nil => rfl
  | cons entry rest ih =>
    rw [runMessage, pass, applyMessage, ofMessages]
    dsimp only
    cases (entry.filter.run sender message).1 with
    | ok passed => exact ih passed _
    | error blocked => rfl

/-! ## Calls -/

/-- A filter that is called: what it is given, what is remembered then, and what comes of it. -/
structure Called (φ α : Type) where
  entry : Entry φ
  given : α
  memory : Memory
  result : TextFilter.Result α

/-- The edits that the filters called make, in the order in which they are called. -/
def editsOf (calls : List (Called φ α)) : List Edit := calls.flatMap (·.result.edits)

/-- What comes of a message after the calls: what comes of the last one, if there was any. -/
def outcomeAfter (message : α) (calls : List (Called φ α)) : Except Blocked α :=
  (calls.getLast?.map (·.result.outcome)).getD (.ok message)

def memoryAfter (memory : Memory) (calls : List (Called φ α)) : Memory :=
  (calls.getLast?.map (·.result.memory)).getD memory

/-- All that happens while a message passes the entries from the given filters on: which filters are
called, what comes of the message, and the filters that are left. -/
structure Passing (conduct : Conduct φ α) (entries : List (Entry φ)) (message : α)
    (filters : Filters) (calls : List (Called φ α)) (outcome : Except Blocked α)
    (later : Filters) : Prop where
  /-- Those called are the first of the entries, in their order. -/
  inOrder : calls.map Called.entry <+: entries
  /-- Each does what it does with what it is given. -/
  acts : ∀ call ∈ calls, call.result = conduct call.entry.filter call.given call.memory
  /-- The first is given the message, -/
  starts : ∀ call ∈ calls.head?, message = call.given ∧ filters.memory = call.memory
  /-- and each other is given what the one ahead of it lets pass. -/
  handsOn : calls.IsChain fun ahead next =>
    ahead.result.outcome = .ok next.given ∧ ahead.result.memory = next.memory
  /-- The outcome is that of the last one called. -/
  ends : outcome = outcomeAfter message calls
  /-- Unless one blocks, all are called. -/
  complete : outcome.isOk = true → calls.map Called.entry = entries
  /-- What is left are the filters from the start, with the edits of those called. -/
  left : later = (editsOf calls).foldl edit
    { filters with memory := memoryAfter filters.memory calls }

variable {conduct : Conduct φ α} {entry : Entry φ} {entries : List (Entry φ)} {message passed : α}
  {filters later : Filters} {call : Called φ α} {calls : List (Called φ α)}
  {outcome : Except Blocked α} {blocked : Blocked}

/-- The call of an entry that a message comes to. -/
def callOf (conduct : Conduct φ α) (entry : Entry φ) (message : α) (filters : Filters) :
    Called φ α :=
  ⟨entry, message, filters.memory, conduct entry.filter message filters.memory⟩

def afterCall (filters : Filters) (call : Called φ α) : Filters :=
  call.result.edits.foldl edit { filters with memory := call.result.memory }

theorem memory_afterCall (filters : Filters) (call : Called φ α) :
    (filters.afterCall call).memory = call.result.memory := by
  rw [afterCall, Registry.edits_withMemory]

/-- Edits that follow a call are made to what it leaves, whatever is remembered by then. -/
theorem edits_afterCall (filters : Filters) (call : Called φ α) (edits : List Edit)
    (memory : Memory) :
    edits.foldl edit { filters.afterCall call with memory } =
      (call.result.edits ++ edits).foldl edit { filters with memory } := by
  rw [List.foldl_append, afterCall, Registry.edits_withMemory _ filters memory,
    Registry.edits_withMemory _ filters call.result.memory]

theorem outcomeAfter_cons (passes : call.result.outcome = .ok passed) (message : α)
    (calls : List (Called φ α)) :
    outcomeAfter message (call :: calls) = outcomeAfter passed calls := by
  rw [outcomeAfter, List.getLast?_cons, outcomeAfter, ← passes]
  exact (Option.getD_map (·.result.outcome) call calls.getLast?).symm

theorem memoryAfter_cons (memory : Memory) (call : Called φ α) (calls : List (Called φ α)) :
    memoryAfter memory (call :: calls) = memoryAfter call.result.memory calls := by
  rw [memoryAfter, List.getLast?_cons, memoryAfter]
  exact (Option.getD_map (·.result.memory) call calls.getLast?).symm

/-- What is left after a call and more calls is what these leave of what the first one leaves. -/
theorem left_cons (filters : Filters) (call : Called φ α) (calls : List (Called φ α)) :
    (editsOf (call :: calls)).foldl edit
        { filters with memory := memoryAfter filters.memory (call :: calls) } =
      (editsOf calls).foldl edit
        { filters.afterCall call with
          memory := memoryAfter (filters.afterCall call).memory calls } := by
  rw [edits_afterCall, memory_afterCall, memoryAfter_cons]
  rfl

namespace Passing

theorem nothing_iff : Passing conduct [] message filters calls outcome later ↔
    calls = [] ∧ outcome = .ok message ∧ later = filters := by
  constructor
  · intro passing
    obtain rfl := List.map_eq_nil_iff.mp (List.prefix_nil.mp passing.inOrder)
    exact ⟨rfl, passing.ends, passing.left⟩
  · rintro ⟨rfl, rfl, rfl⟩
    exact ⟨List.prefix_rfl, nofun, nofun, .nil, rfl, fun _ => rfl, rfl⟩

theorem first_called (passing : Passing conduct (entry :: entries) message filters calls outcome
    later) : ∃ rest, calls = callOf conduct entry message filters :: rest := by
  cases calls with
  | nil => cases passing.complete (by rw [passing.ends]; rfl)
  | cons call rest =>
    obtain ⟨same, -⟩ := List.cons_prefix_cons.mp passing.inOrder
    obtain ⟨given, memory⟩ := passing.starts call rfl
    have acts := passing.acts call List.mem_cons_self
    refine ⟨rest, congrArg (· :: rest) ?_⟩
    rw [callOf, ← same, given, memory, ← acts]

theorem blocked_iff
    (stops : (callOf conduct entry message filters).result.outcome = .error blocked) :
    Passing conduct (entry :: entries) message filters calls outcome later ↔
      calls = [callOf conduct entry message filters] ∧ outcome = .error blocked ∧
        later = filters.afterCall (callOf conduct entry message filters) := by
  constructor
  · intro passing
    obtain ⟨rest, rfl⟩ := passing.first_called
    cases rest with
    | nil => exact ⟨rfl, passing.ends.trans stops, passing.left.trans (left_cons filters _ [])⟩
    | cons next rest =>
      have passes := (List.isChain_cons_cons.mp passing.handsOn).1.1
      cases stops.symm.trans passes
  · rintro ⟨rfl, rfl, rfl⟩
    refine ⟨⟨entries, rfl⟩, List.forall_mem_singleton.mpr rfl, ?_, List.isChain_singleton _,
      stops.symm, nofun, (left_cons filters _ []).symm⟩
    rintro call ⟨⟩
    exact ⟨rfl, rfl⟩

theorem passed_iff (passes : (callOf conduct entry message filters).result.outcome = .ok passed) :
    Passing conduct (entry :: entries) message filters
        (callOf conduct entry message filters :: calls) outcome later ↔
      Passing conduct entries passed (filters.afterCall (callOf conduct entry message filters))
        calls outcome later := by
  have ends := outcomeAfter_cons passes message calls
  have left := left_cons filters (callOf conduct entry message filters) calls
  constructor
  · intro passing
    have hands := List.isChain_cons.mp passing.handsOn
    rw [passes, ← memory_afterCall filters] at hands
    exact {
      inOrder := (List.cons_prefix_cons.mp passing.inOrder).2
      acts := fun call member => passing.acts call (List.mem_cons_of_mem _ member)
      starts := fun next first => (hands.1 next first).imp_left Except.ok.inj
      handsOn := hands.2
      ends := passing.ends.trans ends
      complete := fun done => (List.cons.inj (passing.complete done)).2
      left := passing.left.trans left }
  · intro passing
    exact {
      inOrder := List.cons_prefix_cons.mpr ⟨rfl, passing.inOrder⟩
      acts := List.forall_mem_cons.mpr ⟨rfl, passing.acts⟩
      starts := by
        rintro call ⟨⟩
        exact ⟨rfl, rfl⟩
      handsOn := by
        rw [List.isChain_cons, passes, ← memory_afterCall filters]
        exact ⟨fun next first => (passing.starts next first).imp_left (congrArg _), passing.handsOn⟩
      ends := passing.ends.trans ends.symm
      complete := fun done => by
        rw [List.map_cons, passing.complete done]
        rfl
      left := passing.left.trans left.symm }

theorem unique (passing : Passing conduct entries message filters calls outcome later)
    {others : List (Called φ α)} {outcome' : Except Blocked α} {later' : Filters}
    (other : Passing conduct entries message filters others outcome' later') :
    others = calls ∧ outcome' = outcome ∧ later' = later := by
  induction entries generalizing message filters calls others with
  | nil =>
    obtain ⟨rfl, rfl, rfl⟩ := nothing_iff.mp passing
    exact nothing_iff.mp other
  | cons entry entries ih =>
    cases ends : (callOf conduct entry message filters).result.outcome with
    | error blocked =>
      obtain ⟨rfl, rfl, rfl⟩ := (blocked_iff ends).mp passing
      exact (blocked_iff ends).mp other
    | ok passed =>
      obtain ⟨calls, rfl⟩ := passing.first_called
      obtain ⟨others, rfl⟩ := other.first_called
      exact (ih ((passed_iff ends).mp passing) ((passed_iff ends).mp other)).imp_left
        (congrArg _)

end Passing

theorem pass_passing (conduct : Conduct φ α) (entries : List (Entry φ)) (message : α)
    (filters : Filters) : ∃ calls, Passing conduct entries message filters calls
      (pass conduct entries message filters).1 (pass conduct entries message filters).2 := by
  induction entries generalizing message filters with
  | nil => exact ⟨[], Passing.nothing_iff.mpr ⟨rfl, rfl, rfl⟩⟩
  | cons entry entries ih =>
    have ends : (callOf conduct entry message filters).result.outcome =
        (conduct entry.filter message filters.memory).outcome := rfl
    rw [pass]
    cases result : (conduct entry.filter message filters.memory).outcome with
    | error blocked => exact ⟨_, (Passing.blocked_iff (ends.trans result)).mpr ⟨rfl, rfl, rfl⟩⟩
    | ok passed =>
      obtain ⟨calls, passing⟩ :=
        ih passed (filters.afterCall (callOf conduct entry message filters))
      exact ⟨_, (Passing.passed_iff (ends.trans result)).mpr passing⟩

/-! ## The chain that is left -/

theorem text_edits (edits : List Edit) (filters : Filters) :
    (edits.foldl edit filters).text = edits.foldl Chain.editText filters.text :=
  (List.foldl_hom Filters.text fun _ change => by cases change <;> rfl).symm

theorem message_edits (edits : List Edit) (filters : Filters) :
    (edits.foldl edit filters).message = edits.foldl Chain.editMessage filters.message :=
  (List.foldl_hom Filters.message fun _ change => by cases change <;> rfl).symm

variable {ι : Type}

/-- A run takes a chain as it finds it. All that it does comes from calls of the filters that stand
in the chain when it starts; their edits are made to that chain in the order of the calls, and the
chain that is left then is the one that the next run goes through. -/
def TakenAsFound (conduct : ι → Conduct φ α) (chain : Filters → Chain φ)
    (revise : Chain φ → Edit → Chain φ)
    (run : ι → α → Filters → Except Blocked α × Filters) : Prop :=
  ∀ given message filters, ∃ calls,
    let (outcome, later) := run given message filters
    Passing (conduct given) (chain filters).entries message filters calls outcome later ∧
      (∀ others outcome' later', Passing (conduct given) (chain filters).entries message filters
        others outcome' later' → others = calls ∧ outcome' = outcome ∧ later' = later) ∧
      chain later = (editsOf calls).foldl revise (chain filters) ∧
      ∀ given message, ∃ callsThen, Passing (conduct given)
        ((editsOf calls).foldl revise (chain filters)).entries message later callsThen
        (run given message later).1 (run given message later).2

theorem takenAsFound_of_pass {conduct : ι → Conduct φ α} {chain : Filters → Chain φ}
    {revise : Chain φ → Edit → Chain φ} {run : ι → α → Filters → Except Blocked α × Filters}
    (passes : ∀ given message filters,
      run given message filters = pass (conduct given) (chain filters).entries message filters)
    (revises : ∀ (edits : List Edit) filters,
      chain (edits.foldl edit filters) = edits.foldl revise (chain filters))
    (forgets : ∀ filters memory, chain { filters with memory } = chain filters) :
    TakenAsFound conduct chain revise run := by
  intro given message filters
  obtain ⟨calls, passing⟩ := pass_passing (conduct given) (chain filters).entries message filters
  rw [← passes] at passing
  have left : chain (run given message filters).2 =
      (editsOf calls).foldl revise (chain filters) := by
    rw [passing.left, revises, forgets]
  refine ⟨calls, passing, fun _ _ _ => passing.unique, left, fun given message => ?_⟩
  rw [← left, passes given]
  exact pass_passing ..

/-- Both chains are taken as they are found when a message comes to them. -/
theorem chains_taken_as_found :
    TakenAsFound (fun (clock, sender) => ofTexts clock sender) Filters.text Chain.editText
        (fun (clock, sender) text filters => filters.filterText clock sender text) ∧
      TakenAsFound ofMessages Filters.message Chain.editMessage
        (fun sender message filters => filters.filterMessage sender message) :=
  ⟨takenAsFound_of_pass (fun (clock, sender) text _ => runText_eq_pass clock sender _ text _)
      text_edits fun _ _ => rfl,
    takenAsFound_of_pass (fun sender message _ => runMessage_eq_pass sender _ message _)
      message_edits fun _ _ => rfl⟩

/-- A filter that takes out itself and the next one and puts in one that is to run ahead of both:
the next one is called all the same, and blocks. -/
example :
    let rest : TextFilter := .custom 1 fun _ _ => (.ok "", [])
    let changer : TextFilter := .custom 2 fun _ text =>
      (.ok (text ++ "!"), [.dropText "changer", .dropText "next", .addText "rest" rest])
    let next : TextFilter := .custom 3 fun _ text => (.error ⟨.ofText text⟩, [])
    let filters := (addText {} "next" next).addText "changer" changer
    let (outcome, later) := filters.filterText default default "hi"
    outcome = .error ⟨.ofText "hi!"⟩ ∧ filters.text.keys = ["changer", "next"] ∧
      later.text.keys = ["rest"] := by
  exact ⟨rfl, rfl, rfl⟩

end Filters

end Switchboard
