/-
This file follows the search for an expansion on its stack. The calls of the search share
one stack of active names: a call for a symbol with a rule puts the symbol on the stack,
calls for each character of its productions in turn, and takes the symbol off again, but
not when one of these calls fails. Every call is noted with the names that are active
when it is made, and there is room for only so many calls one inside the other.

Two invariants carry the proofs. A call that returns an expansion leaves the stack as it
has found it, so the next call finds there what the one before it has found. And the
active names are a way along the productions from the symbol that was asked for to the
symbol that is called for. The names on it are distinct, since a call for an active name
makes no calls, and all of them have rules; so there are never more of them than there are
rules, and room for one call more than that is enough. The search then comes to what the
expansion under names comes to.
-/

import Golden.Proofs.Grammar.FirstCycle

namespace Golden.Grammar

/-! ### The search -/

namespace Search

/-- A call of the search: the names that are being expanded, and the symbol that it is for. -/
structure Call where
  active : List String
  symbol : String
deriving DecidableEq, Repr

/-- What all calls share: the names that are being expanded, and the calls that were made. -/
structure Memory where
  active : List String
  calls : List Call
deriving DecidableEq, Repr

/-- Why a search stops without an expansion. -/
inductive Stop
  | recursive (cycle : Cycle)
  /-- There is no room for one more call inside the others. -/
  | tooDeep
deriving DecidableEq, Repr

end Search

/-- A part of a search, which leaves a memory also when it stops. -/
abbrev Search := EStateM Search.Stop Search.Memory

namespace Search

variable {α β : Type}

/-- Notes a call for a symbol, and looks at the names that are being expanded. -/
def enter (symbol : String) : Search (List String) := do
  let memory ← get
  set (Memory.mk memory.active (memory.calls ++ [⟨memory.active, symbol⟩]))
  return memory.active

/-- Puts a name on the stack for a part of the search and takes it off afterwards. It stays there
when that part stops. -/
def within (symbol : String) (part : Search α) : Search α := do
  modify fun memory => { memory with active := memory.active ++ [symbol] }
  let value ← part
  modify fun memory => { memory with active := memory.active.dropLast }
  return value

/-- The expansion of a production, with a call for each of its characters. -/
def alternative (call : String → Search String) (production : String) : Search String := do
  let parts ← production.toList.mapM fun character => call (String.singleton character)
  return String.join parts

/-- The expansion of a symbol while the active names are being expanded, with calls for the
characters of its productions. -/
def answer (grammar : Grammar) (call : String → Search String) (active : List String)
    (symbol : String) : Search String :=
  match grammar.productions? symbol with
  | none => return symbol
  | some productions =>
    if symbol ∈ active then throw (.recursive ⟨symbol, active ++ [symbol]⟩)
    else do
      let alternatives ← within symbol (productions.mapM (alternative call))
      return "(" ++ "|".intercalate alternatives ++ ")"

end Search

/-- Expands a symbol with one stack for all calls, and with room for a number of calls one inside
the other. -/
def search (grammar : Grammar) : Nat → String → Search String
  | 0, _ => throw .tooDeep
  | room + 1, symbol => do
    let active ← Search.enter symbol
    Search.answer grammar (grammar.search room) active symbol

namespace Search

variable {α β : Type}

/-! ### Parts of a search -/

/-- What a part of a search comes to, and the memory that it leaves. -/
def carryOut (part : Search α) (memory : Memory) : Except Stop α × Memory :=
  match part.run memory with
  | .ok value after => (.ok value, after)
  | .error stop after => (.error stop, after)

/-- What follows on a part is carried out in the memory that the part leaves, unless it stops. -/
theorem carryOut_bind (part : Search α) (next : α → Search β) (memory : Memory) :
    (part >>= next).carryOut memory =
      match part.carryOut memory with
      | (.ok value, after) => (next value).carryOut after
      | (.error stop, after) => (.error stop, after) := by
  unfold carryOut
  rw [EStateM.run_bind]
  cases part.run memory <;> rfl

theorem carryOut_enter (symbol : String) (memory : Memory) :
    (enter symbol).carryOut memory =
      (.ok memory.active, ⟨memory.active, memory.calls ++ [⟨memory.active, symbol⟩]⟩) := rfl

theorem carryOut_within (symbol : String) (part : Search α) (memory : Memory) :
    (within symbol part).carryOut memory =
      match part.carryOut ⟨memory.active ++ [symbol], memory.calls⟩ with
      | (.ok value, after) => (.ok value, ⟨after.active.dropLast, after.calls⟩)
      | (.error stop, after) => (.error stop, after) := by
  unfold within
  rw [carryOut_bind]
  show (part >>= _).carryOut ⟨memory.active ++ [symbol], memory.calls⟩ = _
  rw [carryOut_bind]
  rfl

/-! ### What a part of a search leaves -/

/-- A part of a search keeps the stack when it makes only calls that are allowed and, unless it
stops, leaves the names active that it has found so. -/
def Keeps (allowed : Call → Prop) (active : List String) (part : Search α) : Prop :=
  ∀ calls, ∃ left made, (part.carryOut ⟨active, calls⟩).2 = ⟨left, calls ++ made⟩ ∧
    (∀ call ∈ made, allowed call) ∧
    ((part.carryOut ⟨active, calls⟩).1.isOk = true → left = active)

section

variable {allowed : Call → Prop} {active : List String}

theorem keeps_pure (value : α) : Keeps allowed active (pure value) := fun calls =>
  ⟨active, [], congrArg (Memory.mk active) (List.append_nil calls).symm, List.forall_mem_nil _,
    fun _ => rfl⟩

theorem keeps_throw (stop : Stop) : Keeps allowed active (throw stop : Search α) := fun calls =>
  ⟨active, [], congrArg (Memory.mk active) (List.append_nil calls).symm, List.forall_mem_nil _,
    fun _ => rfl⟩

/-- A part that keeps the stack and returns leaves the names that it has found active. -/
theorem Keeps.of_returned {part : Search α} (kept : Keeps allowed active part) {calls : List Call}
    {value : α} {after : Memory} (returned : part.carryOut ⟨active, calls⟩ = (.ok value, after)) :
    ∃ made, after = ⟨active, calls ++ made⟩ ∧ ∀ call ∈ made, allowed call := by
  obtain ⟨left, made, leaves, each, restored⟩ := kept calls
  rw [returned] at leaves restored
  exact ⟨made, restored rfl ▸ leaves, each⟩

theorem Keeps.bind {part : Search α} {next : α → Search β} (first : Keeps allowed active part)
    (later : ∀ value, Keeps allowed active (next value)) :
    Keeps allowed active (part >>= next) := by
  intro calls
  rw [carryOut_bind]
  rcases done : part.carryOut ⟨active, calls⟩ with ⟨stop | value, after⟩
  · obtain ⟨left, made, leaves, each, -⟩ := first calls
    rw [done] at leaves
    exact ⟨left, made, leaves, each, fun succeeded => by cases succeeded⟩
  · obtain ⟨made, rfl, each⟩ := first.of_returned done
    obtain ⟨left, further, leaves, eachThen, restored⟩ := later value (calls ++ made)
    refine ⟨left, made ++ further, ?_, List.forall_mem_append.mpr ⟨each, eachThen⟩, restored⟩
    rw [leaves, List.append_assoc]

/-- A call that is allowed is noted before what it does. -/
theorem Keeps.enter {symbol : String} {next : List String → Search α}
    (here : allowed ⟨active, symbol⟩) (later : Keeps allowed active (next active)) :
    Keeps allowed active (enter symbol >>= next) := by
  intro calls
  obtain ⟨left, made, leaves, each, restored⟩ := later (calls ++ [⟨active, symbol⟩])
  rw [carryOut_bind, carryOut_enter]
  refine ⟨left, ⟨active, symbol⟩ :: made, ?_, List.forall_mem_cons.mpr ⟨here, each⟩, restored⟩
  rw [leaves, List.append_assoc, List.singleton_append]

/-- What is put on the stack is taken off. -/
theorem Keeps.within {symbol : String} {part : Search α}
    (kept : Keeps allowed (active ++ [symbol]) part) :
    Keeps allowed active (within symbol part) := by
  intro calls
  rw [carryOut_within]
  rcases done : part.carryOut ⟨active ++ [symbol], calls⟩ with ⟨stop | value, after⟩
  · obtain ⟨left, made, leaves, each, -⟩ := kept calls
    rw [done] at leaves
    exact ⟨left, made, leaves, each, fun succeeded => by cases succeeded⟩
  · obtain ⟨made, rfl, each⟩ := kept.of_returned done
    exact ⟨active, made, congrArg (Memory.mk · _) List.dropLast_concat, each, fun _ => rfl⟩

theorem Keeps.mapM {step : α → Search β} {items : List α}
    (each : ∀ item ∈ items, Keeps allowed active (step item)) :
    Keeps allowed active (items.mapM step) := by
  induction items with
  | nil => exact keeps_pure []
  | cons item rest inductionHypothesis =>
    obtain ⟨first, later⟩ := List.forall_mem_cons.mp each
    rw [List.mapM_cons]
    exact first.bind fun _ => (inductionHypothesis later).bind fun _ => keeps_pure _

end

/-- A call makes only calls that are allowed if those for the characters of its productions do. -/
theorem keeps_answer {grammar : Grammar} {allowed : Call → Prop} {active : List String}
    {symbol : String} {call : String → Search String}
    (inner : symbol ∉ active → ∀ character, grammar.Writes symbol character →
      Keeps allowed (active ++ [symbol]) (call (String.singleton character))) :
    Keeps allowed active (answer grammar call active symbol) := by
  unfold answer
  split
  · exact keeps_pure symbol
  · rename_i productions ruled
    split
    · exact keeps_throw _
    · rename_i fresh
      refine Keeps.bind (Keeps.within (Keeps.mapM fun production member => ?_)) fun _ =>
        keeps_pure _
      refine Keeps.bind (Keeps.mapM fun character inside => ?_) fun _ => keeps_pure _
      exact inner fresh character ⟨productions, ruled, production, member, inside⟩

/-- A search makes only calls that are allowed, if its first call is and every call that is allowed
makes such calls. -/
theorem keeps_search {grammar : Grammar} {allowed : Call → Prop}
    (nested : ∀ active symbol character, allowed ⟨active, symbol⟩ → symbol ∉ active →
      grammar.Writes symbol character →
        allowed ⟨active ++ [symbol], String.singleton character⟩)
    (room : Nat) {active : List String} {symbol : String} (here : allowed ⟨active, symbol⟩) :
    Keeps allowed active (grammar.search room symbol) := by
  induction room generalizing active symbol with
  | zero => exact keeps_throw _
  | succ room inductionHypothesis =>
    exact Keeps.enter here (keeps_answer fun fresh character written =>
      inductionHypothesis (nested active symbol character here fresh written))

/-- Whatever the search finds on the stack, it only makes calls. -/
theorem keeps_search_of_any (grammar : Grammar) (room : Nat) (active : List String)
    (symbol : String) : Keeps (fun _ => True) active (grammar.search room symbol) :=
  keeps_search (fun _ _ _ _ _ _ => trivial) room trivial

/-- The names that are active when a symbol is called for are so again when its expansion is
returned. -/
theorem active_of_search_eq_ok {grammar : Grammar} {room : Nat} {symbol expansion : String}
    {before after : Memory}
    (returned : (grammar.search room symbol).carryOut before = (.ok expansion, after)) :
    after.active = before.active := by
  obtain ⟨made, rfl, -⟩ :=
    (keeps_search_of_any grammar room before.active symbol).of_returned returned
  rfl

/-- A search begins with the call for its symbol. -/
theorem exists_calls_of_search (grammar : Grammar) (room : Nat) (active : List String)
    (symbol : String) (calls : List Call) :
    ∃ further, ((grammar.search (room + 1) symbol).carryOut ⟨active, calls⟩).2.calls =
      calls ++ ⟨active, symbol⟩ :: further := by
  obtain ⟨left, further, leaves, -⟩ := keeps_answer
    (fun _ _ _ => keeps_search_of_any grammar room (active ++ [symbol]) _)
    (calls ++ [⟨active, symbol⟩])
  refine ⟨further, ?_⟩
  rw [search, carryOut_bind, carryOut_enter]
  dsimp only
  rw [leaves, List.append_assoc, List.singleton_append]

/-! ### What a search comes to -/

/-- A part of a search comes to a result whenever it finds the given names active. -/
def Yields (result : Except Stop α) (active : List String) (part : Search α) : Prop :=
  ∀ calls, (part.carryOut ⟨active, calls⟩).1 = result

section

variable {allowed : Call → Prop} {active : List String}

theorem Yields.bind {part : Search α} {next : α → Search β} {result : Except Stop α}
    {nextResult : α → Except Stop β} (kept : Keeps allowed active part)
    (first : Yields result active part)
    (later : ∀ value, Yields (nextResult value) active (next value)) :
    Yields (result >>= nextResult) active (part >>= next) := by
  intro calls
  rw [← first calls, carryOut_bind]
  rcases done : part.carryOut ⟨active, calls⟩ with ⟨stop | value, after⟩
  · rfl
  · obtain ⟨made, rfl, -⟩ := kept.of_returned done
    exact later value (calls ++ made)

theorem Yields.enter {symbol : String} {next : List String → Search α} {result : Except Stop α}
    (later : Yields result active (next active)) :
    Yields result active (enter symbol >>= next) := by
  intro calls
  rw [carryOut_bind, carryOut_enter]
  exact later (calls ++ [⟨active, symbol⟩])

theorem Yields.within {symbol : String} {part : Search α} {result : Except Stop α}
    (inner : Yields result (active ++ [symbol]) part) :
    Yields result active (within symbol part) := by
  intro calls
  rw [← inner calls, carryOut_within]
  rcases part.carryOut ⟨active ++ [symbol], calls⟩ with ⟨stop | value, after⟩ <;> rfl

theorem Yields.mapM {step : α → Search β} {result : α → Except Stop β} {items : List α}
    (kept : ∀ item ∈ items, Keeps allowed active (step item))
    (each : ∀ item ∈ items, Yields (result item) active (step item)) :
    Yields (items.mapM result) active (items.mapM step) := by
  induction items with
  | nil => exact fun calls => rfl
  | cons item rest inductionHypothesis =>
    obtain ⟨keptFirst, keptRest⟩ := List.forall_mem_cons.mp kept
    obtain ⟨first, later⟩ := List.forall_mem_cons.mp each
    rw [List.mapM_cons, List.mapM_cons]
    exact first.bind keptFirst fun _ =>
      (inductionHypothesis keptRest later).bind (.mapM keptRest) fun _ calls => rfl

end

/-- Where there is room for a call, its answer is the expansion under the names that are active. -/
theorem yields_answer {grammar : Grammar} {active : List String} {symbol : String}
    {call : String → Search String}
    (kept : ∀ name, Keeps (fun _ => True) (active ++ [symbol]) (call name))
    (inner : symbol ∈ grammar.names → symbol ∉ active → ∀ name,
      Yields ((grammar.expandUnder (active ++ [symbol]) name).mapError .recursive)
        (active ++ [symbol]) (call name)) :
    Yields ((grammar.expandUnder active symbol).mapError .recursive) active
      (answer grammar call active symbol) := by
  unfold answer
  split
  next literal =>
    rw [expandUnder_of_no_rule literal]
    exact fun calls => rfl
  next productions ruled =>
    split
    next met =>
      rw [expandUnder_of_mem ruled met]
      exact fun calls => rfl
    next fresh =>
      have keptParts : ∀ production ∈ productions,
          Keeps (fun _ => True) (active ++ [symbol]) (alternative call production) :=
        fun production _ => Keeps.bind (.mapM fun character _ => kept _) fun _ => keeps_pure _
      rw [expandUnder_of_rule ruled fresh, mapError_bind_pure, mapError_mapM]
      refine Yields.bind (.within (.mapM keptParts)) (.within (.mapM keptParts ?_))
        fun _ calls => rfl
      intro production member
      rw [expandProduction, mapError_bind_pure, mapError_mapM]
      exact Yields.bind (.mapM fun character _ => kept _)
        (.mapM (fun character _ => kept _) fun character _ =>
          inner (mem_names_of_productions? ruled) fresh _) fun _ calls => rfl

/-- Where the active names are distinct and have rules, room for as many calls as there are other
rules, and one more, is enough. -/
theorem yields_search {grammar : Grammar} (room : Nat) {active : List String} (symbol : String)
    (distinct : active.Nodup) (ruled : ∀ name ∈ active, name ∈ grammar.names)
    (enough : grammar.size < room + active.length) :
    Yields ((grammar.expandUnder active symbol).mapError .recursive) active
      (grammar.search room symbol) := by
  induction room generalizing active symbol with
  | zero =>
    have bound := length_le_size distinct ruled
    omega
  | succ room inductionHypothesis =>
    refine Yields.enter (yields_answer (fun name => ?_) fun symbolRuled fresh name => ?_)
    · exact keeps_search_of_any grammar room _ name
    · refine inductionHypothesis name ?_ ?_ ?_
      · exact distinct.append (List.nodup_singleton symbol) (List.disjoint_singleton.mpr fresh)
      · exact List.forall_mem_append.mpr ⟨ruled, List.forall_mem_singleton.mpr symbolRuled⟩
      · rw [List.length_append, List.length_singleton]
        omega

/-! ### The way to a call -/

/-- A call lies on a way from the symbol that was asked for. The active names are distinct and have
rules, and each of them, and the symbol of the call behind them, is a character in a production of
the one before it. The first of all is the symbol that was asked for. -/
structure IsOnWay (grammar : Grammar) (asked : String) (call : Call) : Prop where
  distinct : call.active.Nodup
  ruled : ∀ name ∈ call.active, name ∈ grammar.names
  begins : (call.active ++ [call.symbol]).head? = some asked
  follows : (call.active ++ [call.symbol]).IsChain fun name next =>
    ∃ character, grammar.Writes name character ∧ next = String.singleton character

/-- The call for the symbol that was asked for. -/
theorem isOnWay_start (grammar : Grammar) (asked : String) : IsOnWay grammar asked ⟨[], asked⟩ where
  distinct := List.nodup_nil
  ruled := List.forall_mem_nil _
  begins := rfl
  follows := .singleton asked

/-- The calls that a call makes go on its way. -/
theorem IsOnWay.step {grammar : Grammar} {asked : String} (active : List String) (symbol : String)
    (character : Char) (call : IsOnWay grammar asked ⟨active, symbol⟩) (fresh : symbol ∉ active)
    (written : grammar.Writes symbol character) :
    IsOnWay grammar asked ⟨active ++ [symbol], String.singleton character⟩ where
  distinct := call.distinct.append (List.nodup_singleton symbol)
    (List.disjoint_singleton.mpr fresh)
  ruled := by
    obtain ⟨productions, ruled, -⟩ := written
    exact List.forall_mem_append.mpr
      ⟨call.ruled, List.forall_mem_singleton.mpr (mem_names_of_productions? ruled)⟩
  begins := by
    rw [List.head?_append, call.begins]
    rfl
  follows := by
    refine List.isChain_append.mpr ⟨call.follows, .singleton _, ?_⟩
    intro name last next first
    rw [List.getLast?_concat, Option.mem_some_iff] at last
    rw [List.head?_cons, Option.mem_some_iff] at first
    exact ⟨character, last ▸ written, first.symm⟩

end Search

/-- A search with room for more calls one inside the other than the grammar has rules is never short
of room, and comes to what the expansion of the symbol is. It begins with the call for the symbol
that was asked for. Of every call that it makes, the active names are distinct, have rules, and are
not more than the grammar has rules; they begin with the symbol that was asked for, each later one
is a character in a production of the one before it, and the symbol of the call is a character in a
production of the last of them, or is the symbol that was asked for if there are none. Any call that
returns an expansion, whatever it finds on the stack, leaves it there. -/
theorem search_keeps_bounded_stack (grammar : Grammar) (asked : String) {room : Nat}
    (enough : grammar.size < room) :
    let outcome := (grammar.search room asked).carryOut ⟨[], []⟩
    outcome.1 = (grammar.expand asked).mapError Search.Stop.recursive ∧
    (∃ further, outcome.2.calls = ⟨[], asked⟩ :: further) ∧
    (∀ call ∈ outcome.2.calls,
      Search.IsOnWay grammar asked call ∧ call.active.length ≤ grammar.size) ∧
    ∀ depth symbol before expansion after,
      (grammar.search depth symbol).carryOut before = (.ok expansion, after) →
        after.active = before.active := by
  intro outcome
  obtain ⟨left, made, leaves, each, -⟩ :=
    Search.keeps_search Search.IsOnWay.step room (Search.isOnWay_start grammar asked) []
  refine ⟨?_, ?_, ?_, ?_⟩
  · exact Search.yields_search room asked List.nodup_nil (List.forall_mem_nil _) enough []
  · obtain ⟨less, rfl⟩ := Nat.exists_eq_add_one_of_ne_zero (Nat.ne_zero_of_lt enough)
    exact Search.exists_calls_of_search grammar less [] asked []
  · intro call member
    have onWay := each call (by simpa [outcome, leaves] using member)
    exact ⟨onWay, length_le_size onWay.distinct onWay.ruled⟩
  · intro depth symbol before expansion after
    exact Search.active_of_search_eq_ok

/-- A grammar whose rules are all on one cycle. -/
def ring : Grammar :=
  empty.add ⟨"S", ["x", "A"]⟩ |>.add ⟨"A", ["", "yB"]⟩ |>.add ⟨"B", ["S"]⟩

/-- The calls of the search in the ring, in order. -/
def callsInRing : List Search.Call :=
  [⟨[], "S"⟩, ⟨["S"], "x"⟩, ⟨["S"], "A"⟩, ⟨["S", "A"], "y"⟩, ⟨["S", "A"], "B"⟩,
    ⟨["S", "A", "B"], "S"⟩]

/-- Room for one call more than there are rules is enough where every rule is on the cycle, and room
for one call less is not. The names on the way to the failing call stay on the stack. -/
theorem search_in_ring :
    ring.size < 4 ∧
    (ring.search 4 "S").carryOut ⟨[], []⟩ =
      (.error (.recursive ⟨"S", ["S", "A", "B", "S"]⟩), ⟨["S", "A", "B"], callsInRing⟩) ∧
    ring.expand "S" = .error ⟨"S", ["S", "A", "B", "S"]⟩ ∧
    (∀ call ∈ callsInRing, Search.IsOnWay ring "S" call ∧ call.active.length ≤ ring.size) ∧
    ((ring.search 3 "S").carryOut ⟨[], []⟩).1 = .error .tooDeep := by
  have enough : ring.size < 4 := by decide
  have searched : (ring.search 4 "S").carryOut ⟨[], []⟩ =
      (.error (.recursive ⟨"S", ["S", "A", "B", "S"]⟩), ⟨["S", "A", "B"], callsInRing⟩) := by
    decide +kernel
  have bounded := search_keeps_bounded_stack ring "S" enough
  rw [searched] at bounded
  obtain ⟨-, -, calls, -⟩ := bounded
  exact ⟨enough, searched, by decide +kernel, calls, by decide +kernel⟩

end Golden.Grammar
