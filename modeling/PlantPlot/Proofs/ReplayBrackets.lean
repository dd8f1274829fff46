import Mathlib
import PlantPlot.Proofs.ReplayStep
import PlantPlot.Proofs.Balance
import PlantPlot.Program.Basic

/-!
# Saves and restores come back to where they started

A block of commands is balanced when it is settled (no prefix of it restores more turtles than it
saved) and restores as many turtles as it saves. Run over any stack of saved turtles, a settled
block keeps that stack underneath the turtles it saved and has not restored yet
(`advance_in_block`): its restores never reach below the stack it found, and a saved turtle is
never changed. So a balanced block leaves the stack as it found it (`balanced_block_keeps_stack`),
and a save, a balanced block and a restore bring the turtle back to the position and heading it
had before the save.

The steps are made by scripts of single steps and changes of the step length, the turn angle and
the start, in any order; `script_steps` carries a property of the replay through such a script,
one step at a time.

Main statement: `brackets_restore_turtle`.
-/

namespace PlantPlot

namespace RuleTable

variable {table : RuleTable}

/-- A settled block that restores as many turtles as it saves. -/
def Balanced (table : RuleTable) (word : List Char) : Prop :=
  table.Settled word ∧ table.depth word = 0

/-- The most saves that a prefix of the word leaves open. -/
def nesting (table : RuleTable) (word : List Char) : Nat :=
  (word.inits.map fun before => (table.depth before).toNat).foldr max 0

/-- The bracket check decides balance: a block is balanced exactly when the check leaves no save
open. -/
theorem balanced_iff_balance {word : List Char} :
    table.Balanced word ↔ table.balance word = .ok 0 := by
  rw [balance_eq_ok_iff, Balanced, Nat.cast_zero, eq_comm (a := (0 : Int))]

theorem depth_append_of_effect? {word : List Char} {symbol : Char} {effect : Effect}
    (found : table.effect? symbol = some effect) :
    table.depth (word ++ [symbol]) = table.depth word + effect.stackChange := by
  rw [depth_append, depth_singleton, found]
  cases effect <;> simp [Effect.stackChange]

theorem depth_le_nesting {word before : List Char} (settled : table.Settled word)
    (isPrefix : before <+: word) : table.depth before ≤ table.nesting word := by
  have member : (table.depth before).toNat ∈
      word.inits.map fun before => (table.depth before).toNat :=
    List.mem_map.2 ⟨before, (List.mem_inits before word).2 isPrefix, rfl⟩
  have atMost := List.le_max_of_le' 0 member le_rfl
  have nonneg := (settled.of_prefix isPrefix).depth_nonneg
  unfold nesting
  omega

end RuleTable

theorem Effect.stackChange_eq_zero {effect : Effect} (saves : effect ≠ .push)
    (restores : effect ≠ .pop) : effect.stackChange = 0 := by
  cases effect <;> simp_all [Effect.stackChange]

namespace Replay

variable {σ : Type} [Sink σ]

namespace Call

/-- Whether the call is a whole pass. -/
def isPass : Call → Bool
  | @Call.runPass _ _ _ => true
  | _ => false

/-- Whether the call is a single step. -/
def isAdvance : Call → Bool
  | @Call.advance _ _ _ => true
  | _ => false

/-- The number of single steps that a script asks for. -/
def advances (calls : List Call) : Nat :=
  calls.countP isAdvance

@[simp] theorem advances_nil : advances [] = 0 := rfl

theorem advances_cons (call : Call) (calls : List Call) :
    advances (call :: calls) = advances calls + if call.isAdvance then 1 else 0 := by
  by_cases single : call.isAdvance <;> simp [advances, single]

end Call

/-- `replay` replays the commands of `origin`, with its rules and its save limit. -/
structure SameProgram (origin replay : Replay) : Prop where
  commands_eq : replay.commands = origin.commands
  rules_eq : replay.rules = origin.rules
  limit_eq : replay.config.maxStackDepth = origin.config.maxStackDepth

theorem SameProgram.trans {origin middle replay : Replay} (first : SameProgram origin middle)
    (second : SameProgram middle replay) : SameProgram origin replay :=
  ⟨second.commands_eq.trans first.commands_eq, second.rules_eq.trans first.rules_eq,
    second.limit_eq.trans first.limit_eq⟩

theorem SameProgram.reconfigured {origin replay : Replay} (same : SameProgram origin replay)
    {config : TurtleConfig} (sameLimit : config.maxStackDepth = replay.config.maxStackDepth) :
    SameProgram origin { replay with config } :=
  ⟨same.commands_eq, same.rules_eq, sameLimit.trans same.limit_eq⟩

/-- The replay has run the commands `done` of a block that began at cursor `start` over the saved
turtles `base`: the cursor stands past them, and the saved turtles are `base` under one turtle for
each save of `done` that is still open. -/
structure InBlock (table : RuleTable) (start : Nat) (base : List Turtle) (done : List Char)
    (replay : Replay) : Prop where
  cursor_eq : replay.cursor = start + done.length
  stacked : ∃ opened, replay.saved = opened ++ base ∧ (opened.length : Int) = table.depth done

theorem InBlock.reconfigured {table : RuleTable} {start : Nat} {base : List Turtle}
    {done : List Char} {replay : Replay} (inside : InBlock table start base done replay)
    (config : TurtleConfig) : InBlock table start base done { replay with config } :=
  ⟨inside.cursor_eq, inside.stacked⟩

/-- After the whole of a balanced block the saved turtles are the ones it found: it has closed
every save it opened. -/
theorem InBlock.saved_of_balanced {table : RuleTable} {start : Nat} {base : List Turtle}
    {block : List Char} {replay : Replay} (inside : InBlock table start base block replay)
    (balanced : table.Balanced block) : replay.saved = base := by
  obtain ⟨-, opened, stacked, counted⟩ := inside
  rw [balanced.2, Int.natCast_eq_zero, List.length_eq_zero_iff] at counted
  rw [stacked, counted, List.nil_append]

section Step

variable {replay : Replay} {sink : σ}

omit sink in
theorem perform_push (room : replay.saved.length < replay.config.maxStackDepth) (index : Nat)
    (sink : σ) : replay.perform .push index sink = .ok (replay.turtle, replay.turtle :: replay.saved, sink) := by
  simp [perform, Nat.not_le.2 room]

omit sink in
theorem perform_pop {top : Turtle} {rest : List Turtle} (stack : replay.saved = top :: rest)
    (index : Nat) (sink : σ) : replay.perform .pop index sink = .ok (top, rest, sink) := by
  simp [perform, stack]

omit sink in
theorem perform_keeps_saved (replay : Replay) {effect : Effect} (saves : effect ≠ .push)
    (restores : effect ≠ .pop) (index : Nat) (sink : σ) :
    ∃ turtle after, replay.perform effect index sink = .ok (turtle, replay.saved, after) := by
  cases effect
  case push => exact absurd rfl saves
  case pop => exact absurd rfl restores
  all_goals exact ⟨_, _, rfl⟩

/-- The command at the cursor executes with the effect its rule gives, once the effect goes
through: the turtle and the saved turtles become what the effect made of them. -/
theorem advance_of_perform {symbol : Char} {effect : Effect} {turtle : Turtle}
    {saved : List Turtle} {after : σ} (current : replay.commands[replay.cursor]? = some symbol)
    (found : replay.rules.effect? symbol = some effect)
    (performed : replay.perform effect replay.cursor sink = .ok (turtle, saved, after)) :
    ∃ next, replay.advance sink = .ok (.executed replay.cursor symbol effect, next, after) ∧
      next.turtle = turtle ∧ next.saved = saved ∧ next.cursor = replay.cursor + 1 ∧
      SameProgram replay next := by
  obtain ⟨inside, atCursor⟩ := Array.getElem?_eq_some_iff.1 current
  have slot : replay.nextSlot = some (replay.cursor, replay.pass) := by
    simp [nextSlot, inside]
  obtain ⟨symbol', current', executes⟩ := advance_of_nextSlot_some slot sink
  rw [current, Option.some.injEq] at current'
  subst current'
  let next : Replay := { replay with
    turtle := turtle
    saved := saved
    cursor := replay.cursor + 1
    points := if replay.pass = 0 then replay.points.push turtle.position else replay.points }
  have executed : replay.executeAt replay.cursor replay.pass symbol sink =
      .ok (.executed replay.cursor symbol effect, next, after) := by
    simp [executeAt, found, performed, next]
  exact ⟨next, executes.trans executed, rfl, rfl, rfl, ⟨rfl, rfl, rfl⟩⟩

/-- One step inside a settled block: the command at the cursor executes, the cursor moves past
it, and the saved turtles that the block found stay underneath, unchanged. -/
theorem advance_in_block {start : Nat} {base : List Turtle} {done : List Char} {symbol : Char}
    (inside : InBlock replay.rules start base done replay)
    (current : replay.commands[replay.cursor]? = some symbol)
    (settled : replay.rules.Settled (done ++ [symbol]))
    (room : (base.length : Int) + replay.rules.depth (done ++ [symbol]) ≤
      replay.config.maxStackDepth) (sink : σ) :
    ∃ effect next after,
      replay.advance sink = .ok (.executed replay.cursor symbol effect, next, after) ∧
      SameProgram replay next ∧ InBlock replay.rules start base (done ++ [symbol]) next := by
  obtain ⟨cursorAt, opened, stacked, counted⟩ := inside
  obtain ⟨-, known, -⟩ := RuleTable.settled_append_singleton.1 settled
  have grows := settled.depth_nonneg
  obtain ⟨effect, found⟩ := RuleTable.exists_effect_of_contains known
  rw [RuleTable.depth_append_of_effect? found] at room grows
  have moved : ∀ next : Replay, next.cursor = replay.cursor + 1 →
      next.cursor = start + (done ++ [symbol]).length := by
    intro next nextCursor
    simp [nextCursor, cursorAt, Nat.add_assoc]
  -- each effect changes only the turtles saved by the block, and leaves `base` under them
  by_cases saves : effect = .push
  · subst saves
    have fits : replay.saved.length < replay.config.maxStackDepth := by
      simp only [Effect.stackChange] at room
      simp only [stacked, List.length_append]
      omega
    obtain ⟨next, advanced, -, nextSaved, nextCursor, same⟩ :=
      advance_of_perform current found (perform_push fits replay.cursor sink)
    refine ⟨.push, next, sink, advanced, same, moved next nextCursor, replay.turtle :: opened,
      by rw [nextSaved, stacked, List.cons_append], ?_⟩
    simp [RuleTable.depth_append_of_effect? found, counted, Effect.stackChange]
  by_cases restores : effect = .pop
  · subst restores
    -- the block restores only turtles it saved itself, so `opened` is not empty
    have nonempty : opened ≠ [] := by
      rintro rfl
      simp only [Effect.stackChange] at grows
      simp only [List.length_nil, Nat.cast_zero] at counted
      omega
    obtain ⟨top, rest, rfl⟩ := List.exists_cons_of_ne_nil nonempty
    obtain ⟨next, advanced, -, nextSaved, nextCursor, same⟩ :=
      advance_of_perform current found
        (perform_pop (stacked.trans (List.cons_append ..)) replay.cursor sink)
    refine ⟨.pop, next, sink, advanced, same, moved next nextCursor, rest, nextSaved, ?_⟩
    simp only [List.length_cons, Nat.cast_add, Nat.cast_one] at counted
    rw [RuleTable.depth_append_of_effect? found, Effect.stackChange]
    omega
  obtain ⟨turtle, after, performed⟩ := perform_keeps_saved replay saves restores replay.cursor sink
  obtain ⟨next, advanced, -, nextSaved, nextCursor, same⟩ :=
    advance_of_perform current found performed
  refine ⟨effect, next, after, advanced, same, moved next nextCursor, opened,
    nextSaved.trans stacked, ?_⟩
  rw [RuleTable.depth_append_of_effect? found, Effect.stackChange_eq_zero saves restores,
    Int.add_zero]
  exact counted

end Step

section Script

/-- A call that neither steps nor runs a pass only changes the configuration, and keeps the save
limit. -/
theorem call_eq_reconfigured (replay : Replay) {call : Call} (single : call.isAdvance = false)
    (whole : call.isPass = false) :
    ∃ config : TurtleConfig, config.maxStackDepth = replay.config.maxStackDepth ∧
      replay.call call = ({ replay with config }, []) := by
  cases call with
  | advance sink => cases single
  | runPass sink => cases whole
  | setStep step => exact ⟨{ replay.config with step }, rfl, rfl⟩
  | setDelta delta => exact ⟨{ replay.config with delta }, rfl, rfl⟩
  | setOrigin position heading =>
    exact ⟨{ replay.config with initialPosition := position, initialHeading := heading }, rfl, rfl⟩

/-- A script of single steps and changes of the configuration, whose steps run the commands of
`word` from `start` on. If a property of the replay after `j` of the steps survives every change
of the configuration that keeps the save limit, and from it each step runs the next command of
`word` into the property for `j + 1`, then every step of the script executes, in order. -/
theorem script_steps {P : Nat → Replay → Prop} {start : Nat} {word : List Char}
    (configured : ∀ j replay (config : TurtleConfig),
      config.maxStackDepth = replay.config.maxStackDepth → P j replay → P j { replay with config })
    (stepped : ∀ j replay, j < word.length → P j replay → ∀ {τ : Type} [Sink τ] (sink : τ),
      ∃ symbol effect next after, word[j]? = some symbol ∧
        replay.advance sink = .ok (.executed (start + j) symbol effect, next, after) ∧
        P (j + 1) next)
    {replay : Replay} {j : Nat} (ready : P j replay) (calls : List Call)
    (noPass : ∀ call ∈ calls, call.isPass = false) (enough : j + Call.advances calls ≤ word.length) :
    P (j + Call.advances calls) (replay.script calls).1 ∧
      (replay.script calls).2.length = Call.advances calls ∧
      ∀ i < Call.advances calls, ∃ symbol effect, word[j + i]? = some symbol ∧
        ((replay.script calls).2[i]?).map Prod.fst = some (.executed (start + j + i) symbol effect) := by
  -- induction on the script; a step moves `j` on, a change of the configuration keeps it
  induction calls generalizing replay j with
  | nil => simpa [script] using ready
  | cons call rest ih =>
    have restNoPass : ∀ call ∈ rest, call.isPass = false :=
      fun other member => noPass other (List.mem_cons_of_mem _ member)
    by_cases single : call.isAdvance
    · cases call with
      | advance sink =>
        rw [Call.advances_cons] at enough ⊢
        simp only [Call.isAdvance, if_true] at enough ⊢
        obtain ⟨symbol, effect, next, after, found, advanced, nextReady⟩ :=
          stepped j replay (by omega) ready sink
        obtain ⟨final, count, entries⟩ := ih nextReady restNoPass (by omega)
        have called : replay.call (.advance sink) = (next, [(.executed (start + j) symbol effect, next)]) := by
          simp [Replay.call, advanced]
        simp only [script, called, List.singleton_append, List.length_cons]
        refine ⟨by simpa [Nat.add_assoc, Nat.add_comm 1] using final, by omega, ?_⟩
        intro i below
        cases i with
        | zero => exact ⟨symbol, effect, by simpa using found, rfl⟩
        | succ i =>
          obtain ⟨symbol', effect', found', entry⟩ := entries i (by omega)
          refine ⟨symbol', effect', by simpa [Nat.add_assoc, Nat.add_comm 1] using found', ?_⟩
          simpa [Nat.add_assoc, Nat.add_comm 1] using entry
      | _ => simp [Call.isAdvance] at single
    · -- a change of the configuration keeps the save limit, so `P j` survives it
      obtain ⟨config, sameLimit, called⟩ :=
        call_eq_reconfigured replay (Bool.of_not_eq_true single) (noPass call (by simp))
      have later := ih (configured j replay config sameLimit ready) restNoPass
        (by simpa [Call.advances_cons, single] using enough)
      simpa [script, called, Call.advances_cons, single] using later

end Script

section Blocks

/-- The command `j` places after the start of a word of the commands is the word's `j`-th. -/
theorem getElem?_add_of_split {commands : Array Char} {front word back : List Char}
    (split : commands.toList = front ++ word ++ back) {j : Nat} (within : j < word.length) :
    commands[front.length + j]? = word[j]? := by
  rw [← Array.getElem?_toList, split, List.append_assoc, List.getElem?_append_right (by omega),
    Nat.add_sub_cancel_left, List.getElem?_append_left within]

/-- Step `j` of a settled block of `origin`'s commands, run over the saved turtles `base` with
room for its deepest nesting: the step runs the block's `j`-th command. -/
theorem block_step {origin current : Replay} {front block back : List Char}
    {base : List Turtle} {j : Nat} (commands : origin.commands.toList = front ++ block ++ back)
    (settled : origin.rules.Settled block)
    (room : base.length + origin.rules.nesting block ≤ origin.config.maxStackDepth)
    (within : j < block.length) (same : SameProgram origin current)
    (inside : InBlock origin.rules front.length base (block.take j) current)
    {τ : Type} [Sink τ] (sink : τ) :
    ∃ symbol effect next after, block[j]? = some symbol ∧
      current.advance sink = .ok (.executed (front.length + j) symbol effect, next, after) ∧
      SameProgram origin next ∧ InBlock origin.rules front.length base (block.take (j + 1)) next := by
  have symbolAt : block[j]? = some block[j] := List.getElem?_eq_getElem within
  have cursorAt : current.cursor = front.length + j := by
    rw [inside.cursor_eq, List.length_take_of_le within.le]
  have command : current.commands[current.cursor]? = some block[j] := by
    rw [same.commands_eq, cursorAt, getElem?_add_of_split commands within, symbolAt]
  have grown : block.take j ++ [block[j]] = block.take (j + 1) :=
    (List.take_succ_eq_append_getElem within).symm
  have grownSettled : origin.rules.Settled (block.take (j + 1)) :=
    settled.of_prefix (List.take_prefix _ _)
  have deepest := RuleTable.depth_le_nesting settled (List.take_prefix (j + 1) block)
  have fits : (base.length : Int) + current.rules.depth (block.take j ++ [block[j]]) ≤
      current.config.maxStackDepth := by
    rw [same.rules_eq, same.limit_eq, grown]
    omega
  rw [← same.rules_eq] at inside grownSettled
  rw [← grown] at grownSettled
  obtain ⟨effect, next, after, advanced, nextSame, nextInside⟩ :=
    advance_in_block inside command grownSettled fits sink
  rw [cursorAt] at advanced
  rw [same.rules_eq, grown] at nextInside
  exact ⟨block[j], effect, next, after, symbolAt, advanced, same.trans nextSame, nextInside⟩

/-- A settled block at the cursor, run under a script of single steps and changes of the
configuration: the steps execute the block's commands in order, and after `k` of them the saved
turtles are the ones found at the start under one turtle for each save still open. -/
theorem settled_block_script {replay : Replay} {before block after : List Char}
    (commands : replay.commands.toList = before ++ block ++ after)
    (atBlock : replay.cursor = before.length) (settled : replay.rules.Settled block)
    (room : replay.saved.length + replay.rules.nesting block ≤ replay.config.maxStackDepth)
    (calls : List Call) (noPass : ∀ call ∈ calls, call.isPass = false)
    (enough : Call.advances calls ≤ block.length) :
    InBlock replay.rules before.length replay.saved (block.take (Call.advances calls))
        (replay.script calls).1 ∧
      (replay.script calls).2.length = Call.advances calls ∧
      ∀ i < Call.advances calls, ∃ symbol effect, block[i]? = some symbol ∧
        ((replay.script calls).2[i]?).map Prod.fst =
          some (.executed (before.length + i) symbol effect) := by
  let P : Nat → Replay → Prop := fun j current =>
    SameProgram replay current ∧ InBlock replay.rules before.length replay.saved (block.take j) current
  have ready : P 0 replay := ⟨⟨rfl, rfl, rfl⟩, ⟨by simp [atBlock], [], by simp, by simp⟩⟩
  have configured : ∀ j current (config : TurtleConfig),
      config.maxStackDepth = current.config.maxStackDepth → P j current →
      P j { current with config } :=
    fun _ _ config sameLimit ⟨same, inside⟩ =>
      ⟨same.reconfigured sameLimit, inside.reconfigured config⟩
  have stepped : ∀ j current, j < block.length → P j current →
      ∀ {τ : Type} [Sink τ] (sink : τ), ∃ symbol effect next after, block[j]? = some symbol ∧
        current.advance sink = .ok (.executed (before.length + j) symbol effect, next, after) ∧
        P (j + 1) next := by
    intro j current within ⟨same, inside⟩ τ _ sink
    obtain ⟨symbol, effect, next, after, found, advanced, nextSame, nextInside⟩ :=
      block_step commands settled room within same inside sink
    exact ⟨symbol, effect, next, after, found, advanced, nextSame, nextInside⟩
  have ran := script_steps configured stepped ready calls noPass (by simpa using enough)
  simp only [Nat.zero_add, Nat.add_zero] at ran
  exact ⟨ran.1.2, ran.2⟩

/-- A balanced block at the cursor, with room for its deepest nesting: a script whose single
steps number the block's commands executes all of them, in order, and leaves the saved turtles
exactly as it found them. -/
theorem balanced_block_keeps_stack {replay : Replay} {before block after : List Char}
    (commands : replay.commands.toList = before ++ block ++ after)
    (atBlock : replay.cursor = before.length) (balanced : replay.rules.Balanced block)
    (room : replay.saved.length + replay.rules.nesting block ≤ replay.config.maxStackDepth)
    (calls : List Call) (noPass : ∀ call ∈ calls, call.isPass = false)
    (count : Call.advances calls = block.length) :
    (replay.script calls).2.length = block.length ∧
      (∀ i < block.length, ∃ symbol effect, block[i]? = some symbol ∧
        ((replay.script calls).2[i]?).map Prod.fst =
          some (.executed (before.length + i) symbol effect)) ∧
      (replay.script calls).1.saved = replay.saved := by
  obtain ⟨inside, logged, entries⟩ :=
    settled_block_script commands atBlock balanced.1 room calls noPass count.le
  rw [count, List.take_length] at inside
  rw [count] at logged entries
  exact ⟨logged, entries, inside.saved_of_balanced balanced⟩

end Blocks

section Brackets

/-- The replay after `j` steps of a save at `origin`'s cursor, a block and a restore. Before the
save it stands where `origin` stood; inside, it has run part of the block over `origin`'s saved
turtles and the turtle that the save kept; after the restore it is back where `origin` stood. -/
def Bracketed (origin : Replay) (block : List Char) (j : Nat) (replay : Replay) : Prop :=
  SameProgram origin replay ∧
    (j = 0 → replay.turtle = origin.turtle ∧ replay.saved = origin.saved ∧
      replay.cursor = origin.cursor) ∧
    (0 < j → j ≤ block.length + 1 → InBlock origin.rules (origin.cursor + 1)
      (origin.turtle :: origin.saved) (block.take (j - 1)) replay) ∧
    (j = block.length + 2 → replay.turtle = origin.turtle ∧ replay.saved = origin.saved)

theorem Bracketed.reconfigured {origin replay : Replay} {block : List Char} {j : Nat}
    (bracketed : Bracketed origin block j replay) {config : TurtleConfig}
    (sameLimit : config.maxStackDepth = replay.config.maxStackDepth) :
    Bracketed origin block j { replay with config } := by
  obtain ⟨same, first, middle, last⟩ := bracketed
  exact ⟨same.reconfigured sameLimit, first, fun started inner =>
    (middle started inner).reconfigured config, last⟩

section Step

variable {origin : Replay} {before block after : List Char} {opening closing : Char}

/-- Step `j` of a save, a balanced block and a restore at `origin`'s cursor, with room for the
save and the block's deepest nesting: the step runs the `j`-th of these commands. -/
theorem bracketed_step
    (commands : origin.commands.toList = before ++ (opening :: block ++ [closing]) ++ after)
    (atStart : origin.cursor = before.length) (opens : origin.rules.effect? opening = some .push)
    (closes : origin.rules.effect? closing = some .pop) (balanced : origin.rules.Balanced block)
    (room : origin.saved.length + 1 + origin.rules.nesting block ≤ origin.config.maxStackDepth)
    {j : Nat} {replay : Replay} (within : j < block.length + 2)
    (bracketed : Bracketed origin block j replay) {τ : Type} [Sink τ] (sink : τ) :
    ∃ symbol effect next after, (opening :: block ++ [closing])[j]? = some symbol ∧
      replay.advance sink = .ok (.executed (before.length + j) symbol effect, next, after) ∧
      Bracketed origin block (j + 1) next := by
  obtain ⟨same, first, middle, -⟩ := bracketed
  have commandAt : replay.commands[before.length + j]? = (opening :: block ++ [closing])[j]? := by
    rw [same.commands_eq]
    exact getElem?_add_of_split commands (by simp; omega)
  rcases Nat.eq_zero_or_pos j with rfl | started
  · -- the save keeps the turtle of `origin` on top of `origin`'s saved turtles
    obtain ⟨turtleAt, savedAt, cursorAt⟩ := first rfl
    have current : replay.commands[replay.cursor]? = some opening := by
      rw [cursorAt, atStart, ← Nat.add_zero before.length, commandAt]
      rfl
    have fits : replay.saved.length < replay.config.maxStackDepth := by
      rw [savedAt, same.limit_eq]
      omega
    obtain ⟨next, advanced, nextTurtle, nextSaved, nextCursor, nextSame⟩ :=
      advance_of_perform current (same.rules_eq ▸ opens) (perform_push fits replay.cursor sink)
    refine ⟨opening, .push, next, sink, rfl, by rw [advanced, cursorAt, atStart, Nat.add_zero],
      ⟨same.trans nextSame, by omega, fun _ _ => ?_, by omega⟩⟩
    exact ⟨by simp [nextCursor, cursorAt], [], by simp [nextSaved, turtleAt, savedAt], by simp⟩
  rcases Nat.lt_or_ge j (block.length + 1) with inner | last
  · -- a command of the block, run over `origin`'s saved turtles and the kept turtle
    obtain ⟨k, rfl⟩ : ∃ k, j = k + 1 := ⟨j - 1, by omega⟩
    have startAt : (before ++ [opening]).length = origin.cursor + 1 := by simp [atStart]
    have split : origin.commands.toList = (before ++ [opening]) ++ block ++ (closing :: after) := by
      simp [commands]
    have inside := middle started inner.le
    rw [Nat.add_sub_cancel, ← startAt] at inside
    obtain ⟨symbol, effect, next, after, found, advanced, nextSame, nextInside⟩ :=
      block_step split balanced.1 (by simpa [Nat.add_comm 1] using room) (by omega) same inside sink
    refine ⟨symbol, effect, next, after, ?_, ?_, ⟨nextSame, by omega, fun _ _ => ?_, by omega⟩⟩
    · rw [← found]
      simp [List.getElem?_append_left (show k < block.length by omega)]
    · rw [advanced, List.length_append, List.length_singleton, Nat.add_assoc, Nat.add_comm 1]
    · rwa [Nat.add_sub_cancel, ← startAt]
  · -- the restore: the block has closed all its saves, so the kept turtle is on top
    obtain rfl : j = block.length + 1 := by omega
    have inside := middle started le_rfl
    rw [Nat.add_sub_cancel, List.take_length] at inside
    have cursorAt : replay.cursor = before.length + (block.length + 1) := by
      rw [inside.cursor_eq, atStart, Nat.add_assoc, Nat.add_comm 1]
    have current : replay.commands[replay.cursor]? = some closing := by
      rw [cursorAt, commandAt]
      simp
    obtain ⟨next, advanced, nextTurtle, nextSaved, nextCursor, nextSame⟩ :=
      advance_of_perform current (same.rules_eq ▸ closes)
        (perform_pop (inside.saved_of_balanced balanced) replay.cursor sink)
    refine ⟨closing, .pop, next, sink, by simp, by rw [advanced, cursorAt],
      ⟨same.trans nextSame, by omega, by omega, fun _ => ⟨nextTurtle, nextSaved⟩⟩⟩

end Step

/-- Saves and restores around balanced blocks. A balanced block at the cursor, with room for its
deepest nesting, is executed command by command, in order, by a script of as many single steps,
whatever sinks the steps draw on and whatever changes of the step length, the turn angle or the
start come between them; it leaves the saved turtles exactly as it found them. A save, a balanced
block and a restore at the cursor, with room for the save and the block's deepest nesting, are
executed the same way, and bring the turtle back to the position and heading it had before the
save, with the saved turtles as they were. -/
theorem brackets_restore_turtle :
    (∀ (replay : Replay) (before block after : List Char),
      replay.commands.toList = before ++ block ++ after → replay.cursor = before.length →
      replay.rules.Balanced block →
      replay.saved.length + replay.rules.nesting block ≤ replay.config.maxStackDepth →
      ∀ calls : List Call, (∀ call ∈ calls, call.isPass = false) →
        Call.advances calls = block.length →
        (replay.script calls).2.length = block.length ∧
        (∀ i < block.length, ∃ symbol effect, block[i]? = some symbol ∧
          ((replay.script calls).2[i]?).map Prod.fst =
            some (.executed (before.length + i) symbol effect)) ∧
        (replay.script calls).1.saved = replay.saved) ∧
    ∀ (replay : Replay) (before block after : List Char) (opening closing : Char),
      replay.commands.toList = before ++ opening :: block ++ closing :: after →
      replay.cursor = before.length →
      replay.rules.effect? opening = some .push → replay.rules.effect? closing = some .pop →
      replay.rules.Balanced block →
      replay.saved.length + 1 + replay.rules.nesting block ≤ replay.config.maxStackDepth →
      ∀ calls : List Call, (∀ call ∈ calls, call.isPass = false) →
        Call.advances calls = block.length + 2 →
        (replay.script calls).2.length = block.length + 2 ∧
        (∀ i < block.length + 2, ∃ symbol effect,
          (opening :: block ++ [closing])[i]? = some symbol ∧
          ((replay.script calls).2[i]?).map Prod.fst =
            some (.executed (before.length + i) symbol effect)) ∧
        (replay.script calls).1.turtle = replay.turtle ∧
        (replay.script calls).1.saved = replay.saved := by
  refine ⟨fun replay before block after commands atBlock balanced room calls noPass count =>
    balanced_block_keeps_stack commands atBlock balanced room calls noPass count, ?_⟩
  intro replay before block after opening closing commands atStart opens closes balanced room calls
    noPass count
  have split : replay.commands.toList = before ++ (opening :: block ++ [closing]) ++ after := by
    simp [commands]
  have ready : Bracketed replay block 0 replay :=
    ⟨⟨rfl, rfl, rfl⟩, fun _ => ⟨rfl, rfl, rfl⟩, by omega, by omega⟩
  -- the script runs the save, the block and the restore one step at a time
  have ran := script_steps (fun _ _ _ sameLimit bracketed => bracketed.reconfigured sameLimit)
    (fun _ _ within bracketed _ _ sink => bracketed_step split atStart opens closes balanced room
      (by simp at within; omega) bracketed sink)
    ready calls noPass (by simp [count])
  simp only [Nat.zero_add, Nat.add_zero, count] at ran
  obtain ⟨⟨-, -, -, restored⟩, logged, entries⟩ := ran
  exact ⟨logged, entries, restored rfl⟩

/-- A branch of the standard plant: a save, a step forward, a right turn, another step and the
restore, with the step length and the turn angle changed in between. The turtle comes back to
where it started. -/
theorem plant_branch_restores_turtle :
    let replay := (Replay.new TurtleConfig.standard false).load
      #['[', 'F', '+', 'F', ']'] Program.standard.rules
    let calls : List Call := [.advance (#[] : Array Segment), .setStep 2,
      .advance (#[] : Array Segment), .setDelta 90, .advance (#[] : Array Segment),
      .advance (#[] : Array Segment), .advance (#[] : Array Segment)]
    Program.standard.rules.Balanced ['F', '+', 'F'] ∧
      (replay.script calls).2.length = 5 ∧ (replay.script calls).1.turtle = replay.turtle ∧
      (replay.script calls).1.saved = replay.saved := by
  intro replay calls
  have balanced : Program.standard.rules.Balanced ['F', '+', 'F'] :=
    RuleTable.balanced_iff_balance.2 (by decide)
  obtain ⟨logged, -, turtle, saved⟩ := brackets_restore_turtle.2 replay [] ['F', '+', 'F'] []
    '[' ']' rfl rfl (by decide) (by decide) balanced (by decide) calls
    (by simp [calls, Call.isPass]) rfl
  exact ⟨balanced, logged, turtle, saved⟩

end Brackets

end Replay

end PlantPlot
