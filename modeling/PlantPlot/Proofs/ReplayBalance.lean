import Mathlib
import PlantPlot.Replay.Basic
import PlantPlot.Proofs.Balance

/-!
# Replay agrees with the bracket check

A replay keeps its saved turtles on a stack, and a pass over freshly loaded commands keeps that
stack as high as the depth of the commands executed so far (`runPassFrom_of_sound`). It differs
from the bracket check only in its limit: a save is refused when the stack already holds
`maxStackDepth` turtles. So a pass runs through the commands whose every save fits under the
limit, and otherwise stops at the first command that is refused, with that command's fault and
the cursor on it (`runPassFrom_of_break`).

Main statement: `runPass_mirrors_balance`. The check and the pass fail at the same command with
the same fault, unless a save at the limit comes first.
-/

namespace PlantPlot

namespace RuleTable

variable {table : RuleTable}

/-- Every save in `word` is made with fewer than `limit` saves open. -/
def FitsUnder (table : RuleTable) (limit : Nat) (word : List Char) : Prop :=
  ∀ before symbol, before ++ [symbol] <+: word → table.effect? symbol = some .push →
    table.depth before < limit

/-- `fault` is how a replay under `limit` refuses `symbol` after running `before`: the symbol has
no rule, or restores with nothing saved, or saves at the limit. -/
def Refuses (table : RuleTable) (limit : Nat) (before : List Char) (symbol : Char)
    (fault : Fault) : Prop :=
  (table.effect? symbol = none ∧ fault = .unknownSymbol symbol) ∨
    (table.effect? symbol = some .pop ∧ table.depth before = 0 ∧
      fault = .stackUnderflow before.length) ∨
    (table.effect? symbol = some .push ∧ table.depth before = limit ∧
      fault = .stackOverflow before.length limit)

theorem fitsUnder_nil (limit : Nat) : table.FitsUnder limit [] := by
  intro before symbol isPrefix
  simp at isPrefix

theorem FitsUnder.of_prefix {limit : Nat} {word shorter : List Char}
    (fits : table.FitsUnder limit word) (isPrefix : shorter <+: word) :
    table.FitsUnder limit shorter :=
  fun before symbol extended => fits before symbol (extended.trans isPrefix)

theorem fitsUnder_append_singleton {limit : Nat} {word : List Char} {symbol : Char} :
    table.FitsUnder limit (word ++ [symbol]) ↔
      table.FitsUnder limit word ∧
        (table.effect? symbol = some .push → table.depth word < limit) := by
  constructor
  · intro fits
    exact ⟨fits.of_prefix (List.prefix_append _ _), fits word symbol (List.prefix_refl _)⟩
  · rintro ⟨fits, last⟩ before other isPrefix
    rcases List.prefix_concat_iff.1 isPrefix with same | shorter
    · obtain ⟨rfl, sameLast⟩ := List.append_inj' same rfl
      rw [List.singleton_inj] at sameLast
      rw [sameLast]
      exact last
    · exact fits before other shorter

theorem depth_le_of_fitsUnder {limit : Nat} {word : List Char} (settled : table.Settled word)
    (fits : table.FitsUnder limit word) : table.depth word ≤ limit := by
  induction word using List.reverseRecOn with
  | nil => simp
  | append_singleton init last ih =>
      obtain ⟨initSettled, _, _⟩ := settled_append_singleton.1 settled
      obtain ⟨initFits, lastFits⟩ := fitsUnder_append_singleton.1 fits
      have below := ih initSettled initFits
      rw [depth_append, depth_singleton]
      by_cases pushes : table.effect? last = some .push
      · have room := lastFits pushes
        simp only [pushes, if_true]
        omega
      · simp only [pushes, if_false]
        split <;> omega

/-- A settled word that fits under the limit stops doing so at the next symbol exactly when the
symbol has no rule, restores with nothing saved, or saves at the limit. -/
theorem not_sound_append_singleton {limit : Nat} {word : List Char}
    (settled : table.Settled word) (fits : table.FitsUnder limit word) (symbol : Char) :
    ¬ (table.Settled (word ++ [symbol]) ∧ table.FitsUnder limit (word ++ [symbol])) ↔
      table.effect? symbol = none ∨
        (table.effect? symbol = some .pop ∧ table.depth word = 0) ∨
        (table.effect? symbol = some .push ∧ table.depth word = limit) := by
  have atMost := depth_le_of_fitsUnder settled fits
  rw [fitsUnder_append_singleton, not_and_or, not_settled_append_singleton settled]
  cases found : table.effect? symbol with
  | none => simp
  | some effect =>
      cases effect <;> simp [fits]
      case push => omega

theorem exists_refuses {limit : Nat} {word : List Char} (settled : table.Settled word)
    (fits : table.FitsUnder limit word) {symbol : Char}
    (breaks : ¬ (table.Settled (word ++ [symbol]) ∧ table.FitsUnder limit (word ++ [symbol]))) :
    ∃ fault, table.Refuses limit word symbol fault := by
  rcases (not_sound_append_singleton settled fits symbol).1 breaks with
    missing | ⟨pops, empty⟩ | ⟨pushes, full⟩
  · exact ⟨_, .inl ⟨missing, rfl⟩⟩
  · exact ⟨_, .inr (.inl ⟨pops, empty, rfl⟩)⟩
  · exact ⟨_, .inr (.inr ⟨pushes, full, rfl⟩)⟩

/-- Of the ways a replay refuses a command after a settled word, all but a save at the limit
unsettle the word. -/
theorem Refuses.unsettles_or_full {limit : Nat} {word : List Char} {symbol : Char}
    {fault : Fault} (refuses : table.Refuses limit word symbol fault)
    (settled : table.Settled word) :
    ¬ table.Settled (word ++ [symbol]) ∨
      (table.effect? symbol = some .push ∧ table.depth word = limit ∧
        fault = .stackOverflow word.length limit) := by
  rcases refuses with ⟨missing, _⟩ | ⟨pops, empty, _⟩ | full
  · exact .inl ((not_settled_append_singleton settled symbol).2 (.inl missing))
  · exact .inl ((not_settled_append_singleton settled symbol).2 (.inr ⟨pops, empty⟩))
  · exact .inr full

theorem fitsUnder_of_no_full_save {limit : Nat} {commands word : List Char}
    (isPrefix : word <+: commands) (settled : table.Settled word)
    (noFull : ∀ before symbol after, commands = before ++ symbol :: after →
      table.Settled before → table.effect? symbol = some .push → table.depth before ≠ limit) :
    table.FitsUnder limit word := by
  induction word using List.reverseRecOn with
  | nil => exact fitsUnder_nil limit
  | append_singleton init last ih =>
      have initSettled := (settled_append_singleton.1 settled).1
      have initFits := ih ((List.prefix_append _ _).trans isPrefix) initSettled
      refine fitsUnder_append_singleton.2 ⟨initFits, fun pushes => ?_⟩
      -- the depth before the save is at most the limit, and it is not the limit itself
      obtain ⟨rest, whole⟩ := isPrefix
      have atMost := depth_le_of_fitsUnder initSettled initFits
      have notFull := noFull init last rest (by simp [← whole]) initSettled pushes
      omega

end RuleTable

namespace Replay

variable {σ : Type} [Sink σ]

@[simp] theorem load_commands (replay : Replay) (commands : Array Char) (rules : RuleTable) :
    (replay.load commands rules).commands = commands := rfl

@[simp] theorem load_cursor (replay : Replay) (commands : Array Char) (rules : RuleTable) :
    (replay.load commands rules).cursor = 0 := rfl

@[simp] theorem load_saved (replay : Replay) (commands : Array Char) (rules : RuleTable) :
    (replay.load commands rules).saved = [] := rfl

theorem executeAt_of_missing {replay : Replay} {index pass : Nat} {symbol : Char} {sink : σ}
    (missing : replay.rules.effect? symbol = none) :
    replay.executeAt index pass symbol sink = .error (.unknownSymbol symbol) := by
  simp [executeAt, missing]

theorem executeAt_of_full {replay : Replay} {index pass : Nat} {symbol : Char} {sink : σ}
    (pushes : replay.rules.effect? symbol = some .push)
    (full : replay.config.maxStackDepth ≤ replay.saved.length) :
    replay.executeAt index pass symbol sink =
      .error (.stackOverflow index replay.config.maxStackDepth) := by
  simp [executeAt, pushes, perform, full]

theorem executeAt_of_empty {replay : Replay} {index pass : Nat} {symbol : Char} {sink : σ}
    (pops : replay.rules.effect? symbol = some .pop) (empty : replay.saved = []) :
    replay.executeAt index pass symbol sink = .error (.stackUnderflow index) := by
  simp [executeAt, pops, perform, empty]

/-- A command that is not refused moves the cursor past it, keeps the commands, rules and
configuration, and changes the number of saved turtles by the command's depth. -/
theorem executeAt_of_admitted {replay : Replay} {symbol : Char} {effect : Effect}
    (found : replay.rules.effect? symbol = some effect)
    (room : effect = .push → replay.saved.length < replay.config.maxStackDepth)
    (stocked : effect = .pop → replay.saved ≠ []) (index pass : Nat) (sink : σ) :
    ∃ step next after, replay.executeAt index pass symbol sink = .ok (step, next, after) ∧
      next.cursor = index + 1 ∧ next.commands = replay.commands ∧ next.rules = replay.rules ∧
      next.config = replay.config ∧
      (next.saved.length : Int) = replay.saved.length + replay.rules.depth [symbol] := by
  rw [RuleTable.depth_singleton, found]
  cases effect
  case push =>
    have fits : ¬ replay.config.maxStackDepth ≤ replay.saved.length := by
      have := room rfl
      omega
    simp [executeAt, found, perform, fits]
  case pop =>
    obtain ⟨top, rest, stack⟩ := List.exists_cons_of_ne_nil (stocked rfl)
    simp [executeAt, found, perform, stack]
  all_goals simp [executeAt, found, perform]

/-- A pass over `commands` under `table` and `limit` has run the commands `before`: the cursor
stands after them and the stack holds as many turtles as their depth. -/
structure Tracks (replay : Replay) (table : RuleTable) (limit : Nat)
    (commands before : List Char) : Prop where
  commands_eq : replay.commands = commands.toArray
  rules_eq : replay.rules = table
  limit_eq : replay.config.maxStackDepth = limit
  cursor_eq : replay.cursor = before.length
  saved_eq : (replay.saved.length : Int) = table.depth before

theorem tracks_load (replay : Replay) (table : RuleTable) (commands : List Char) :
    (replay.load commands.toArray table).Tracks table replay.config.maxStackDepth commands [] :=
  ⟨rfl, rfl, rfl, rfl, by simp⟩

section Pass

variable {replay : Replay} {table : RuleTable} {limit : Nat} {commands before : List Char}

theorem Tracks.cursor_lt_size {symbol : Char} {rest : List Char}
    (tracks : replay.Tracks table limit commands before)
    (split : commands = before ++ symbol :: rest) : replay.cursor < replay.commands.size := by
  simp [tracks.commands_eq, tracks.cursor_eq, split]

theorem advance_of_tracks {symbol : Char} {rest : List Char}
    (split : commands = before ++ symbol :: rest)
    (tracks : replay.Tracks table limit commands before) (sink : σ) :
    replay.advance sink = replay.executeAt before.length replay.pass symbol sink := by
  have inside := tracks.cursor_lt_size split
  have current : replay.commands[replay.cursor] = symbol := by
    simp [tracks.commands_eq, tracks.cursor_eq, split]
  rw [advance, dif_pos inside, current, tracks.cursor_eq]

/-- The step of a pass: a command that keeps the run settled and under the limit is executed,
and the invariant moves past it. -/
theorem tracks_step {symbol : Char} {rest : List Char}
    (split : commands = before ++ symbol :: rest)
    (tracks : replay.Tracks table limit commands before)
    (settled : table.Settled (before ++ [symbol]))
    (fits : table.FitsUnder limit (before ++ [symbol])) (sink : σ) :
    ∃ step next after, replay.advance sink = .ok (step, next, after) ∧
      next.Tracks table limit commands (before ++ [symbol]) := by
  obtain ⟨beforeSettled, known, whole⟩ := RuleTable.settled_append_singleton.1 settled
  have lastFits := (RuleTable.fitsUnder_append_singleton.1 fits).2
  have saved := tracks.saved_eq
  rw [RuleTable.depth_append, RuleTable.depth_singleton] at whole
  obtain ⟨effect, found⟩ := RuleTable.exists_effect_of_contains known
  -- the stack is as high as the depth, so a save finds room and a restore finds a turtle
  have room : effect = .push → replay.saved.length < replay.config.maxStackDepth := by
    rintro rfl
    have below := lastFits found
    rw [tracks.limit_eq]
    omega
  have stocked : effect = .pop → replay.saved ≠ [] := by
    rintro rfl empty
    have dropped : 0 ≤ table.depth before - 1 := by simpa [found] using whole
    rw [empty, List.length_nil, Nat.cast_zero] at saved
    omega
  rw [← tracks.rules_eq] at found
  obtain ⟨step, next, after, executed, cursor, commandsKept, rulesKept, configKept,
    savedNext⟩ := executeAt_of_admitted found room stocked before.length replay.pass sink
  refine ⟨step, next, after, (advance_of_tracks split tracks sink).trans executed, ?_⟩
  refine ⟨commandsKept.trans tracks.commands_eq, rulesKept.trans tracks.rules_eq,
    configKept ▸ tracks.limit_eq, by simp [cursor], ?_⟩
  rw [savedNext, tracks.rules_eq, saved, RuleTable.depth_append]

theorem advance_of_refuses {symbol : Char} {rest : List Char} {fault : Fault}
    (split : commands = before ++ symbol :: rest)
    (tracks : replay.Tracks table limit commands before)
    (refuses : table.Refuses limit before symbol fault) (sink : σ) :
    replay.advance sink = .error fault := by
  rw [advance_of_tracks split tracks sink]
  have saved := tracks.saved_eq
  rcases refuses with ⟨missing, rfl⟩ | ⟨pops, empty, rfl⟩ | ⟨pushes, full, rfl⟩
  · rw [← tracks.rules_eq] at missing
    exact executeAt_of_missing missing
  · rw [← tracks.rules_eq] at pops
    exact executeAt_of_empty pops (List.eq_nil_of_length_eq_zero (by omega))
  · rw [← tracks.rules_eq] at pushes
    rw [executeAt_of_full pushes (by rw [tracks.limit_eq]; omega), tracks.limit_eq]

/-- A pass through commands that stay settled and under the limit executes all of them, and the
stack ends as high as their depth. -/
theorem runPassFrom_of_sound {rest : List Char} (split : commands = before ++ rest)
    (tracks : replay.Tracks table limit commands before) (settled : table.Settled commands)
    (fits : table.FitsUnder limit commands) (executed : Nat) (sink : σ) (fuel : Nat)
    (enough : rest.length ≤ fuel) :
    ∃ final after, replay.runPassFrom executed sink fuel =
        (.ok (executed + rest.length), final, after) ∧
      final.Tracks table limit commands commands := by
  -- induction on the commands still to run, `Tracks` moving one command on at each step
  induction rest generalizing before replay executed sink fuel with
  | nil =>
      rw [List.append_nil] at split
      subst split
      have finished : ¬ replay.cursor < replay.commands.size := by
        simp [tracks.commands_eq, tracks.cursor_eq]
      refine ⟨replay, sink, ?_, tracks⟩
      cases fuel with
      | zero => rfl
      | succ fuel => simp [runPassFrom, finished]
  | cons symbol rest ih =>
      simp only [List.length_cons] at enough
      have running : fuel ≠ 0 := by omega
      obtain ⟨fuel, rfl⟩ := Nat.exists_eq_add_one_of_ne_zero running
      have reached : before ++ [symbol] <+: commands := ⟨rest, by simp [split]⟩
      obtain ⟨step, next, after, advanced, nextTracks⟩ :=
        tracks_step split tracks (settled.of_prefix reached) (fits.of_prefix reached) sink
      have inside := tracks.cursor_lt_size split
      obtain ⟨final, finalSink, ran, finalTracks⟩ := ih (by simp [split]) nextTracks
        (executed + 1) after fuel (by omega)
      have counted : executed + 1 + rest.length = executed + (symbol :: rest).length := by
        simp only [List.length_cons]
        omega
      refine ⟨final, finalSink, ?_, finalTracks⟩
      rw [← counted]
      simp only [runPassFrom, inside, if_true, advanced, ran]

/-- A pass stops at the first command that unsettles the commands or saves at the limit, with
that command's fault and the cursor on it. -/
theorem runPassFrom_of_break {middle after : List Char} {symbol : Char} {fault : Fault}
    (split : commands = before ++ middle ++ symbol :: after)
    (tracks : replay.Tracks table limit commands before)
    (settled : table.Settled (before ++ middle)) (fits : table.FitsUnder limit (before ++ middle))
    (refuses : table.Refuses limit (before ++ middle) symbol fault) (executed : Nat) (sink : σ)
    (fuel : Nat) (enough : (middle ++ symbol :: after).length ≤ fuel) :
    ∃ final finalSink, replay.runPassFrom executed sink fuel =
        (.error fault, final, finalSink) ∧
      final.Tracks table limit commands (before ++ middle) := by
  -- induction on the commands run before the refused one
  induction middle generalizing before replay executed sink fuel with
  | nil =>
      rw [List.append_nil] at split settled fits refuses ⊢
      simp only [List.nil_append, List.length_cons] at enough
      have running : fuel ≠ 0 := by omega
      obtain ⟨fuel, rfl⟩ := Nat.exists_eq_add_one_of_ne_zero running
      have inside := tracks.cursor_lt_size split
      refine ⟨replay, sink, ?_, tracks⟩
      simp [runPassFrom, inside, advance_of_refuses split tracks refuses sink]
  | cons first middle ih =>
      simp only [List.cons_append, List.length_cons] at enough
      have running : fuel ≠ 0 := by omega
      obtain ⟨fuel, rfl⟩ := Nat.exists_eq_add_one_of_ne_zero running
      have reached : before ++ [first] <+: before ++ first :: middle := ⟨middle, by simp⟩
      have splitFirst : commands = before ++ first :: (middle ++ symbol :: after) := by
        simp [split]
      obtain ⟨step, next, nextSink, advanced, nextTracks⟩ :=
        tracks_step splitFirst tracks (settled.of_prefix reached) (fits.of_prefix reached) sink
      have inside := tracks.cursor_lt_size splitFirst
      have regrouped : before ++ [first] ++ middle = before ++ first :: middle := by simp
      have splitNext : commands = before ++ [first] ++ middle ++ symbol :: after := by
        simp [split]
      obtain ⟨final, finalSink, ran, finalTracks⟩ := ih splitNext nextTracks
        (regrouped ▸ settled) (regrouped ▸ fits) (regrouped ▸ refuses) (executed + 1) nextSink
        fuel (by omega)
      refine ⟨final, finalSink, ?_, regrouped ▸ finalTracks⟩
      simp only [runPassFrom, inside, if_true, advanced, ran]

end Pass

theorem runPass_load_of_sound (replay : Replay) {table : RuleTable} {commands : List Char}
    (settled : table.Settled commands)
    (fits : table.FitsUnder replay.config.maxStackDepth commands) (sink : σ) :
    ∃ final after, (replay.load commands.toArray table).runPass sink =
        (.ok commands.length, final, after) ∧
      final.Tracks table replay.config.maxStackDepth commands commands := by
  obtain ⟨final, after, ran, tracks⟩ := runPassFrom_of_sound (List.nil_append commands).symm
    (tracks_load replay table commands) settled fits 0 sink commands.length (le_refl _)
  refine ⟨final, after, ?_, tracks⟩
  simpa [runPass] using ran

theorem runPass_load_of_break (replay : Replay) {table : RuleTable}
    {commands before after : List Char} {symbol : Char} {fault : Fault}
    (split : commands = before ++ symbol :: after) (settled : table.Settled before)
    (fits : table.FitsUnder replay.config.maxStackDepth before)
    (refuses : table.Refuses replay.config.maxStackDepth before symbol fault) (sink : σ) :
    ∃ final finalSink, (replay.load commands.toArray table).runPass sink =
        (.error fault, final, finalSink) ∧
      final.Tracks table replay.config.maxStackDepth commands before := by
  have splitLoaded : commands = [] ++ before ++ symbol :: after := by simp [split]
  obtain ⟨final, finalSink, ran, tracks⟩ := runPassFrom_of_break splitLoaded
    (tracks_load replay table commands) (by simpa using settled) (by simpa using fits)
    (by simpa using refuses) 0 sink commands.length (by simp [split])
  refine ⟨final, finalSink, ?_, by simpa using tracks⟩
  simpa [runPass] using ran

/-- A pass over freshly loaded commands either runs them all, when they stay settled and under
the limit, or stops at the first command that is refused. -/
theorem runPass_load_cases (replay : Replay) (table : RuleTable) (commands : List Char)
    (sink : σ) :
    (table.Settled commands ∧ table.FitsUnder replay.config.maxStackDepth commands ∧
      ∃ final after, (replay.load commands.toArray table).runPass sink =
          (.ok commands.length, final, after) ∧
        final.Tracks table replay.config.maxStackDepth commands commands) ∨
    ∃ before symbol after fault, commands = before ++ symbol :: after ∧ table.Settled before ∧
      table.FitsUnder replay.config.maxStackDepth before ∧
      table.Refuses replay.config.maxStackDepth before symbol fault ∧
      ∃ final finalSink, (replay.load commands.toArray table).runPass sink =
          (.error fault, final, finalSink) ∧
        final.Tracks table replay.config.maxStackDepth commands before := by
  by_cases sound : table.Settled commands ∧ table.FitsUnder replay.config.maxStackDepth commands
  · exact .inl ⟨sound.1, sound.2, runPass_load_of_sound replay sound.1 sound.2 sink⟩
  · obtain ⟨before, symbol, after, split, ⟨settled, fits⟩, breaks⟩ :=
      @exists_first_failure Char
        (fun word => table.Settled word ∧ table.FitsUnder replay.config.maxStackDepth word)
        ⟨RuleTable.settled_nil, RuleTable.fitsUnder_nil _⟩ commands sound
    obtain ⟨fault, refuses⟩ := RuleTable.exists_refuses settled fits breaks
    exact .inr ⟨before, symbol, after, fault, split, settled, fits, refuses,
      runPass_load_of_break replay split settled fits refuses sink⟩

/-- A pass refuses a save at the limit exactly at the first save made with the limit reached,
before any command that unsettles the commands. -/
theorem runPass_load_eq_overflow_iff (replay : Replay) (table : RuleTable)
    (commands : List Char) (sink : σ) (index bound : Nat) :
    ((replay.load commands.toArray table).runPass sink).1 = .error (.stackOverflow index bound) ↔
      bound = replay.config.maxStackDepth ∧
        ∃ before symbol after, commands = before ++ symbol :: after ∧ before.length = index ∧
          table.Settled before ∧ table.FitsUnder replay.config.maxStackDepth before ∧
          table.effect? symbol = some .push ∧
          table.depth before = replay.config.maxStackDepth := by
  constructor
  · intro overflowed
    rcases runPass_load_cases replay table commands sink with ⟨_, _, final, after, ran, _⟩ |
      ⟨before, symbol, after, fault, split, settled, fits, refuses, final, finalSink, ran, _⟩
    · rw [ran] at overflowed
      cases overflowed
    · rw [ran, Except.error.injEq] at overflowed
      subst overflowed
      rcases refuses with ⟨_, named⟩ | ⟨_, _, named⟩ | ⟨pushes, full, named⟩
      · cases named
      · cases named
      · injection named with sameIndex sameBound
        exact ⟨sameBound, before, symbol, after, split, sameIndex.symm, settled, fits, pushes,
          full⟩
  · rintro ⟨rfl, before, symbol, after, split, rfl, settled, fits, pushes, full⟩
    obtain ⟨final, finalSink, ran, _⟩ :=
      runPass_load_of_break replay split settled fits (.inr (.inr ⟨pushes, full, rfl⟩)) sink
    rw [ran]

section NoFullSave

variable (replay : Replay) (table : RuleTable) (commands : List Char) (sink : σ)

/-- No save before the check's failing command is made with the limit reached. -/
def NoFullSave : Prop :=
  ∀ before symbol after, commands = before ++ symbol :: after → table.Settled before →
    table.effect? symbol = some .push → table.depth before ≠ replay.config.maxStackDepth

variable {replay table commands}

theorem runPass_load_of_balance_ok (noFull : NoFullSave replay table commands) {saves : Nat}
    (accepted : table.balance commands = .ok saves) :
    ((replay.load commands.toArray table).runPass sink).1 = .ok commands.length ∧
      ((replay.load commands.toArray table).runPass sink).2.1.stackDepth = saves := by
  obtain ⟨settled, reported⟩ := RuleTable.balance_eq_ok_iff.1 accepted
  rcases runPass_load_cases replay table commands sink with ⟨_, _, final, after, ran, tracks⟩ |
    ⟨before, symbol, after, fault, split, beforeSettled, _, refuses, _⟩
  · rw [ran]
    refine ⟨rfl, ?_⟩
    have saved := tracks.saved_eq
    simp only [stackDepth]
    omega
  · -- a settled run is refused only by a save at the limit, which `noFull` excludes
    exfalso
    have extended : table.Settled (before ++ [symbol]) :=
      settled.of_prefix ⟨after, by simp [split]⟩
    rcases refuses.unsettles_or_full beforeSettled with unsettled | ⟨pushes, full, _⟩
    · exact unsettled extended
    · exact noFull before symbol after split beforeSettled pushes full

/-- Where the check fails, a pass without a save at the limit fails with the same fault, its
cursor on the failing command. -/
theorem runPass_load_of_balance_error (noFull : NoFullSave replay table commands)
    {fault : Fault} (refused : table.balance commands = .error fault) :
    ((replay.load commands.toArray table).runPass sink).1 = .error fault ∧
      ∃ before symbol after, commands = before ++ symbol :: after ∧ table.Settled before ∧
        ((table.effect? symbol = none ∧ fault = .unknownSymbol symbol) ∨
          (table.effect? symbol = some .pop ∧ table.depth before = 0 ∧
            fault = .stackUnderflow before.length)) ∧
        ((replay.load commands.toArray table).runPass sink).2.1.cursor = before.length := by
  obtain ⟨before, symbol, after, split, settled, kind⟩ :=
    RuleTable.balance_eq_error_iff.1 refused
  have fits := RuleTable.fitsUnder_of_no_full_save ⟨symbol :: after, split.symm⟩ settled noFull
  have refuses : table.Refuses replay.config.maxStackDepth before symbol fault := by
    rcases kind with missing | underflow
    · exact .inl missing
    · exact .inr (.inl underflow)
  obtain ⟨final, finalSink, ran, tracks⟩ :=
    runPass_load_of_break replay split settled fits refuses sink
  rw [ran]
  exact ⟨rfl, before, symbol, after, split, settled, kind, tracks.cursor_eq⟩

end NoFullSave

/-- The bracket check and a pass over freshly loaded commands agree, for any configuration and
sink. The check accepts exactly the settled commands, with their depth, and otherwise names the
first command that unsettles them: a symbol without a rule, or a restore at depth zero, by its
position. The pass refuses a save at the limit exactly at the first save made with
`maxStackDepth` turtles saved, before the check's failing command. Without such a save the pass
ends as the check does: every command run and the stack as deep as the check reports, or the same
fault with the cursor on the failing command. -/
theorem runPass_mirrors_balance (replay : Replay) (table : RuleTable) (commands : List Char)
    (sink : σ) :
    let limit := replay.config.maxStackDepth
    let pass := (replay.load commands.toArray table).runPass sink
    (∀ saves, table.balance commands = .ok saves ↔
      table.Settled commands ∧ (saves : Int) = table.depth commands) ∧
    (∀ fault, table.balance commands = .error fault ↔
      ∃ before symbol after, commands = before ++ symbol :: after ∧ table.Settled before ∧
        ((table.effect? symbol = none ∧ fault = .unknownSymbol symbol) ∨
          (table.effect? symbol = some .pop ∧ table.depth before = 0 ∧
            fault = .stackUnderflow before.length))) ∧
    (∀ index bound, pass.1 = .error (.stackOverflow index bound) ↔ bound = limit ∧
      ∃ before symbol after, commands = before ++ symbol :: after ∧ before.length = index ∧
        table.Settled before ∧ table.FitsUnder limit before ∧
        table.effect? symbol = some .push ∧ table.depth before = limit) ∧
    ((∀ before symbol after, commands = before ++ symbol :: after → table.Settled before →
        table.effect? symbol = some .push → table.depth before ≠ limit) →
      (∀ saves, table.balance commands = .ok saves →
        pass.1 = .ok commands.length ∧ pass.2.1.stackDepth = saves) ∧
      (∀ index, table.balance commands = .error (.stackUnderflow index) →
        pass.1 = .error (.stackUnderflow index) ∧ pass.2.1.cursor = index) ∧
      (∀ symbol, table.balance commands = .error (.unknownSymbol symbol) →
        pass.1 = .error (.unknownSymbol symbol) ∧
        ∃ before after, commands = before ++ symbol :: after ∧ table.Settled before ∧
          pass.2.1.cursor = before.length)) := by
  intro limit pass
  refine ⟨fun _ => RuleTable.balance_eq_ok_iff, fun _ => RuleTable.balance_eq_error_iff,
    runPass_load_eq_overflow_iff replay table commands sink, fun noFull => ⟨?accepted, ?underflow,
      ?unknown⟩⟩
  case accepted => exact fun saves accepted => runPass_load_of_balance_ok sink noFull accepted
  case underflow =>
    intro index refused
    obtain ⟨failed, before, symbol, after, _, _, kind, cursor⟩ :=
      runPass_load_of_balance_error sink noFull refused
    refine ⟨failed, ?_⟩
    rcases kind with ⟨_, named⟩ | ⟨_, _, named⟩
    · cases named
    · injection named with sameIndex
      exact cursor.trans sameIndex.symm
  case unknown =>
    intro symbol refused
    obtain ⟨failed, before, symbol', after, split, settled, kind, cursor⟩ :=
      runPass_load_of_balance_error sink noFull refused
    refine ⟨failed, ?_⟩
    rcases kind with ⟨_, named⟩ | ⟨_, _, named⟩
    · injection named with sameSymbol
      subst sameSymbol
      exact ⟨before, after, split, settled, cursor⟩
    · cases named

end Replay

end PlantPlot
