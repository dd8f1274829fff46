import Mathlib
import PlantPlot.Proofs.ReplayStep

/-!
# Counting the steps of a replay

After a reset, a replay is accounted for by the log of the steps it has executed (`Accounts`).
With `n` commands and `k` steps logged, the steps ran the commands in order, the `j`-th one the
command at `j mod n`, starting over after the last one when the replay loops; the cursor and
the pass count the steps, `k = pass * n + cursor`; the first pass recorded the position after
each of its steps; and the saved turtles number the saves less the restores. One step keeps this
(`accounts_step`), and so does every script of calls (`script_keeps`).

Main statement: `script_from_reset_counts_steps`, the cursor, pass, records, saved turtles and
drawing of a replay after any script, as functions of its log.
-/

namespace PlantPlot

namespace Step

/-- How a step changes the number of saved turtles. -/
def stackChange : Step → Int
  | .executed _ _ effect => effect.stackChange
  | .finished => 0

end Step

namespace Replay

variable {σ : Type} [Sink σ]

/-- The replay is what the steps of `log` made of a reset: the `j`-th step ran the command at
`j mod n` of the `n` commands; `pass * n + cursor` steps ran, the cursor past the first command
once one has; a replay that does not loop, or has no commands, stays in its first pass; the
positions of the first pass are recorded; and the saved turtles number the saves less the
restores, within the limit. -/
structure Accounts (replay : Replay) (log : List (Step × Replay)) : Prop where
  counted : log.length = replay.pass * replay.commands.size + replay.cursor
  cursor_le : replay.cursor ≤ replay.commands.size
  started : log ≠ [] → 0 < replay.cursor
  once : (replay.looping = false ∨ replay.commands.size = 0) → replay.pass = 0
  reports : ∀ j < log.length, ∃ symbol effect,
    replay.commands[j % replay.commands.size]? = some symbol ∧
    replay.rules.effect? symbol = some effect ∧
    (log[j]?).map Prod.fst = some (.executed (j % replay.commands.size) symbol effect)
  points_eq : replay.points.toList =
    (log.take replay.commands.size).map fun entry => entry.2.turtle.position
  saved_eq : (replay.saved.length : Int) = (log.map fun entry => entry.1.stackChange).sum
  saved_le : replay.saved.length ≤ replay.config.maxStackDepth

variable {replay : Replay} {log : List (Step × Replay)}

theorem accounts_reset (replay : Replay) : replay.reset.Accounts [] where
  counted := by simp
  cursor_le := by simp
  started := fun nonempty => absurd rfl nonempty
  once := fun _ => rfl
  reports := fun j below => absurd below (Nat.not_lt_zero j)
  points_eq := by simp
  saved_eq := by simp
  saved_le := by simp

theorem accounts_reconfigured : ConfigInvariant Accounts := by
  intro replay log config sameLimit accounts
  exact { accounts with saved_le := sameLimit ▸ accounts.saved_le }

/-- The step after `k` logged steps runs the command at `k mod n`, one more step is counted, and
the step belongs to the first pass exactly when `k < n`. -/
theorem Accounts.slot {index pass : Nat} (accounts : replay.Accounts log)
    (slot : replay.nextSlot = some (index, pass)) :
    index = log.length % replay.commands.size ∧
      log.length + 1 = pass * replay.commands.size + (index + 1) ∧
      index + 1 ≤ replay.commands.size ∧
      ((replay.looping = false ∨ replay.commands.size = 0) → pass = 0) ∧
      (pass = 0 ↔ log.length < replay.commands.size) := by
  have counted := accounts.counted
  rcases nextSlot_eq_some_iff.1 slot with
    ⟨inside, rfl, rfl⟩ | ⟨outside, looping, nonempty, rfl, rfl⟩
  · -- the command at the cursor, in the same pass
    have laterPass : 0 < replay.pass → replay.commands.size ≤ log.length := by
      intro later
      have := Nat.le_mul_of_pos_left replay.commands.size later
      omega
    refine ⟨?_, by omega, by omega, accounts.once, ⟨fun first => ?_, fun early => ?_⟩⟩
    · rw [counted, Nat.mul_comm, Nat.mul_add_mod, Nat.mod_eq_of_lt inside]
    · rw [counted, first, Nat.zero_mul, Nat.zero_add]
      exact inside
    · by_contra later
      have := laterPass (Nat.pos_of_ne_zero later)
      omega
  · -- past the last command: a new pass starts at the first one
    have full : replay.cursor = replay.commands.size := Nat.le_antisymm accounts.cursor_le outside
    have wrapped : log.length = (replay.pass + 1) * replay.commands.size := by
      rw [counted, full, Nat.succ_mul]
    refine ⟨?_, ?_, by omega, ?_, ?_⟩
    · rw [wrapped, Nat.mul_mod_left]
    · rw [wrapped]
    · rintro (once | empty)
      · rw [looping] at once
        cases once
      · omega
    · have := Nat.le_mul_of_pos_left replay.commands.size (Nat.succ_pos replay.pass)
      simp only [Nat.add_one_ne_zero, false_iff, not_lt]
      omega

theorem accounts_step : StepInvariant Accounts := by
  intro τ _ replay log sink index symbol effect next after accounts advanced
  obtain ⟨pass, turtle, saved, slot, command, known, performed, rfl⟩ :=
    advance_eq_executed advanced
  obtain ⟨savedChange, savedBound, -⟩ := perform_of_ok performed
  obtain ⟨atSlot, counted, cursorLe, once, firstPass⟩ := accounts.slot slot
  refine ⟨?_, cursorLe, fun _ => Nat.succ_pos index, once, ?_, ?_, ?_,
    savedBound accounts.saved_le⟩
  · simpa using counted
  · -- the earlier steps keep their reports, and the new one ran the command at the slot
    intro j below
    rw [List.length_append, List.length_singleton] at below
    rcases Nat.lt_succ_iff_lt_or_eq.1 below with earlier | rfl
    · simpa [List.getElem?_append_left earlier] using accounts.reports j earlier
    · exact ⟨symbol, effect, atSlot ▸ command, known, by simp [atSlot]⟩
  · -- a step of the first pass records where it left the turtle
    by_cases first : pass = 0
    · have early := firstPass.1 first
      rw [List.take_of_length_le (by simp; omega), if_pos first, Array.toList_push,
        accounts.points_eq, List.take_of_length_le (by omega)]
      simp
    · have late : replay.commands.size ≤ log.length := by
        have := mt firstPass.2 first
        omega
      rw [List.take_append_of_le_length late, if_neg first]
      exact accounts.points_eq
  · simp [accounts.saved_eq, savedChange, Step.stackChange]

theorem accounts_script (replay : Replay) (calls : List Call) :
    (replay.reset.script calls).1.Accounts (replay.reset.script calls).2 := by
  simpa using script_keeps accounts_step accounts_reconfigured (accounts_reset replay) calls

theorem Accounts.cursor_of_once (accounts : replay.Accounts log)
    (stops : replay.looping = false ∨ replay.commands.size = 0) :
    replay.cursor = log.length ∧ replay.pass = 0 := by
  have first := accounts.once stops
  have counted := accounts.counted
  rw [first, Nat.zero_mul, Nat.zero_add] at counted
  exact ⟨counted.symm, first⟩

/-- The cursor and the pass in closed form: after `k` steps over `n` commands, `k` and `0` while
the replay has not looped, and `(k - 1) mod n + 1` and `(k - 1) / n` once a step ran. -/
theorem Accounts.position (accounts : replay.Accounts log) :
    ((replay.looping = false ∨ replay.commands.size = 0) →
      replay.cursor = log.length ∧ log.length ≤ replay.commands.size ∧ replay.pass = 0) ∧
    ((replay.looping = true ∧ 0 < replay.commands.size) →
      (log = [] → replay.cursor = 0 ∧ replay.pass = 0) ∧
      (log ≠ [] → replay.cursor = (log.length - 1) % replay.commands.size + 1 ∧
        replay.pass = (log.length - 1) / replay.commands.size)) := by
  have counted := accounts.counted
  have cursorLe := accounts.cursor_le
  refine ⟨fun stops => ?_, fun ⟨_, nonempty⟩ => ⟨fun empty => ?_, fun nonemptyLog => ?_⟩⟩
  · obtain ⟨atCursor, first⟩ := accounts.cursor_of_once stops
    exact ⟨atCursor, atCursor ▸ cursorLe, first⟩
  · rw [empty, List.length_nil] at counted
    have none : replay.pass * replay.commands.size = 0 := by omega
    rcases Nat.mul_eq_zero.1 none with first | noCommands
    · exact ⟨by omega, first⟩
    · omega
  · -- `k - 1 = pass * n + (cursor - 1)` with `cursor - 1 < n`
    have started := accounts.started nonemptyLog
    have split := (Nat.div_mod_unique (a := log.length - 1) nonempty
      (d := replay.pass) (c := replay.cursor - 1)).2
      ⟨by rw [counted, Nat.mul_comm]; omega, by omega⟩
    omega

/-- The next step finishes exactly when a replay that does not loop has run all its commands, or
there are none; it then changes nothing. -/
theorem Accounts.finishes (accounts : replay.Accounts log) (sink : σ) :
    ((∃ next after, replay.advance sink = .ok (.finished, next, after)) ↔
      (replay.looping = false ∧ log.length = replay.commands.size) ∨
        replay.commands.size = 0) ∧
    ∀ next after, replay.advance sink = .ok (.finished, next, after) →
      next = replay ∧ after = sink := by
  refine ⟨?_, fun next after finished => (advance_eq_finished finished).2⟩
  have cursorLe := accounts.cursor_le
  constructor
  · rintro ⟨next, after, finished⟩
    obtain ⟨outside, stops⟩ := nextSlot_eq_none_iff.1 (advance_eq_finished finished).1
    have atCursor := (accounts.cursor_of_once stops).1
    rcases stops with once | empty
    · exact .inl ⟨once, by omega⟩
    · exact .inr empty
  · intro finishing
    have slot : replay.nextSlot = none := by
      rcases finishing with ⟨once, ran⟩ | empty
      · have atCursor := (accounts.cursor_of_once (.inl once)).1
        exact nextSlot_eq_none_iff.2 ⟨by omega, .inl once⟩
      · exact nextSlot_eq_none_iff.2 ⟨by omega, .inr empty⟩
    exact ⟨replay, sink, advance_of_nextSlot_none slot sink⟩

/-- A replay after a reset (a load is a reset with new commands and rules) and any script of
calls, with its `n` commands and the log of the `k`
steps that the script executed, passes included. The cursor is `k` and the pass `0` while the
replay has not looped; on a looping replay they are `(k - 1) mod n + 1` and `(k - 1) / n` once a
step ran. The `j`-th step ran the command at `j mod n`, with its rule's effect. The recorded
points are the positions after the steps of the first pass, `min k n` of them. The saved turtles
number the saves less the restores, never above the limit. The next step or pass sends the sink
exactly the segments of its forward steps, and the next step finishes, changing nothing, exactly
when a replay that does not loop has run its `n` commands, or `n = 0`. -/
theorem script_from_reset_counts_steps (replay : Replay) (calls : List Call) :
    let final := (replay.reset.script calls).1
    let log := (replay.reset.script calls).2
    let n := final.commands.size
    final.commands = replay.commands ∧ final.rules = replay.rules ∧
    final.looping = replay.looping ∧
    final.config.maxStackDepth = replay.config.maxStackDepth ∧
    ((final.looping = false ∨ n = 0) →
      final.cursor = log.length ∧ log.length ≤ n ∧ final.pass = 0) ∧
    ((final.looping = true ∧ 0 < n) →
      (log = [] → final.cursor = 0 ∧ final.pass = 0) ∧
      (log ≠ [] → final.cursor = (log.length - 1) % n + 1 ∧
        final.pass = (log.length - 1) / n)) ∧
    (∀ j < log.length, ∃ symbol effect, final.commands[j % n]? = some symbol ∧
      final.rules.effect? symbol = some effect ∧
      (log[j]?).map Prod.fst = some (.executed (j % n) symbol effect)) ∧
    final.points.size = min log.length n ∧
    final.points.toList = (log.take n).map (fun entry => entry.2.turtle.position) ∧
    (final.stackDepth : Int) = (log.map fun entry => entry.1.stackChange).sum ∧
    final.stackDepth ≤ final.config.maxStackDepth ∧
    (∀ {τ : Type} [Sink τ] (sink : τ),
      (∀ step next after, final.advance sink = .ok (step, next, after) →
        after = Sink.drawAll sink (segmentsOf final.turtle.position [(step, next)])) ∧
      (final.runPass sink).2.2 =
        Sink.drawAll sink (segmentsOf final.turtle.position (final.passLog sink))) ∧
    (∀ {τ : Type} [Sink τ] (sink : τ),
      ((∃ next after, final.advance sink = .ok (.finished, next, after)) ↔
        (final.looping = false ∧ log.length = n) ∨ n = 0) ∧
      ∀ next after, final.advance sink = .ok (.finished, next, after) →
        next = final ∧ after = sink) := by
  intro final log n
  have accounts : final.Accounts log := accounts_script replay calls
  obtain ⟨commands, rules, looping, limit⟩ := script_frame replay.reset calls
  have points := accounts.points_eq
  refine ⟨commands, rules, looping, limit, accounts.position.1, accounts.position.2,
    accounts.reports, ?_, points, accounts.saved_eq, accounts.saved_le,
    fun sink => ⟨fun _ _ _ advanced => advance_sink advanced, runPassFrom_sink 0 sink _⟩,
    fun sink => accounts.finishes sink⟩
  rw [← Array.length_toList, points, List.length_map, List.length_take, Nat.min_comm]

end Replay

end PlantPlot
