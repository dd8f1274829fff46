import Mathlib
import PlantPlot.Grammar.Engine
import PlantPlot.Proofs.Rewriting

/-!
# The bounded run is the free run under two ceilings

The engine measures a generation before building it: the sum of the production lengths is the
length of the rewritten word, and a symbol without a rule fails the measuring with the fault that
rewriting would give (`expandedSize_eq`). So one bounded generation is one free generation that is
refused when the word it gives is too long (`Engine.expand_eq`).

A bounded run then either is the free run, or stops at the first generation whose word would be
too long, after generations that all fit (`runFrom_cases`). Main statement:
`run_guards_unbounded_run`.
-/

namespace PlantPlot

namespace Engine

variable {engine : Engine} {table : RuleTable}

theorem lookup_lengths (entries : List (Char × Rule)) (symbol : Char) :
    (entries.map fun entry => (entry.1, entry.2.production.length)).lookup symbol =
      (entries.lookup symbol).map fun rule => rule.production.length := by
  induction entries with
  | nil => rfl
  | cons entry rest ih =>
      obtain ⟨key, rule⟩ := entry
      by_cases same : symbol = key
      · simp [same]
      · simp [List.lookup_cons, char_beq_eq_false same, ih]

theorem expandedSizeFrom_eq (table : RuleTable) (size : Nat) (word : List Char) :
    expandedSizeFrom (table.entries.map fun entry => (entry.1, entry.2.production.length)) size
        word =
      (word.mapM table.production).map fun parts => size + parts.flatten.length := by
  induction word generalizing size with
  | nil => simp [expandedSizeFrom, pure, Except.pure, Except.map]
  | cons symbol rest ih =>
      have lookedUp := lookup_lengths table.entries symbol
      cases found : table.get? symbol with
      | none =>
          simp only [RuleTable.get?] at found
          simp [expandedSizeFrom, lookedUp, found, List.mapM_cons, RuleTable.production,
            RuleTable.get?, bind, Except.bind, Except.map]
      | some rule =>
          simp only [RuleTable.get?] at found
          simp only [expandedSizeFrom, lookedUp, found, Option.map_some, ih, List.mapM_cons,
            RuleTable.production, RuleTable.get?, bind, Except.bind]
          cases rest.mapM table.production with
          | error fault => rfl
          | ok parts =>
              simp only [Except.map, pure, Except.pure, List.flatten_cons, List.length_append,
                Nat.add_assoc]

/-- Measuring a generation gives the length of the rewritten word, or the fault of rewriting. -/
theorem expandedSize_eq (table : RuleTable) (word : List Char) :
    expandedSize table word = (table.expand word).map List.length := by
  rw [expandedSize, expandedSizeFrom_eq, RuleTable.expand_eq_map_flatten]
  cases word.mapM table.production <;> simp [Except.map]

/-- One bounded generation is one free generation, refused when its word is too long. -/
theorem expand_eq (engine : Engine) (table : RuleTable) (word : List Char) (generation : Nat) :
    engine.expand table word generation =
      match table.expand word with
      | .error fault => .error fault
      | .ok next =>
        if engine.maxSymbols < next.length then
          .error (.growthLimit generation next.length engine.maxSymbols)
        else .ok next := by
  rw [expand, expandedSize_eq]
  cases table.expand word <;> simp [Except.map]

/-- A bounded run from generation `generation` on is the free run, or it stops at its `k`-th
generation, numbered `generation + k - 1`, whose word would be too long, every earlier generation
having fit. -/
theorem runFrom_cases (engine : Engine) (table : RuleTable) (word : List Char)
    (generation remaining : Nat) :
    engine.runFrom table word generation remaining = table.run word remaining ∨
      ∃ k, 1 ≤ k ∧ k ≤ remaining ∧
        ∃ before next, table.run word (k - 1) = .ok before ∧
        table.expand before = .ok next ∧ engine.maxSymbols < next.length ∧
        engine.runFrom table word generation remaining =
          .error (.growthLimit (generation + k - 1) next.length engine.maxSymbols) ∧
        ∀ j, 1 ≤ j → j < k →
          ∃ reached, table.run word j = .ok reached ∧ reached.length ≤ engine.maxSymbols := by
  induction remaining generalizing word generation with
  | zero => exact .inl rfl
  | succ remaining ih =>
      cases expanded : table.expand word with
      | error fault =>
          left
          simp [runFrom, expand_eq, expanded, RuleTable.run_succ_of_expand_error expanded]
      | ok next =>
          by_cases tooLong : engine.maxSymbols < next.length
          · -- the first generation is refused already
            right
            refine ⟨1, le_refl _, by omega, word, next, rfl, expanded, tooLong, ?_,
              fun j atLeast below => by omega⟩
            simp [runFrom, expand_eq, expanded, tooLong]
          · by_cases same : next = word
            · subst same
              left
              simp [runFrom, expand_eq, expanded, tooLong, RuleTable.run_of_expand_self expanded]
            · have continued : engine.runFrom table word generation (remaining + 1) =
                  engine.runFrom table next (generation + 1) remaining := by
                simp [runFrom, expand_eq, expanded, tooLong, same]
              rw [continued, RuleTable.run_succ_of_expand expanded]
              rcases ih next (generation + 1) with same | ⟨k, atLeast, atMost, before, after,
                ran, grows, tooMany, stopped, fitted⟩
              · exact .inl same
              · -- the refused generation is one later when counted from `word`
                right
                refine ⟨k + 1, by omega, by omega, before, after, ?_, grows, tooMany, ?_, ?_⟩
                · rw [show k + 1 - 1 = k - 1 + 1 by omega, RuleTable.run_succ_of_expand expanded]
                  exact ran
                · rw [stopped]
                  congr 2
                  omega
                · intro j atLeastOne below
                  cases j with
                  | zero => omega
                  | succ j =>
                      rw [RuleTable.run_succ_of_expand expanded]
                      rcases Nat.eq_zero_or_pos j with rfl | positive
                      · exact ⟨next, rfl, by omega⟩
                      · exact fitted j positive (by omega)

theorem run_of_missing {initiator before after : List Char} {symbol : Char}
    (split : initiator = before ++ symbol :: after)
    (allKnown : ∀ known ∈ before, table.contains known = true)
    (missing : table.contains symbol = false) (generations : Nat) :
    engine.run table initiator generations = .error (.unknownSymbol symbol) := by
  have invalid := RuleTable.validate_eq_error_iff.2
    ⟨before, symbol, after, split, allKnown, missing, rfl⟩
  simp [run, invalid]

theorem run_of_above {initiator : List Char} (valid : table.validate initiator = .ok ())
    {generations : Nat} (above : engine.maxGenerations < generations) :
    engine.run table initiator generations =
      .error (.generationLimit generations engine.maxGenerations) := by
  simp [run, valid, above]

theorem run_of_within {initiator : List Char} (valid : table.validate initiator = .ok ())
    {generations : Nat} (within : generations ≤ engine.maxGenerations) :
    engine.run table initiator generations = engine.runFrom table initiator 1 generations := by
  simp [run, valid, Nat.not_lt.2 within]

/-- Under both ceilings, and unless no generation is asked of an invalid initiator, a bounded
run whose free generations all fit is the free run. -/
theorem run_eq_run_of_fits {initiator : List Char} {generations : Nat}
    (within : generations ≤ engine.maxGenerations)
    (started : 1 ≤ generations ∨ table.validate initiator = .ok ())
    (fits : ∀ k, 1 ≤ k → k ≤ generations → ∀ word, table.run initiator k = .ok word →
      word.length ≤ engine.maxSymbols) :
    engine.run table initiator generations = table.run initiator generations := by
  cases valid : table.validate initiator with
  | error fault =>
      -- the initiator's fault is also the fault of its first free generation
      obtain ⟨remaining, rfl⟩ : ∃ remaining, generations = remaining + 1 := by
        rcases started with atLeast | validated
        · exact ⟨generations - 1, by omega⟩
        · rw [valid] at validated
          cases validated
      rw [RuleTable.run_succ_of_expand_error (RuleTable.expand_eq_error_iff.2 valid)]
      simp [run, valid]
  | ok =>
      rw [run_of_within valid within]
      rcases runFrom_cases engine table initiator 1 generations with same |
        ⟨k, atLeast, atMost, before, next, ran, grows, tooMany, _, _⟩
      · exact same
      · have reached : table.run initiator k = .ok next := by
          rw [show k = k - 1 + 1 by omega, RuleTable.run_succ, ran]
          exact grows
        have := fits k atLeast atMost next reached
        omega

/-- The bounded run is the free run guarded by its ceilings. An initiator with a symbol without
a rule is refused first, naming its first such symbol, even when no generation is asked for.
Then more generations than the ceiling are refused. Otherwise the bounded run is the free run,
or it stops at the first generation `k` whose word would be too long, reporting that word's exact
length, after generations that all fit. So when every free generation fits, the two runs agree.
-/
theorem run_guards_unbounded_run (engine : Engine) (table : RuleTable) (initiator : List Char)
    (generations : Nat) :
    (∀ before symbol after, initiator = before ++ symbol :: after →
      (∀ known ∈ before, table.contains known = true) → table.contains symbol = false →
      engine.run table initiator generations = .error (.unknownSymbol symbol)) ∧
    (table.validate initiator = .ok () → engine.maxGenerations < generations →
      engine.run table initiator generations =
        .error (.generationLimit generations engine.maxGenerations)) ∧
    (table.validate initiator = .ok () → generations ≤ engine.maxGenerations →
      engine.run table initiator generations = table.run initiator generations ∨
        ∃ k, 1 ≤ k ∧ k ≤ generations ∧ ∃ before next,
          table.run initiator (k - 1) = .ok before ∧ table.expand before = .ok next ∧
          engine.maxSymbols < next.length ∧
          engine.run table initiator generations =
            .error (.growthLimit k next.length engine.maxSymbols) ∧
          ∀ j, 1 ≤ j → j < k → ∃ reached, table.run initiator j = .ok reached ∧
            reached.length ≤ engine.maxSymbols) ∧
    (generations ≤ engine.maxGenerations →
      (1 ≤ generations ∨ table.validate initiator = .ok ()) →
      (∀ k, 1 ≤ k → k ≤ generations → ∀ word, table.run initiator k = .ok word →
        word.length ≤ engine.maxSymbols) →
      engine.run table initiator generations = table.run initiator generations) := by
  refine ⟨fun before symbol after split allKnown missing =>
      run_of_missing split allKnown missing generations,
    fun valid above => run_of_above valid above, fun valid within => ?_,
    fun within started fits => run_eq_run_of_fits within started fits⟩
  rw [run_of_within valid within]
  rcases runFrom_cases engine table initiator 1 generations with same |
    ⟨k, atLeast, atMost, before, next, ran, grows, tooMany, stopped, fitted⟩
  · exact .inl same
  · refine .inr ⟨k, atLeast, atMost, before, next, ran, grows, tooMany, ?_, fitted⟩
    rw [stopped, Nat.add_sub_cancel_left]

end Engine

end PlantPlot
