import Mathlib
import PlantPlot.Program.Basic

/-!
# Runs of rewriting

A run stops as soon as a generation rewrites to itself. That stop is only a shortcut: every later
generation would be the same word, so a run of `n + 1` generations is a run of `n` generations
followed by one more (`run_succ`), and a run fails exactly when some generation it reaches holds
a symbol without a rule (`run_eq_error_iff`). A run is therefore the plain iteration of one
generation, and splits at any number of generations (`run_matches_plain_iteration`).

A table is closed when its productions use only symbols it has rules for. Rewriting under a
closed table never leaves the symbols with rules, so every run from a valid word succeeds and
stays valid (`run_valid_of_closed`); `validateClosed` decides closedness
(`validateClosed_eq_ok_iff`).
-/

namespace PlantPlot

/-- In a list whose keys ascend, the entry of a key is the one that looking the key up finds. -/
theorem lookup_eq_some_of_mem {β : Type} {entries : List (Char × β)}
    (ascending : entries.Pairwise fun earlier later => earlier.1 < later.1) {key : Char}
    {value : β} (member : (key, value) ∈ entries) : entries.lookup key = some value := by
  obtain ⟨before, after, split⟩ := List.mem_iff_append.1 member
  rw [split, List.pairwise_append] at ascending
  refine List.lookup_eq_some_iff.2 ⟨before, after, split, fun earlier inBefore => ?_⟩
  have below : earlier.1 < key := ascending.2.2 earlier inBefore _ List.mem_cons_self
  simpa using (Char.ne_of_lt below).symm

namespace RuleTable

variable {table : RuleTable}

/-- The word that `symbol` rewrites to, empty for a symbol without a rule. -/
def rewritten (table : RuleTable) (symbol : Char) : List Char :=
  match table.get? symbol with
  | some rule => rule.production
  | none => []

/-- Every symbol of every production has a rule. -/
def Closed (table : RuleTable) : Prop :=
  ∀ symbol rule, table.get? symbol = some rule →
    ∀ out ∈ rule.production, table.contains out = true

theorem validate_nil : table.validate [] = .ok () := rfl

theorem validate_cons (symbol : Char) (rest : List Char) :
    table.validate (symbol :: rest) =
      if table.contains symbol then table.validate rest else .error (.unknownSymbol symbol) := by
  by_cases known : table.contains symbol <;> simp [validate, known]

/-- Validation names the first symbol without a rule. -/
theorem validate_eq_error_iff {word : List Char} {fault : Fault} :
    table.validate word = .error fault ↔
      ∃ before symbol after, word = before ++ symbol :: after ∧
        (∀ known ∈ before, table.contains known = true) ∧ table.contains symbol = false ∧
        fault = .unknownSymbol symbol := by
  unfold validate
  split
  · next symbol found =>
    obtain ⟨missing, before, after, split, allKnown⟩ := List.find?_eq_some_iff_append.1 found
    constructor
    · intro failed
      cases failed
      exact ⟨before, symbol, after, split,
        fun known member => by simpa using allKnown known member, by simpa using missing, rfl⟩
    · rintro ⟨before', symbol', after', split', allKnown', missing', rfl⟩
      have first : word.find? (fun symbol => !table.contains symbol) = some symbol' :=
        List.find?_eq_some_iff_append.2
          ⟨by simpa using missing', before', after', split', fun known member => by
            simpa using allKnown' known member⟩
      rw [found] at first
      cases first
      rfl
  · next notFound =>
    simp only [reduceCtorEq, false_iff, not_exists, not_and]
    intro before symbol after split _ missing _
    have := List.find?_eq_none.1 notFound symbol (by simp [split])
    simp [missing] at this

theorem production_of_contains {symbol : Char} (known : table.contains symbol = true) :
    table.production symbol = .ok (table.rewritten symbol) := by
  rw [contains_eq_isSome] at known
  cases found : table.get? symbol with
  | none => simp [found] at known
  | some rule => simp [production, rewritten, found]

theorem mapM_production_of_valid {word : List Char} (valid : table.validate word = .ok ()) :
    word.mapM table.production = .ok (word.map table.rewritten) := by
  induction word with
  | nil => rfl
  | cons symbol rest ih =>
      rw [validate_cons] at valid
      by_cases known : table.contains symbol
      · simp only [known, if_true] at valid
        simp [List.mapM_cons, production_of_contains known, ih valid, bind, Except.bind, pure,
          Except.pure]
      · simp [known] at valid

theorem mapM_production_eq_error_iff {word : List Char} {fault : Fault} :
    word.mapM table.production = .error fault ↔ table.validate word = .error fault := by
  induction word with
  | nil => simp [validate_nil, pure, Except.pure]
  | cons symbol rest ih =>
      rw [validate_cons]
      by_cases known : table.contains symbol
      · simp only [known, if_true, ← ih, List.mapM_cons, production_of_contains known]
        cases rests : rest.mapM table.production <;>
          simp [bind, Except.bind, pure, Except.pure]
      · have missing : table.production symbol = .error (.unknownSymbol symbol) := by
          simp only [contains_eq_isSome, Option.isSome_eq_false_iff, Option.isNone_iff_eq_none,
            Bool.not_eq_true] at known
          simp [production, known]
        simp [known, List.mapM_cons, missing, bind, Except.bind]

theorem expand_of_valid {word : List Char} (valid : table.validate word = .ok ()) :
    table.expand word = .ok (word.flatMap table.rewritten) := by
  rw [expand_eq_map_flatten, mapM_production_of_valid valid]
  simp [Except.map, List.flatMap]

theorem expand_eq_error_iff {word : List Char} {fault : Fault} :
    table.expand word = .error fault ↔ table.validate word = .error fault := by
  rw [expand_eq_map_flatten, ← mapM_production_eq_error_iff]
  cases word.mapM table.production <;> simp [Except.map]

theorem expand_error_iff_missing {word : List Char} :
    (∃ fault, table.expand word = .error fault) ↔
      ∃ symbol ∈ word, table.contains symbol = false := by
  constructor
  · rintro ⟨fault, failed⟩
    obtain ⟨before, symbol, after, split, _, missing, _⟩ :=
      validate_eq_error_iff.1 (expand_eq_error_iff.1 failed)
    exact ⟨symbol, by simp [split], missing⟩
  · rintro ⟨symbol, member, missing⟩
    cases valid : table.validate word with
    | ok =>
        have known := (validate_eq_ok_iff table word).1 valid symbol member
        simp [known] at missing
    | error fault => exact ⟨fault, expand_eq_error_iff.2 valid⟩

theorem run_of_expand_self {word : List Char} (fixed : table.expand word = .ok word) (n : Nat) :
    table.run word n = .ok word := by
  cases n with
  | zero => rfl
  | succ n => simp [run, fixed]

/-- Rewriting once and then running is the longer run, whether or not the word is a fixed
point: the early stop of a run never changes its result. -/
theorem run_succ_of_expand {word next : List Char} (expanded : table.expand word = .ok next)
    (n : Nat) : table.run word (n + 1) = table.run next n := by
  by_cases same : next = word
  · subst same
    rw [run_of_expand_self expanded, run_of_expand_self expanded]
  · simp [run, expanded, same]

theorem run_succ_of_expand_error {word : List Char} {fault : Fault}
    (failed : table.expand word = .error fault) (n : Nat) :
    table.run word (n + 1) = .error fault := by
  simp [run, failed]

/-- A run of `n + 1` generations rewrites the word that the run of `n` generations reaches. -/
theorem run_succ (word : List Char) (n : Nat) :
    table.run word (n + 1) = table.run word n >>= table.expand := by
  induction n generalizing word with
  | zero =>
      cases expanded : table.expand word with
      | error fault =>
          simp [run_succ_of_expand_error expanded, run_zero, bind, Except.bind, expanded]
      | ok next => simp [run_succ_of_expand expanded, run_zero, bind, Except.bind, expanded]
  | succ n ih =>
      cases expanded : table.expand word with
      | error fault =>
          simp [run_succ_of_expand_error expanded, bind, Except.bind]
      | ok next => rw [run_succ_of_expand expanded, run_succ_of_expand expanded, ih]

theorem run_add_of_error {word : List Char} {fault : Fault} {n : Nat}
    (failed : table.run word n = .error fault) (extra : Nat) :
    table.run word (n + extra) = .error fault := by
  induction extra with
  | zero => exact failed
  | succ extra ih =>
      rw [← Nat.add_assoc, run_succ, ih]
      rfl

/-- A run fails exactly when one of the generations it reaches cannot be rewritten, and then
with that generation's fault. -/
theorem run_eq_error_iff {word : List Char} {generations : Nat} {fault : Fault} :
    table.run word generations = .error fault ↔
      ∃ reached < generations, ∃ stuck, table.run word reached = .ok stuck ∧
        table.expand stuck = .error fault := by
  constructor
  · intro failed
    induction generations generalizing word with
    | zero => cases failed
    | succ generations ih =>
        cases expanded : table.expand word with
        | error first =>
            rw [run_succ_of_expand_error expanded] at failed
            cases failed
            exact ⟨0, Nat.zero_lt_succ _, word, rfl, expanded⟩
        | ok next =>
            rw [run_succ_of_expand expanded] at failed
            obtain ⟨reached, below, stuck, ran, stuckFails⟩ := ih failed
            exact ⟨reached + 1, by omega, stuck, by rw [run_succ_of_expand expanded, ran],
              stuckFails⟩
  · rintro ⟨reached, below, stuck, ran, stuckFails⟩
    -- the generation after the stuck one fails, and every later generation keeps its fault
    have next : table.run word (reached + 1) = .error fault := by
      rw [run_succ, ran]
      exact stuckFails
    have total := run_add_of_error next (generations - (reached + 1))
    rwa [show reached + 1 + (generations - (reached + 1)) = generations by omega] at total

/-- A run is the plain iteration of one generation, with no early stop: each generation rewrites
the word the one before reached, and a fault is passed on unchanged. -/
theorem run_eq_iterate (word : List Char) (n : Nat) :
    table.run word n = (fun reached => reached >>= table.expand)^[n] (.ok word) := by
  induction n with
  | zero => rfl
  | succ n ih => rw [run_succ, ih, Function.iterate_succ_apply']

/-- Iterating from a reached word is binding it into the iteration from that word. -/
theorem iterate_bind_expand (reached : Except Fault (List Char)) (n : Nat) :
    (fun reached => reached >>= table.expand)^[n] reached =
      reached >>= fun word => (fun reached => reached >>= table.expand)^[n] (.ok word) := by
  cases reached with
  | error fault => exact Function.iterate_fixed rfl n
  | ok word => rfl

/-- A run of `m + n` generations runs `n` more generations from where the run of `m` ended. -/
theorem run_add (word : List Char) (m n : Nat) :
    table.run word (m + n) = table.run word m >>= fun reached => table.run reached n := by
  simp only [run_eq_iterate]
  rw [Nat.add_comm, Function.iterate_add_apply, iterate_bind_expand]

/-- The early stop of a run is invisible: a run is the plain iteration of one generation, faults
included, and so it splits at any number of generations. -/
theorem run_matches_plain_iteration (table : RuleTable) :
    (∀ word n, table.run word n = (fun reached => reached >>= table.expand)^[n] (.ok word)) ∧
      ∀ word m n, table.run word (m + n) = table.run word m >>= fun reached => table.run reached n :=
  ⟨run_eq_iterate, run_add⟩

theorem get?_eq_some_iff {symbol : Char} {rule : Rule} :
    table.get? symbol = some rule ↔ (symbol, rule) ∈ table.entries := by
  constructor
  · intro found
    obtain ⟨before, after, split, _⟩ := List.lookup_eq_some_iff.1 found
    simp [split]
  · exact lookup_eq_some_of_mem table.keysAscend

theorem forM_validate_eq_ok_iff (entries : List (Char × Rule)) :
    entries.forM (fun entry => table.validate entry.2.production) = .ok () ↔
      ∀ entry ∈ entries, table.validate entry.2.production = .ok () := by
  induction entries with
  | nil => simp [pure, Except.pure]
  | cons first rest ih =>
      have unfolded : (first :: rest).forM (fun entry => table.validate entry.2.production) =
          (table.validate first.2.production >>= fun _ =>
            rest.forM fun entry => table.validate entry.2.production) := rfl
      rw [unfolded]
      cases checked : table.validate first.2.production with
      | error fault => simp [checked, bind, Except.bind]
      | ok =>
          rw [List.forall_mem_cons, checked]
          exact ⟨fun rests => ⟨rfl, ih.1 rests⟩, fun all => ih.2 all.2⟩

theorem validateClosed_eq_ok_iff : table.validateClosed = .ok () ↔ table.Closed := by
  rw [validateClosed, forM_validate_eq_ok_iff]
  constructor
  · intro allValid symbol rule found
    exact (validate_eq_ok_iff table _).1 (allValid (symbol, rule) (get?_eq_some_iff.1 found))
  · rintro closed ⟨symbol, rule⟩ member
    exact (validate_eq_ok_iff table _).2 (closed symbol rule (get?_eq_some_iff.2 member))

theorem expand_valid_of_closed (closed : table.Closed) {word : List Char}
    (valid : table.validate word = .ok ()) :
    ∃ next, table.expand word = .ok next ∧ table.validate next = .ok () := by
  refine ⟨_, expand_of_valid valid, (validate_eq_ok_iff table _).2 ?_⟩
  intro out member
  obtain ⟨symbol, inWord, produced⟩ := List.mem_flatMap.1 member
  have known := (validate_eq_ok_iff table word).1 valid symbol inWord
  rw [contains_eq_isSome] at known
  cases found : table.get? symbol with
  | none => simp [found] at known
  | some rule =>
      simp only [rewritten, found] at produced
      exact closed symbol rule found out produced

/-- Under a closed table every run from a valid word succeeds, and every generation is valid. -/
theorem run_valid_of_closed (closed : table.Closed) {word : List Char}
    (valid : table.validate word = .ok ()) (generations : Nat) :
    ∃ reached, table.run word generations = .ok reached ∧ table.validate reached = .ok () := by
  induction generations generalizing word with
  | zero => exact ⟨word, rfl, valid⟩
  | succ generations ih =>
      obtain ⟨next, expanded, nextValid⟩ := expand_valid_of_closed closed valid
      rw [run_succ_of_expand expanded]
      exact ih nextValid

end RuleTable

end PlantPlot
