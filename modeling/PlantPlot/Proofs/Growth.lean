import Mathlib
import PlantPlot.Grammar.Growth
import PlantPlot.Proofs.Rewriting

/-!
# Growth predicts the lengths of a run

A tally forgets the order of a word and keeps, for each symbol, how often it occurs, capped at
`countCeiling`. A tally in normal form (symbols ascending, every count between one and the cap)
is determined by its counts, and `Tally.Counts tally word` says that it holds the capped counts of
`word`. One generation of the tally then holds the capped counts of the rewritten word
(`step_of_counts`): capping commutes with the sums of one generation, since a capped term either
stays what it was or pushes the whole sum past the cap (`min_add_min_mul`). The total of a tally
that counts a word is the word's capped length (`total_of_counts`).

The prediction stops when a generation leaves the tally unchanged, while a run stops only when a
generation leaves the word unchanged. A tally that a generation leaves unchanged counts every
later word of the run (`counts_run_of_step_self`), so its total stays the capped length of all of
them. Main statement: `growth_predicts_run`.
-/

namespace PlantPlot

theorem countCeiling_pos : 0 < countCeiling := by
  decide

/-- A capped term in a sum that is itself capped can be taken uncapped. -/
theorem min_add_min_mul (before value factor after : Nat) :
    min (before + min value countCeiling * factor + after) countCeiling =
      min (before + value * factor + after) countCeiling := by
  by_cases small : value ≤ countCeiling
  · rw [Nat.min_eq_left small]
  · rcases Nat.eq_zero_or_pos factor with absent | present
    · simp [absent]
    · rw [Nat.min_eq_right (show countCeiling ≤ value by omega)]
      have capped : countCeiling ≤ countCeiling * factor := Nat.le_mul_of_pos_right _ present
      have uncapped : countCeiling ≤ value * factor :=
        Nat.le_trans capped (Nat.mul_le_mul_right _ (by omega))
      omega

theorem min_min_add (value after : Nat) :
    min (min value countCeiling + after) countCeiling = min (value + after) countCeiling := by
  simpa using min_add_min_mul 0 value 1 after

theorem min_sum_map_min_mul {α : Type} (values factors : α → Nat) (items : List α)
    (before : Nat) :
    min (before + (items.map fun item => min (values item) countCeiling * factors item).sum)
        countCeiling =
      min (before + (items.map fun item => values item * factors item).sum) countCeiling := by
  induction items generalizing before with
  | nil => rfl
  | cons item rest ih =>
      simp only [List.map_cons, List.sum_cons, ← Nat.add_assoc]
      rw [ih, ← ih (before + values item * factors item), min_add_min_mul]
      simp only [ih]

namespace Tally

/-- The count of a symbol, zero for a symbol the tally does not hold. -/
def count (tally : Tally) (symbol : Char) : Nat :=
  (tally.lookup symbol).getD 0

/-- A tally in normal form: symbols ascend, and each count is positive and within the cap. -/
structure Normal (tally : Tally) : Prop where
  ascending : tally.Pairwise fun earlier later => earlier.1 < later.1
  bounded : ∀ entry ∈ tally, 0 < entry.2 ∧ entry.2 ≤ countCeiling

/-- `tally` holds the capped counts of `word`. -/
structure Counts (tally : Tally) (word : List Char) : Prop where
  normal : tally.Normal
  count_eq : ∀ symbol, tally.count symbol = min (word.count symbol) countCeiling

/-- The tally one entry contributes to: each symbol of the entry's production gains the
entry's count. -/
def spread (table : RuleTable) (next : Tally) (entry : Char × Nat) : Except Fault Tally := do
  let production ← table.production entry.1
  pure (production.foldl (fun next out => next.add out entry.2) next)

theorem step_eq_foldlM (table : RuleTable) (tally : Tally) :
    tally.step table = tally.foldlM (spread table) [] := rfl

@[simp] theorem count_nil (query : Char) : count [] query = 0 := rfl

theorem count_cons (key : Char) (value : Nat) (rest : Tally) (query : Char) :
    count ((key, value) :: rest) query = if query = key then value else rest.count query := by
  by_cases same : query = key
  · simp [count, same]
  · simp [count, List.lookup_cons, same, char_beq_eq_false same]

theorem count_eq_zero_of_lt {key query : Char} {value : Nat} {rest : Tally}
    (ascending : ((key, value) :: rest).Pairwise fun earlier later => earlier.1 < later.1)
    (below : query < key) : count ((key, value) :: rest) query = 0 := by
  induction rest generalizing key value with
  | nil => simp [count_cons, Char.ne_of_lt below]
  | cons next rest ih =>
      obtain ⟨nextKey, nextValue⟩ := next
      rw [List.pairwise_cons] at ascending
      have nextAbove : key < nextKey := ascending.1 _ List.mem_cons_self
      rw [count_cons, if_neg (Char.ne_of_lt below),
        ih ascending.2 (Char.lt_trans below nextAbove)]

theorem count_eq_of_mem {tally : Tally} (normal : tally.Normal) {entry : Char × Nat}
    (member : entry ∈ tally) : tally.count entry.1 = entry.2 := by
  simp [count, lookup_eq_some_of_mem normal.ascending member]

theorem count_le {tally : Tally} (normal : tally.Normal) (query : Char) :
    tally.count query ≤ countCeiling := by
  cases found : tally.lookup query with
  | none => simp [count, found]
  | some value =>
      obtain ⟨before, after, split, _⟩ := List.lookup_eq_some_iff.1 found
      have bounded := normal.bounded (query, value) (by simp [split])
      simpa [count, found] using bounded.2

theorem mem_of_count_pos {tally : Tally} {query : Char} (positive : 0 < tally.count query) :
    ∃ value, (query, value) ∈ tally := by
  cases found : tally.lookup query with
  | none => simp [count, found] at positive
  | some value =>
      obtain ⟨before, after, split, _⟩ := List.lookup_eq_some_iff.1 found
      exact ⟨value, by simp [split]⟩

theorem count_add {tally : Tally}
    (ascending : tally.Pairwise fun earlier later => earlier.1 < later.1)
    (symbol : Char) (n : Nat) (query : Char) :
    (tally.add symbol n).count query =
      if query = symbol then cappedAdd (tally.count query) n else tally.count query := by
  induction tally with
  | nil => by_cases same : query = symbol <;> simp [add, count_cons, same]
  | cons entry rest ih =>
      obtain ⟨key, value⟩ := entry
      unfold add
      split
      · next below =>
          by_cases same : query = symbol
          · subst same
            simp [count_cons, count_eq_zero_of_lt ascending below]
          · simp [count_cons, same]
      · split
        · next keySame =>
            subst keySame
            by_cases same : query = symbol <;> simp [count_cons, same]
        · next notBelow different =>
            have sortedRest := (List.pairwise_cons.1 ascending).2
            by_cases atKey : query = key
            · subst atKey
              have other : query ≠ symbol := fun same => different same.symm
              simp [count_cons, other]
            · simp only [count_cons, atKey, if_false, ih sortedRest]

theorem mem_add {tally : Tally} {symbol : Char} {n : Nat} {entry : Char × Nat}
    (member : entry ∈ tally.add symbol n) :
    (entry.1 = symbol ∧ ∃ old, entry.2 = cappedAdd old n) ∨ entry ∈ tally := by
  induction tally with
  | nil =>
      rw [add, List.mem_singleton] at member
      subst member
      exact .inl ⟨rfl, 0, rfl⟩
  | cons first rest ih =>
      unfold add at member
      split at member
      · rcases List.mem_cons.1 member with rfl | kept
        · exact .inl ⟨rfl, 0, rfl⟩
        · exact .inr kept
      · split at member
        · rcases List.mem_cons.1 member with rfl | kept
          · exact .inl ⟨rfl, first.2, rfl⟩
          · exact .inr (List.mem_cons_of_mem _ kept)
        · rcases List.mem_cons.1 member with rfl | inserted
          · exact .inr List.mem_cons_self
          · rcases ih inserted with added | kept
            · exact .inl added
            · exact .inr (List.mem_cons_of_mem _ kept)

theorem add_normal {tally : Tally} (normal : tally.Normal) (symbol : Char) {n : Nat}
    (positive : 0 < n) : (tally.add symbol n).Normal := by
  constructor
  · induction tally with
    | nil => simp [add]
    | cons first rest ih =>
        have ascending := normal.ascending
        rw [List.pairwise_cons] at ascending
        have restNormal : Normal rest := ⟨ascending.2,
          fun entry member => normal.bounded entry (List.mem_cons_of_mem _ member)⟩
        unfold add
        split
        · next below =>
            refine List.Pairwise.cons ?_ (List.Pairwise.cons ascending.1 ascending.2)
            intro later member
            rcases List.mem_cons.1 member with rfl | inRest
            · exact below
            · exact Char.lt_trans below (ascending.1 later inRest)
        · split
          · next same =>
              refine List.Pairwise.cons ?_ ascending.2
              intro later inRest
              rw [same]
              exact ascending.1 later inRest
          · next notBelow different =>
              refine List.Pairwise.cons ?_ (ih restNormal)
              intro later member
              rcases mem_add member with ⟨sameKey, _⟩ | inRest
              · rw [sameKey]
                exact char_lt_of_not_lt_of_ne notBelow different
              · exact ascending.1 later inRest
  · intro entry member
    rcases mem_add member with ⟨_, old, added⟩ | kept
    · have := countCeiling_pos
      rw [added, cappedAdd]
      omega
    · exact normal.bounded entry kept

/-- Adding `n` for every symbol of a word raises each count by `n` times its occurrences,
within the cap. -/
theorem foldl_add_count {next : Tally} (normal : next.Normal) {n : Nat} (positive : 0 < n)
    (production : List Char) :
    (production.foldl (fun next out => next.add out n) next).Normal ∧
      ∀ query, (production.foldl (fun next out => next.add out n) next).count query =
        min (next.count query + n * production.count query) countCeiling := by
  induction production generalizing next with
  | nil =>
      refine ⟨normal, fun query => ?_⟩
      simp [Nat.min_eq_left (count_le normal query)]
  | cons out rest ih =>
      obtain ⟨restNormal, restCount⟩ := ih (add_normal normal out positive)
      refine ⟨restNormal, fun query => ?_⟩
      rw [List.foldl_cons, restCount, count_add normal.ascending, List.count_cons]
      by_cases same : query = out
      · subst same
        simp only [if_true, cappedAdd, beq_self_eq_true, min_min_add]
        congr 1
        ring
      · have other : (out == query) = false := by simpa using Ne.symm same
        simp [same, other]

theorem contains_of_spread {table : RuleTable} {acc next : Tally} {entry : Char × Nat}
    (spreaded : spread table acc entry = .ok next) : table.contains entry.1 = true := by
  rw [RuleTable.contains_eq_isSome]
  cases found : table.get? entry.1 with
  | none => simp [spread, RuleTable.production, found, bind, Except.bind] at spreaded
  | some rule => rfl

theorem spread_eq_error {table : RuleTable} {acc : Tally} {entry : Char × Nat} {fault : Fault}
    (failed : spread table acc entry = .error fault) :
    table.contains entry.1 = false ∧ fault = .unknownSymbol entry.1 := by
  rw [RuleTable.contains_eq_isSome]
  cases found : table.get? entry.1 with
  | none =>
      simp only [spread, RuleTable.production, found, bind, Except.bind,
        Except.error.injEq] at failed
      exact ⟨rfl, failed.symm⟩
  | some rule => simp [spread, RuleTable.production, found, bind, Except.bind, pure,
      Except.pure] at failed

/-- Spreading entries whose symbols all have rules gives each symbol the capped sum of what the
entries' productions contribute to it. -/
theorem foldlM_spread_of_contains (table : RuleTable) {acc : Tally} (normal : acc.Normal)
    {entries : Tally} (positive : ∀ entry ∈ entries, 0 < entry.2)
    (known : ∀ entry ∈ entries, table.contains entry.1 = true) :
    ∃ next, entries.foldlM (spread table) acc = .ok next ∧ next.Normal ∧
      ∀ query, next.count query = min (acc.count query +
        (entries.map fun entry => entry.2 * (table.rewritten entry.1).count query).sum)
          countCeiling := by
  induction entries generalizing acc with
  | nil =>
      exact ⟨acc, rfl, normal, fun query => by simp [Nat.min_eq_left (count_le normal query)]⟩
  | cons entry rest ih =>
      have spreaded : spread table acc entry =
          .ok ((table.rewritten entry.1).foldl (fun next out => next.add out entry.2) acc) := by
        simp [spread, RuleTable.production_of_contains (known entry List.mem_cons_self), bind,
          Except.bind, pure, Except.pure]
      obtain ⟨spreadNormal, spreadCount⟩ :=
        foldl_add_count normal (positive entry List.mem_cons_self) (table.rewritten entry.1)
      obtain ⟨next, folded, nextNormal, nextCount⟩ := ih spreadNormal
        (fun other member => positive other (List.mem_cons_of_mem _ member))
        (fun other member => known other (List.mem_cons_of_mem _ member))
      refine ⟨next, ?_, nextNormal, fun query => ?_⟩
      · rw [List.foldlM_cons, spreaded]
        exact folded
      · rw [nextCount, spreadCount, min_min_add, List.map_cons, List.sum_cons, Nat.add_assoc]

theorem foldlM_spread_contains {table : RuleTable} {acc next : Tally} {entries : Tally}
    (spreaded : entries.foldlM (spread table) acc = .ok next) :
    ∀ entry ∈ entries, table.contains entry.1 = true := by
  induction entries generalizing acc with
  | nil => simp
  | cons entry rest ih =>
      rw [List.foldlM_cons] at spreaded
      cases first : spread table acc entry with
      | error fault => simp [first, bind, Except.bind] at spreaded
      | ok middle =>
          rw [first] at spreaded
          intro other member
          rcases List.mem_cons.1 member with rfl | inRest
          · exact contains_of_spread first
          · exact ih spreaded other inRest

theorem foldlM_spread_eq_error {table : RuleTable} {acc : Tally} {entries : Tally}
    {fault : Fault} (failed : entries.foldlM (spread table) acc = .error fault) :
    ∃ entry ∈ entries, table.contains entry.1 = false ∧ fault = .unknownSymbol entry.1 := by
  induction entries generalizing acc with
  | nil => simp [pure, Except.pure] at failed
  | cons entry rest ih =>
      rw [List.foldlM_cons] at failed
      cases first : spread table acc entry with
      | error firstFault =>
          simp only [first, bind, Except.bind, Except.error.injEq] at failed
          subst failed
          exact ⟨entry, List.mem_cons_self, spread_eq_error first⟩
      | ok middle =>
          rw [first] at failed
          obtain ⟨other, member, missing⟩ := ih failed
          exact ⟨other, List.mem_cons_of_mem _ member, missing⟩

theorem nil_normal : Normal [] :=
  ⟨List.Pairwise.nil, fun _ member => by simp at member⟩

/-- A tally that counts a word holds exactly the word's symbols. -/
theorem mem_iff_of_counts {tally : Tally} {word : List Char} (counts : Counts tally word)
    {symbol : Char} : (∃ value, (symbol, value) ∈ tally) ↔ symbol ∈ word := by
  have ceiling := countCeiling_pos
  constructor
  · rintro ⟨value, member⟩
    have positive := (counts.normal.bounded _ member).1
    rw [← count_eq_of_mem counts.normal member, counts.count_eq] at positive
    exact List.count_pos_iff.1 (by simp only at positive; omega)
  · intro member
    have occurs := List.count_pos_iff.2 member
    apply mem_of_count_pos
    rw [counts.count_eq]
    omega

theorem keys_toFinset_of_counts {tally : Tally} {word : List Char} (counts : Counts tally word) :
    (tally.map Prod.fst).toFinset = word.toFinset := by
  ext symbol
  simp only [List.mem_toFinset, List.mem_map, Prod.exists, exists_and_right, exists_eq_right]
  exact mem_iff_of_counts counts

/-- Summing over a tally that counts a word, each symbol weighted by its count, is summing over
the word itself, once the sums are capped. -/
theorem sum_entries_of_counts {tally : Tally} {word : List Char} (counts : Counts tally word)
    (factors : Char → Nat) :
    min ((tally.map fun entry => entry.2 * factors entry.1).sum) countCeiling =
      min ((word.map factors).sum) countCeiling := by
  have capped : (tally.map fun entry => entry.2 * factors entry.1) =
      tally.map fun entry => min (word.count entry.1) countCeiling * factors entry.1 :=
    List.map_congr_left fun entry member => by
      rw [← counts.count_eq, count_eq_of_mem counts.normal member]
  have uncapped := min_sum_map_min_mul (fun entry => word.count entry.1)
    (fun entry => factors entry.1) tally 0
  simp only [Nat.zero_add] at uncapped
  rw [capped, uncapped]
  have keysNodup : (tally.map Prod.fst).Nodup :=
    List.pairwise_map.2 (counts.normal.ascending.imp fun below => Char.ne_of_lt below)
  have regrouped : (tally.map fun entry => word.count entry.1 * factors entry.1).sum =
      (word.map factors).sum :=
    calc (tally.map fun entry => word.count entry.1 * factors entry.1).sum
        = ((tally.map Prod.fst).map fun symbol => word.count symbol * factors symbol).sum := by
          rw [List.map_map]
          rfl
      _ = ∑ symbol ∈ (tally.map Prod.fst).toFinset, word.count symbol * factors symbol :=
          (List.sum_toFinset _ keysNodup).symm
      _ = ∑ symbol ∈ word.toFinset, word.count symbol * factors symbol := by
          rw [keys_toFinset_of_counts counts]
      _ = (word.map factors).sum := by
          rw [Finset.sum_list_map_count]
          simp only [smul_eq_mul]
  rw [regrouped]

theorem ofWord_counts (word : List Char) : Counts (ofWord word) word := by
  suffices extended : ∀ (rest before : List Char) (acc : Tally), Counts acc before →
      Counts (rest.foldl (fun tally symbol => tally.add symbol 1) acc) (before ++ rest) by
    have counted := extended word [] [] ⟨nil_normal, fun symbol => by simp⟩
    rw [List.nil_append] at counted
    exact counted
  intro rest
  induction rest with
  | nil =>
      intro before acc counts
      simpa using counts
  | cons symbol rest ih =>
      intro before acc counts
      have added : Counts (acc.add symbol 1) (before ++ [symbol]) := by
        refine ⟨add_normal counts.normal symbol Nat.one_pos, fun query => ?_⟩
        rw [count_add counts.normal.ascending, counts.count_eq, List.count_append,
          List.count_singleton]
        by_cases same : query = symbol
        · simp [same, cappedAdd, min_min_add]
        · have other : (symbol == query) = false := by simpa using Ne.symm same
          simp [same, other]
      simpa using ih (before ++ [symbol]) (acc.add symbol 1) added

theorem foldl_cappedAdd (entries : Tally) {start : Nat} (below : start ≤ countCeiling) :
    entries.foldl (fun sum entry => cappedAdd sum entry.2) start =
      min (start + (entries.map Prod.snd).sum) countCeiling := by
  induction entries generalizing start with
  | nil => simp [Nat.min_eq_left below]
  | cons entry rest ih =>
      have capped : cappedAdd start entry.2 ≤ countCeiling := Nat.min_le_right _ _
      rw [List.foldl_cons, ih capped, cappedAdd, min_min_add, List.map_cons,
        List.sum_cons, Nat.add_assoc]

/-- The total of a tally that counts a word is the word's capped length. -/
theorem total_of_counts {tally : Tally} {word : List Char} (counts : Counts tally word) :
    tally.total = min word.length countCeiling := by
  have summed := sum_entries_of_counts counts fun _ => 1
  simp only [Nat.mul_one, List.map_const', List.sum_replicate, smul_eq_mul] at summed
  rw [total, foldl_cappedAdd tally (Nat.zero_le _), Nat.zero_add, ← summed]

/-- One generation of a tally that counts a valid word counts the rewritten word. -/
theorem step_of_counts {table : RuleTable} {tally : Tally} {word : List Char}
    (counts : Counts tally word) (valid : table.validate word = .ok ()) :
    ∃ next, tally.step table = .ok next ∧ Counts next (word.flatMap table.rewritten) := by
  have known : ∀ entry ∈ tally, table.contains entry.1 = true := fun entry member =>
    (RuleTable.validate_eq_ok_iff table word).1 valid entry.1
      ((mem_iff_of_counts counts).1 ⟨entry.2, member⟩)
  obtain ⟨next, stepped, nextNormal, nextCount⟩ := foldlM_spread_of_contains table nil_normal
    (fun entry member => (counts.normal.bounded entry member).1) known
  refine ⟨next, stepped, nextNormal, fun query => ?_⟩
  rw [nextCount, count_nil, Nat.zero_add,
    sum_entries_of_counts counts fun symbol => (table.rewritten symbol).count query,
    List.count_flatMap]
  rfl

theorem validate_of_step {table : RuleTable} {tally next : Tally} {word : List Char}
    (counts : Counts tally word) (stepped : tally.step table = .ok next) :
    table.validate word = .ok () := by
  rw [step_eq_foldlM] at stepped
  have known := foldlM_spread_contains stepped
  refine (RuleTable.validate_eq_ok_iff table word).2 fun symbol member => ?_
  obtain ⟨value, inTally⟩ := (mem_iff_of_counts counts).2 member
  exact known (symbol, value) inTally

theorem step_eq_error_of_counts {table : RuleTable} {tally : Tally} {word : List Char}
    (counts : Counts tally word) {fault : Fault} (failed : tally.step table = .error fault) :
    ∃ symbol ∈ word, table.contains symbol = false ∧ fault = .unknownSymbol symbol := by
  rw [step_eq_foldlM] at failed
  obtain ⟨entry, member, missing⟩ := foldlM_spread_eq_error failed
  exact ⟨entry.1, (mem_iff_of_counts counts).1 ⟨entry.2, member⟩, missing⟩

/-- A tally that counts a word steps only when the word is valid, and then to the counts of the
rewritten word. -/
theorem counts_of_step {table : RuleTable} {tally next : Tally} {word : List Char}
    (counts : Counts tally word) (stepped : tally.step table = .ok next) :
    table.validate word = .ok () ∧ Counts next (word.flatMap table.rewritten) := by
  have valid := validate_of_step counts stepped
  obtain ⟨next', stepped', nextCounts⟩ := step_of_counts counts valid
  rw [stepped, Except.ok.injEq] at stepped'
  subst stepped'
  exact ⟨valid, nextCounts⟩

end Tally

namespace RuleTable

open Tally

variable {table : RuleTable}

theorem growthFrom_succ_of_error {tally : Tally} {fault : Fault}
    (stepped : tally.step table = .error fault) (acc : Array Nat) (generations : Nat) :
    table.growthFrom tally acc (generations + 1) = .error fault := by
  simp [growthFrom, stepped]

theorem growthFrom_succ_of_self {tally : Tally} (stepped : tally.step table = .ok tally)
    (acc : Array Nat) (generations : Nat) :
    table.growthFrom tally acc (generations + 1) = .ok acc := by
  simp [growthFrom, stepped]

theorem growthFrom_succ_of_step {tally next : Tally} (stepped : tally.step table = .ok next)
    (moved : next ≠ tally) (acc : Array Nat) (generations : Nat) :
    table.growthFrom tally acc (generations + 1) =
      table.growthFrom next (acc.push next.total) generations := by
  have unequal : (next == tally) = false := by simpa using moved
  simp only [growthFrom, stepped, unequal, Bool.false_eq_true, if_false]

/-- A tally that one generation leaves unchanged counts every later word of the run. -/
theorem counts_run_of_step_self {tally : Tally} {word : List Char} (counts : Counts tally word)
    (settled : tally.step table = .ok tally) (generations : Nat) {reached : List Char}
    (ran : table.run word generations = .ok reached) : Counts tally reached := by
  induction generations generalizing word with
  | zero =>
      cases ran
      exact counts
  | succ generations ih =>
      obtain ⟨valid, nextCounts⟩ := counts_of_step counts settled
      rw [run_succ_of_expand (expand_of_valid valid)] at ran
      exact ih nextCounts ran

/-- The lengths that a prediction appends: at most one for each generation, each the capped
length of the generation it stands for, and the last one standing for all later generations. -/
theorem growthFrom_eq_ok {tally : Tally} {word : List Char} (counts : Counts tally word)
    {acc lengths : Array Nat} {generations : Nat}
    (grown : table.growthFrom tally acc generations = .ok lengths) :
    ∃ later, lengths.toList = acc.toList ++ later ∧ later.length ≤ generations ∧
      ∀ k ≤ generations, ∀ reached, table.run word k = .ok reached →
        (min word.length countCeiling :: later)[min k later.length]? =
          some (min reached.length countCeiling) := by
  induction generations generalizing tally word acc with
  | zero =>
      rw [growthFrom, Except.ok.injEq] at grown
      subst grown
      refine ⟨[], by simp, le_refl _, fun k atMost reached ran => ?_⟩
      obtain rfl : k = 0 := by omega
      cases ran
      rfl
  | succ generations ih =>
      cases stepped : tally.step table with
      | error fault =>
          rw [growthFrom_succ_of_error stepped] at grown
          cases grown
      | ok next =>
          obtain ⟨valid, nextCounts⟩ := counts_of_step counts stepped
          have expanded := expand_of_valid valid
          by_cases same : next = tally
          · -- the tally settled: every later word has the counts, hence the length, of this one
            subst same
            rw [growthFrom_succ_of_self stepped, Except.ok.injEq] at grown
            subst grown
            refine ⟨[], by simp, Nat.zero_le _, fun k _ reached ran => ?_⟩
            have later := counts_run_of_step_self counts stepped k ran
            simp [← total_of_counts counts, ← total_of_counts later]
          · rw [growthFrom_succ_of_step stepped same] at grown
            obtain ⟨later, split, short, predicts⟩ := ih nextCounts grown
            refine ⟨min (word.flatMap table.rewritten).length countCeiling :: later, ?_,
              by simp only [List.length_cons]; omega, fun k atMost reached ran => ?_⟩
            · rw [split, Array.toList_push, total_of_counts nextCounts]
              simp
            · cases k with
              | zero =>
                  cases ran
                  rfl
              | succ k =>
                  rw [run_succ_of_expand expanded] at ran
                  rw [List.length_cons, Nat.succ_min_succ, List.getElem?_cons_succ]
                  exact predicts k (by omega) reached ran

/-- A prediction fails only at a generation of the run that holds a symbol without a rule, and
names one of its symbols without a rule. -/
theorem growthFrom_eq_error {tally : Tally} {word : List Char} (counts : Counts tally word)
    {acc : Array Nat} {generations : Nat} {fault : Fault}
    (failed : table.growthFrom tally acc generations = .error fault) :
    ∃ reached < generations, ∃ stuck, table.run word reached = .ok stuck ∧
      ∃ symbol ∈ stuck, table.contains symbol = false ∧ fault = .unknownSymbol symbol := by
  induction generations generalizing tally word acc with
  | zero => cases failed
  | succ generations ih =>
      cases stepped : tally.step table with
      | error stepFault =>
          rw [growthFrom_succ_of_error stepped, Except.error.injEq] at failed
          subst failed
          exact ⟨0, Nat.zero_lt_succ _, word, rfl, step_eq_error_of_counts counts stepped⟩
      | ok next =>
          obtain ⟨valid, nextCounts⟩ := counts_of_step counts stepped
          by_cases same : next = tally
          · subst same
            rw [growthFrom_succ_of_self stepped] at failed
            cases failed
          · rw [growthFrom_succ_of_step stepped same] at failed
            obtain ⟨reached, below, stuck, ran, missing⟩ := ih nextCounts failed
            refine ⟨reached + 1, by omega, stuck, ?_, missing⟩
            rw [run_succ_of_expand (expand_of_valid valid), ran]

/-- A prediction fails if the run reaches a generation that holds a symbol without a rule. -/
theorem growthFrom_error_of_stuck {tally : Tally} {word : List Char} (counts : Counts tally word)
    (acc : Array Nat) {generations reached : Nat} (below : reached < generations)
    {stuck : List Char} (ran : table.run word reached = .ok stuck)
    (missing : ∃ symbol ∈ stuck, table.contains symbol = false) :
    ∃ fault, table.growthFrom tally acc generations = .error fault := by
  induction generations generalizing tally word acc reached with
  | zero => omega
  | succ generations ih =>
      cases stepped : tally.step table with
      | error fault => exact ⟨fault, growthFrom_succ_of_error stepped acc generations⟩
      | ok next =>
          obtain ⟨valid, nextCounts⟩ := counts_of_step counts stepped
          obtain ⟨symbol, inStuck, unknown⟩ := missing
          by_cases same : next = tally
          · -- a settled tally holds the symbols of every later word, and they all have rules
            subst same
            have later := counts_run_of_step_self counts stepped reached ran
            have inWord := (mem_iff_of_counts counts).1 ((mem_iff_of_counts later).2 inStuck)
            have known := (validate_eq_ok_iff table word).1 valid symbol inWord
            simp [known] at unknown
          · rw [growthFrom_succ_of_step stepped same]
            cases reached with
            | zero =>
                rw [run_zero, Except.ok.injEq] at ran
                subst ran
                have known := (validate_eq_ok_iff table word).1 valid symbol inStuck
                simp [known] at unknown
            | succ reached =>
                rw [run_succ_of_expand (expand_of_valid valid)] at ran
                exact ih nextCounts _ (by omega) ran

theorem growth_of_valid {initiator : List Char} (valid : table.validate initiator = .ok ())
    (generations : Nat) :
    table.growth initiator generations =
      (table.growthFrom (ofWord initiator) #[initiator.length] generations).map Array.toList := by
  simp [growth, valid]

theorem growth_eq_error_iff {initiator : List Char} (valid : table.validate initiator = .ok ())
    {generations : Nat} {fault : Fault} :
    table.growth initiator generations = .error fault ↔
      table.growthFrom (ofWord initiator) #[initiator.length] generations = .error fault := by
  rw [growth_of_valid valid]
  cases table.growthFrom (ofWord initiator) #[initiator.length] generations <;> simp [Except.map]

theorem growth_eq_ok_iff {initiator : List Char} (valid : table.validate initiator = .ok ())
    {generations : Nat} {lengths : List Nat} :
    table.growth initiator generations = .ok lengths ↔
      ∃ grown, table.growthFrom (ofWord initiator) #[initiator.length] generations = .ok grown ∧
        grown.toList = lengths := by
  rw [growth_of_valid valid]
  cases table.growthFrom (ofWord initiator) #[initiator.length] generations <;> simp [Except.map]

/-- Growth predicts a run. It fails exactly when the run fails, both at the first generation that
holds a symbol without a rule (so with the same symbol when that generation has only one such
symbol). Otherwise it gives one length for each generation up to the one where the symbol counts
settle, each the generation's length capped at `countCeiling`, and the last length is the capped
length of every later generation. The initiator's own length is a machine word, far below the
cap. -/
theorem growth_predicts_run (table : RuleTable) (initiator : List Char) (generations : Nat)
    (valid : table.validate initiator = .ok ()) (fits : initiator.length ≤ countCeiling) :
    ((∃ fault, table.growth initiator generations = .error fault) ↔
        ∃ fault, table.run initiator generations = .error fault) ∧
      (∀ fault fault', table.growth initiator generations = .error fault →
        table.run initiator generations = .error fault' →
        ∃ reached < generations, ∃ stuck, table.run initiator reached = .ok stuck ∧
          table.expand stuck = .error fault' ∧
          (∃ symbol ∈ stuck, table.contains symbol = false ∧ fault = .unknownSymbol symbol) ∧
          (∃ symbol ∈ stuck, table.contains symbol = false ∧ fault' = .unknownSymbol symbol) ∧
          ((∀ one ∈ stuck, ∀ other ∈ stuck, table.contains one = false →
            table.contains other = false → one = other) → fault = fault')) ∧
      ∀ lengths, table.growth initiator generations = .ok lengths →
        1 ≤ lengths.length ∧ lengths.length ≤ generations + 1 ∧
        ∀ k ≤ generations, ∀ word, table.run initiator k = .ok word →
          lengths[min k (lengths.length - 1)]? = some (min word.length countCeiling) := by
  have counts := ofWord_counts initiator
  refine ⟨⟨?growthFails, ?runFails⟩, ?sameGeneration, ?predicted⟩
  case growthFails =>
    rintro ⟨fault, failed⟩
    obtain ⟨reached, below, stuck, ran, symbol, inStuck, unknown, _⟩ :=
      growthFrom_eq_error counts ((growth_eq_error_iff valid).1 failed)
    obtain ⟨stuckFault, stuckFails⟩ := expand_error_iff_missing.2 ⟨symbol, inStuck, unknown⟩
    exact ⟨stuckFault, run_eq_error_iff.2 ⟨reached, below, stuck, ran, stuckFails⟩⟩
  case runFails =>
    rintro ⟨fault, failed⟩
    obtain ⟨reached, below, stuck, ran, stuckFails⟩ := run_eq_error_iff.1 failed
    obtain ⟨growthFault, grownFails⟩ := growthFrom_error_of_stuck counts #[initiator.length]
      below ran (expand_error_iff_missing.1 ⟨fault, stuckFails⟩)
    exact ⟨growthFault, (growth_eq_error_iff valid).2 grownFails⟩
  case sameGeneration =>
    intro fault fault' growthFails runFails
    obtain ⟨reached, below, stuck, ran, symbol, inStuck, unknown, named⟩ :=
      growthFrom_eq_error counts ((growth_eq_error_iff valid).1 growthFails)
    obtain ⟨stuckFault, stuckFails⟩ := expand_error_iff_missing.2 ⟨symbol, inStuck, unknown⟩
    -- the run fails at the same generation, so with the fault of rewriting `stuck`
    have sameFault : stuckFault = fault' := by
      have failsThere := run_eq_error_iff.2 ⟨reached, below, stuck, ran, stuckFails⟩
      rw [runFails, Except.error.injEq] at failsThere
      exact failsThere.symm
    subst sameFault
    obtain ⟨before, symbol', after, split, _, unknown', named'⟩ :=
      validate_eq_error_iff.1 (expand_eq_error_iff.1 stuckFails)
    have inStuck' : symbol' ∈ stuck := by simp [split]
    refine ⟨reached, below, stuck, ran, stuckFails, ⟨symbol, inStuck, unknown, named⟩,
      ⟨symbol', inStuck', unknown', named'⟩, fun single => ?_⟩
    rw [named, named', single symbol inStuck symbol' inStuck' unknown unknown']
  case predicted =>
    intro lengths grown
    obtain ⟨grownArray, grownFrom, listed⟩ := (growth_eq_ok_iff valid).1 grown
    obtain ⟨later, split, short, predicts⟩ := growthFrom_eq_ok counts grownFrom
    have shape : lengths = initiator.length :: later := by
      rw [← listed, split]
      rfl
    subst shape
    refine ⟨by simp, by simp only [List.length_cons]; omega, fun k atMost word ran => ?_⟩
    have predicted := predicts k atMost word ran
    rwa [Nat.min_eq_left fits] at predicted

theorem growth_predicts_run_plant :
    Program.standard.rules.validate ['F'] = .ok () ∧ ['F'].length ≤ countCeiling ∧
      (((∃ fault, Program.standard.rules.growth ['F'] 4 = .error fault) ↔
          ∃ fault, Program.standard.rules.run ['F'] 4 = .error fault) ∧
        (∀ fault fault', Program.standard.rules.growth ['F'] 4 = .error fault →
          Program.standard.rules.run ['F'] 4 = .error fault' →
          ∃ reached < 4, ∃ stuck, Program.standard.rules.run ['F'] reached = .ok stuck ∧
            Program.standard.rules.expand stuck = .error fault' ∧
            (∃ symbol ∈ stuck, Program.standard.rules.contains symbol = false ∧
              fault = .unknownSymbol symbol) ∧
            (∃ symbol ∈ stuck, Program.standard.rules.contains symbol = false ∧
              fault' = .unknownSymbol symbol) ∧
            ((∀ one ∈ stuck, ∀ other ∈ stuck, Program.standard.rules.contains one = false →
              Program.standard.rules.contains other = false → one = other) → fault = fault')) ∧
        ∀ lengths, Program.standard.rules.growth ['F'] 4 = .ok lengths →
          1 ≤ lengths.length ∧ lengths.length ≤ 4 + 1 ∧
          ∀ k ≤ 4, ∀ word, Program.standard.rules.run ['F'] k = .ok word →
            lengths[min k (lengths.length - 1)]? = some (min word.length countCeiling)) :=
  ⟨by decide, by decide, growth_predicts_run _ _ _ (by decide) (by decide)⟩

example : Program.standard.rules.growth ['F'] 4 = .ok [1, 11, 61, 311, 1561] := by decide

end RuleTable

end PlantPlot
