import Mathlib
import PlantPlot.Proofs.ProgramText
import PlantPlot.Proofs.SessionLoad

/-!
# Program text in layers

Each line of program text overwrites what it sets, whatever the program held before. So text
applied to a program that it already describes changes nothing, and two texts applied one after
the other act as the one text made of both, joined at a line feed. A line of the first text that
ends with a carriage return still means the same when the line feed of the join follows it, and
the last, unfinished line of the first text becomes a line of its own.

Main statement: `apply_idempotent_and_sequential`, with the same law for loading text into a
session.
-/

namespace PlantPlot

open Text

namespace RuleTable

theorem lookup_eq_none_of_below {entries : List (Char × Rule)} {symbol : Char}
    (below : ∀ entry ∈ entries, symbol < entry.1) : entries.lookup symbol = none := by
  rw [List.lookup_eq_none_iff]
  intro entry member
  simpa using (below entry member).ne

/-- Ascending entry lists with the same rule for every symbol are the same list. -/
theorem entries_eq_of_lookup {first second : List (Char × Rule)} (ascending : KeysAscend first)
    (ascending' : KeysAscend second) (same : ∀ symbol, first.lookup symbol = second.lookup symbol) :
    first = second := by
  induction first generalizing second with
  | nil =>
    cases second with
    | nil => rfl
    | cons entry rest =>
      obtain ⟨key, rule⟩ := entry
      simpa using same key
  | cons entry rest ih =>
    obtain ⟨key, rule⟩ := entry
    cases second with
    | nil => simpa using same key
    | cons entry' rest' =>
      obtain ⟨key', rule'⟩ := entry'
      rw [KeysAscend, List.pairwise_cons] at ascending ascending'
      -- neither first key can be below the other: the other list has no rule for it
      have keys : key = key' := by
        rcases lt_trichotomy key key' with below | equal | above
        · have missing : ((key', rule') :: rest').lookup key = none :=
            lookup_eq_none_of_below fun later member => by
              rcases List.mem_cons.1 member with rfl | inRest
              · exact below
              · exact below.trans (ascending'.1 later inRest)
          simpa [missing] using same key
        · exact equal
        · have missing : ((key, rule) :: rest).lookup key' = none :=
            lookup_eq_none_of_below fun later member => by
              rcases List.mem_cons.1 member with rfl | inRest
              · exact above
              · exact above.trans (ascending.1 later inRest)
          simpa [missing] using (same key').symm
      subst keys
      have rules : rule = rule' := by simpa using same key
      subst rules
      congr 1
      apply ih ascending.2 ascending'.2
      intro symbol
      by_cases head : symbol = key
      · rw [head, lookup_eq_none_of_below ascending.1, lookup_eq_none_of_below ascending'.1]
      · simpa [List.lookup_cons, char_beq_eq_false head] using same symbol

theorem ext_get? {first second : RuleTable} (same : ∀ symbol, first.get? symbol = second.get? symbol) :
    first = second := by
  cases first
  cases second
  congr
  exact entries_eq_of_lookup ‹_› ‹_› same

variable (table : RuleTable) (definitions : List (Char × List Char)) {symbol : Char}

theorem defineAll_cons (definition : Char × List Char) :
    table.defineAll (definition :: definitions) =
      (table.define definition.1 definition.2).defineAll definitions := rfl

theorem get?_define (production : List Char) (query : Char) :
    (table.define symbol production).get? query =
      if query = symbol then some ⟨production, Effect.conventional symbol⟩ else table.get? query :=
  get?_insert table symbol _ query

theorem get?_defineAll_of_not_mem (untouched : symbol ∉ definitions.map Prod.fst) :
    (table.defineAll definitions).get? symbol = table.get? symbol := by
  induction definitions generalizing table with
  | nil => rfl
  | cons definition rest ih =>
    simp only [List.map_cons, List.mem_cons, not_or] at untouched
    rw [defineAll_cons, ih _ untouched.2, get?_define, if_neg untouched.1]

/-- A symbol that the definitions define has the rule they give it last, whatever the table. -/
theorem get?_defineAll_of_mem (defined : symbol ∈ definitions.map Prod.fst) (other : RuleTable) :
    (table.defineAll definitions).get? symbol = (other.defineAll definitions).get? symbol := by
  induction definitions generalizing table other with
  | nil => cases defined
  | cons definition rest ih =>
    rw [defineAll_cons, defineAll_cons]
    by_cases later : symbol ∈ rest.map Prod.fst
    · exact ih _ later _
    · -- the head defines it, and nothing after changes it
      have first : symbol = definition.1 := by simpa [later] using defined
      rw [get?_defineAll_of_not_mem _ _ later, get?_defineAll_of_not_mem _ _ later, get?_define,
        get?_define, if_pos first, if_pos first]

theorem defineAll_defineAll_self : (table.defineAll definitions).defineAll definitions = table.defineAll definitions := by
  apply ext_get?
  intro symbol
  by_cases defined : symbol ∈ definitions.map Prod.fst
  · exact get?_defineAll_of_mem _ _ defined _
  · exact get?_defineAll_of_not_mem _ _ defined

end RuleTable

namespace Program

theorem build_build_self (program : Program) (directives : List Directive) :
    (program.build directives).build directives = program.build directives := by
  have settled {α : Type} (last : Option α) (default : α) :
      last.getD (last.getD default) = last.getD default := by
    cases last <;> rfl
  simp only [build, settled, RuleTable.defineAll_defineAll_self]

end Program

namespace Text

theorem trim_append_blank {chars : List Char} {c : Char} (blank : isBlank c = true) :
    trim (String.ofList (chars ++ [c])) = trim (String.ofList chars) := by
  simp only [trim, String.toList_ofList, List.dropWhile_append]
  cases leading : (chars.dropWhile isBlank).isEmpty
  · -- a character that is not blank stays, and the blank after it is trimmed from the end
    simp [blank]
  · rw [List.isEmpty_iff] at leading
    simp [leading, List.dropWhile, blank]

theorem not_blank_colon : isBlank ':' = false := by decide

theorem lineMeans_append_blank {chars : List Char} {c : Char} {meaning : Option Directive}
    (blank : isBlank c = true) (means : LineMeans (String.ofList (chars ++ [c])) meaning) :
    LineMeans (String.ofList chars) meaning := by
  cases means with
  | blank empty =>
    rw [trim_append_blank blank] at empty
    exact .blank empty
  | directive splits keyValue =>
    obtain ⟨before, after, split, first, rfl, rfl⟩ := splits
    rw [String.toList_ofList] at split
    have colon : ':' ∈ chars := by
      have member : ':' ∈ chars ++ [c] := by rw [split]; simp
      rcases List.mem_append.1 member with inChars | isLast
      · exact inChars
      · rw [← List.mem_singleton.1 isLast, not_blank_colon] at blank
        cases blank
    -- the first colon of the shorter line is the first colon of the longer one
    obtain ⟨before', after', split', first'⟩ := exists_first_colon colon
    have longer : SplitsAs (String.ofList (chars ++ [c])) (trim (String.ofList before'))
        (trim (String.ofList after')) := by
      refine ⟨before', after' ++ [c], ?_, first', rfl, (trim_append_blank blank).symm⟩
      rw [String.toList_ofList, split']
      simp
    obtain ⟨sameKey, sameValue⟩ :=
      SplitsAs.unique ⟨before, after, by rw [String.toList_ofList, split], first, rfl, rfl⟩ longer
    rw [sameKey, sameValue] at keyValue
    exact .directive ⟨before', after', by rw [String.toList_ofList, split'], first', rfl, rfl⟩ keyValue

theorem lineMeans_dropReturn {piece : List Char} {meaning : Option Directive}
    (means : LineMeans (String.ofList piece) meaning) :
    LineMeans (String.ofList (dropReturn piece)) meaning := by
  unfold dropReturn
  split
  · next ends =>
    obtain ⟨body, rfl⟩ := List.getLast?_eq_some_iff.1 ends
    rw [List.dropLast_concat]
    exact lineMeans_append_blank (by decide) means
  · exact means

/-- The pieces of a text, each ended by a line feed, mean what its lines mean, and perhaps one
blank line more. -/
theorem directives_of_pieces {pieces : List (List Char)} {meanings : List (Option Directive)}
    (means : List.Forall₂ LineMeans ((linesOfPieces pieces).map String.ofList) meanings) :
    ∃ meanings', List.Forall₂ LineMeans ((pieces.map dropReturn).map String.ofList) meanings' ∧
      meanings'.reduceOption = meanings.reduceOption := by
  induction pieces using linesOfPieces.induct generalizing meanings with
  | case1 => exact ⟨[], .nil, by cases means; rfl⟩
  | case2 =>
    -- an empty last piece is no line, but once ended it is a blank line
    cases means
    exact ⟨[none], .cons (.blank (by decide)) .nil, rfl⟩
  | case3 last filled =>
    simp only [linesOfPieces, if_neg filled, List.map_cons, List.map_nil,
      List.forall₂_cons_left_iff, List.forall₂_nil_left_iff] at means
    obtain ⟨meaning, _, lineMeans, rfl, rfl⟩ := means
    exact ⟨_, .cons (lineMeans_dropReturn lineMeans) .nil, rfl⟩
  | case4 piece rest more ih =>
    rw [linesOfPieces_cons_of_ne_nil piece more, List.map_cons, List.forall₂_cons_left_iff] at means
    obtain ⟨meaning, later, lineMeans, laterMean, rfl⟩ := means
    obtain ⟨later', laterMean', reduced⟩ := ih laterMean
    refine ⟨meaning :: later', .cons lineMeans laterMean', ?_⟩
    cases meaning with
    | none => simpa [List.reduceOption_cons_of_none] using reduced
    | some directive => simpa [List.reduceOption_cons_of_some] using reduced

end Text

namespace Program

variable {program middle last : Program}

theorem apply_apply_self {text : String} (applied : program.apply text = .ok middle) :
    middle.apply text = .ok middle := by
  obtain ⟨meanings, means, rfl, checked⟩ := apply_eq_ok_iff.1 applied
  exact apply_eq_ok_iff.2 ⟨meanings, means, (build_build_self _ _).symm, checked⟩

theorem apply_join {first second : String} (appliedFirst : program.apply first = .ok middle)
    (appliedSecond : middle.apply second = .ok last) :
    program.apply (first ++ "\n" ++ second) = .ok last := by
  obtain ⟨meanings, means, rfl, -⟩ := apply_eq_ok_iff.1 appliedFirst
  obtain ⟨later, laterMean, rfl, checked⟩ := apply_eq_ok_iff.1 appliedSecond
  obtain ⟨meanings', means', reduced⟩ := directives_of_pieces means
  refine apply_eq_ok_iff.2 ⟨meanings' ++ later, ?_, ?_, checked⟩
  · have joined : (first ++ "\n" ++ second).toList = first.toList ++ '\n' :: second.toList := by
      simp
    rw [joined, lineFormat_join, List.map_append]
    exact List.rel_append means' laterMean
  · rw [List.reduceOption_append, reduced, build_append]

end Program

namespace Session

/-- Loading after a load is loading into the session as it was: a load keeps nothing of the
program it replaces. -/
theorem load_after_load {session middle : Session} {program : Program}
    (loaded : session.load program = .ok middle) (next : Program) :
    middle.load next = session.load next := by
  obtain ⟨-, commands, -, rfl⟩ := load_eq_ok loaded
  rfl

theorem loadText_join {session middle last : Session} {first second : String}
    (loadedFirst : session.loadText first = .ok middle) (loadedSecond : middle.loadText second = .ok last) :
    session.loadText (first ++ "\n" ++ second) = .ok last := by
  obtain ⟨program, appliedFirst, loaded⟩ := loadText_eq_ok loadedFirst
  obtain ⟨next, appliedSecond, loadedNext⟩ := loadText_eq_ok loadedSecond
  have active : middle.program = program := (loaded_of_load loaded).program_eq
  rw [active] at appliedSecond
  rw [loadText, Program.apply_join appliedFirst appliedSecond, ← loadedNext, load_after_load loaded]

end Session

/-- Program text is a layer of overwrites. Applied again to the program it gave, it gives that
program again, field for field. Two texts applied in turn give what the one text made of both,
joined at a line feed, gives; and so two loads of text into a session leave it as one load of
the joined text does. -/
theorem apply_idempotent_and_sequential :
    (∀ (program next : Program) text, program.apply text = .ok next → next.apply text = .ok next) ∧
      (∀ (program middle last : Program) first second, program.apply first = .ok middle →
        middle.apply second = .ok last → program.apply (first ++ "\n" ++ second) = .ok last) ∧
      (∀ (session middle last : Session) first second, session.loadText first = .ok middle →
        middle.loadText second = .ok last → session.loadText (first ++ "\n" ++ second) = .ok last) :=
  ⟨fun _ _ _ => Program.apply_apply_self, fun _ _ _ _ _ => Program.apply_join,
    fun _ _ _ _ _ => Session.loadText_join⟩

/-- A first text whose last line ends with a carriage return, and a second text that redefines
a rule of the program. -/
theorem plant_texts_join :
    Program.standard.apply "n: 3\r" = .ok { Program.standard with generations := 3 } ∧
      ({ Program.standard with generations := 3 } : Program).apply "F: F+F" =
        .ok { Program.standard with generations := 3, rules := Program.standard.rules.define 'F' ['F', '+', 'F'] } ∧
      Program.standard.apply ("n: 3\r" ++ "\n" ++ "F: F+F") =
        .ok { Program.standard with generations := 3, rules := Program.standard.rules.define 'F' ['F', '+', 'F'] } :=
  have first : Program.standard.apply "n: 3\r" = .ok { Program.standard with generations := 3 } := by rfl
  have second : ({ Program.standard with generations := 3 } : Program).apply "F: F+F" =
      .ok { Program.standard with generations := 3, rules := Program.standard.rules.define 'F' ['F', '+', 'F'] } := by
    rfl
  ⟨first, second, apply_idempotent_and_sequential.2.1 _ _ _ _ _ first second⟩

end PlantPlot
