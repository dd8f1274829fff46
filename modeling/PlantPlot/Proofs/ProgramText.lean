import Mathlib
import PlantPlot.Proofs.LineFormat

/-!
# What program text does to a program

Program text is read line by line (`PlantPlot.Proofs.LineFormat`). The lines that set something
act on the program as `Program.build` says, without reading it: the last count, the last angle
and the last initiator win over the program's own, and the rules are defined in turn, each over
the rules before it. Text with a malformed line is refused at the first one, by its number.

Main statement: `apply_follows_line_format`, which gives the answer of `Program.apply` for every
program and every text.
-/

namespace PlantPlot

open Text

namespace Directive

/-- The count that a directive sets, if it sets one. -/
def count? : Directive → Option Nat
  | .generations count => some count
  | _ => none

/-- The angle that a directive sets, if it sets one. -/
def angle? : Directive → Option Float32
  | .delta angle => some angle
  | _ => none

/-- The initiator that a directive sets, if it sets one. -/
def word? : Directive → Option (List Char)
  | .initiator word => some word
  | _ => none

/-- The symbol and production that a directive defines, if it defines a rule. -/
def definition? : Directive → Option (Char × List Char)
  | .rule symbol production => some (symbol, production)
  | _ => none

end Directive

namespace RuleTable

/-- The table with each symbol given the rule that rewrites it to its production, in turn. -/
def defineAll (table : RuleTable) (definitions : List (Char × List Char)) : RuleTable :=
  definitions.foldl (fun rules definition => rules.define definition.1 definition.2) table

end RuleTable

namespace Program

/-- The program that directives describe on top of `program`: the last count, angle and
initiator among them replace the program's own, and their rules are defined in turn. -/
def build (program : Program) (directives : List Directive) : Program where
  generations := ((directives.filterMap Directive.count?).getLast?).getD program.generations
  delta := ((directives.filterMap Directive.angle?).getLast?).getD program.delta
  initiator := ((directives.filterMap Directive.word?).getLast?).getD program.initiator
  rules := program.rules.defineAll (directives.filterMap Directive.definition?)

section Build

variable (program : Program)

@[simp]
theorem build_nil : program.build [] = program := rfl

/-- Building starts with the first directive, applied as `direct` applies it. -/
theorem build_cons (directive : Directive) (directives : List Directive) :
    program.build (directive :: directives) = (program.direct directive).build directives := by
  -- the directive's own field is the default of the last one set after it; the others stay
  cases directive <;>
    simp only [build, direct, Directive.count?, Directive.angle?, Directive.word?,
      Directive.definition?, RuleTable.defineAll, List.filterMap_cons, List.getLast?_cons,
      Option.getD_some, List.foldl_cons]

theorem build_append (first second : List Directive) :
    program.build (first ++ second) = (program.build first).build second := by
  induction first generalizing program with
  | nil => rfl
  | cons directive first ih => rw [List.cons_append, build_cons, build_cons, ih]

theorem build_singleton (directive : Directive) : program.build [directive] = program.direct directive := by
  rw [build_cons, build_nil]

theorem build_reduceOption_cons (meaning : Option Directive) (meanings : List (Option Directive)) :
    program.build (meaning :: meanings).reduceOption =
      (program.build meaning.toList).build meanings.reduceOption := by
  cases meaning with
  | none => rw [List.reduceOption_cons_of_none, Option.toList_none, build_nil]
  | some directive => rw [List.reduceOption_cons_of_some, Option.toList_some, build_singleton, build_cons]

end Build

section Lines

variable {program : Program} {number : Nat} {line : String}

theorem applyLines_cons_of_read {meaning : Option Directive}
    (read : Directive.ofLine? line = .ok meaning) (rest : List String) :
    program.applyLines number (line :: rest) =
      (program.build meaning.toList).applyLines (number + 1) rest := by
  cases meaning <;> simp [applyLines, read, build_singleton]

theorem applyLines_cons_of_fault {fault : LineFault}
    (refused : Directive.ofLine? line = .error fault) (rest : List String) :
    program.applyLines number (line :: rest) = .error (.parse number fault) := by
  simp [applyLines, refused]

/-- Lines that each mean something are applied as `build` says, whatever lines follow them. -/
theorem applyLines_append {before : List String} {meanings : List (Option Directive)}
    (means : List.Forall₂ LineMeans before meanings) (program : Program) (number : Nat)
    (rest : List String) :
    program.applyLines number (before ++ rest) =
      (program.build meanings.reduceOption).applyLines (number + before.length) rest := by
  induction means generalizing program number with
  | nil => rfl
  | @cons line meaning lines meanings lineMeans _ ih =>
    rw [List.cons_append, applyLines_cons_of_read (Directive.ofLine?_eq_ok_iff.2 lineMeans), ih,
      List.length_cons, ← Nat.add_assoc, Nat.add_right_comm number, build_reduceOption_cons]

/-- The lines are all applied exactly when each means something, and then the program is the
one that `build` gives. -/
theorem applyLines_eq_ok_iff {lines : List String} {next : Program} :
    program.applyLines number lines = .ok next ↔
      ∃ meanings, List.Forall₂ LineMeans lines meanings ∧ next = program.build meanings.reduceOption := by
  constructor
  · intro applied
    induction lines generalizing program number with
    | nil => exact ⟨[], .nil, (Except.ok.inj applied).symm⟩
    | cons line rest ih =>
      cases read : Directive.ofLine? line with
      | error fault => rw [applyLines_cons_of_fault read] at applied; cases applied
      | ok meaning =>
        rw [applyLines_cons_of_read read] at applied
        obtain ⟨meanings, means, rfl⟩ := ih applied
        exact ⟨meaning :: meanings, .cons (Directive.ofLine?_eq_ok_iff.1 read) means,
          (build_reduceOption_cons _ _ _).symm⟩
  · rintro ⟨meanings, means, rfl⟩
    rw [← List.append_nil lines, applyLines_append means]
    rfl

theorem exists_forall₂_lineMeans {lines : List String} (wellFormed : ∀ line ∈ lines, ¬ Malformed line) :
    ∃ meanings, List.Forall₂ LineMeans lines meanings := by
  induction lines with
  | nil => exact ⟨[], .nil⟩
  | cons line rest ih =>
    have sets : ∃ meaning, LineMeans line meaning := by
      by_contra nothing
      exact wellFormed line (by simp) (Directive.malformed_iff_not_lineMeans.2 fun meaning means =>
        nothing ⟨meaning, means⟩)
    obtain ⟨meaning, lineMeans⟩ := sets
    obtain ⟨meanings, means⟩ := ih fun other member => wellFormed other (by simp [member])
    exact ⟨meaning :: meanings, .cons lineMeans means⟩

end Lines

theorem apply_of_applyLines {program : Program} {text : String} {outcome : Except Fault Program}
    (applied : program.applyLines 1 (lines text) = outcome) :
    program.apply text = outcome.bind fun next => next.validate.map fun _ => next := by
  rw [apply, applied]
  rcases outcome with fault | next
  · rfl
  · cases checked : next.validate <;> simp [checked, Except.bind, Except.map]

/-- Text applies exactly when each of its lines means something and the program that `build`
makes of their directives passes `validate`. -/
theorem apply_eq_ok_iff {program : Program} {text : String} {next : Program} :
    program.apply text = .ok next ↔
      ∃ meanings, List.Forall₂ LineMeans ((lineFormat text.toList).map String.ofList) meanings ∧
        next = program.build meanings.reduceOption ∧ next.validate = .ok () := by
  rw [← lines_eq_lineFormat]
  constructor
  · intro applied
    cases lines : program.applyLines 1 (Text.lines text) with
    | error fault => rw [apply_of_applyLines lines] at applied; cases applied
    | ok built =>
      obtain ⟨meanings, means, rfl⟩ := applyLines_eq_ok_iff.1 lines
      rw [apply_of_applyLines lines] at applied
      cases checked : (program.build meanings.reduceOption).validate with
      | error fault => simp [Except.bind, Except.map, checked] at applied
      | ok =>
        simp only [Except.bind, Except.map, checked, Except.ok.injEq] at applied
        subst applied
        exact ⟨meanings, means, rfl, checked⟩
  · rintro ⟨meanings, means, rfl, checked⟩
    rw [apply_of_applyLines (applyLines_eq_ok_iff.2 ⟨meanings, means, rfl⟩)]
    simp [checked, Except.bind, Except.map]

/-- `Program.apply` reads program text as its line format says. The lines are those of
`lineFormat`, numbered from one. If a line is malformed, the text is refused at the first such
line, by its number. Otherwise every line means something, and the program is the one that
`build` makes of their directives, if it passes `validate`. -/
theorem apply_follows_line_format (program : Program) (text : String) :
    (∀ before line after, (lineFormat text.toList).map String.ofList = before ++ line :: after →
        (∀ earlier ∈ before, ¬ Malformed earlier) → Malformed line →
        ∃ fault, program.apply text = .error (.parse (before.length + 1) fault)) ∧
      ((∀ line ∈ (lineFormat text.toList).map String.ofList, ¬ Malformed line) →
        ∃ meanings, List.Forall₂ LineMeans ((lineFormat text.toList).map String.ofList) meanings ∧
          program.apply text =
            (program.build meanings.reduceOption).validate.map fun _ => program.build meanings.reduceOption) := by
  rw [← lines_eq_lineFormat]
  constructor
  · intro before line after split wellFormed malformed
    obtain ⟨meanings, means⟩ := exists_forall₂_lineMeans wellFormed
    obtain ⟨fault, refused⟩ := Directive.ofLine?_error_iff.2 malformed
    have applied := applyLines_append means program 1 (line :: after)
    rw [← split, applyLines_cons_of_fault refused, Nat.add_comm] at applied
    exact ⟨fault, apply_of_applyLines applied⟩
  · intro wellFormed
    obtain ⟨meanings, means⟩ := exists_forall₂_lineMeans wellFormed
    exact ⟨meanings, means, apply_of_applyLines (applyLines_eq_ok_iff.2 ⟨meanings, means, rfl⟩)⟩

/-- Text whose first line has no colon is refused at line one, whatever follows. -/
theorem apply_refuses_first_malformed_line :
    (lineFormat "x\nn: 3".toList).map String.ofList = [] ++ "x" :: ["n: 3"] ∧ Malformed "x" ∧
      ∃ fault, standard.apply "x\nn: 3" = .error (.parse 1 fault) :=
  have malformed : Malformed "x" := ⟨by decide, .inl (by decide)⟩
  ⟨by decide, malformed,
    (apply_follows_line_format standard "x\nn: 3").1 [] "x" ["n: 3"] (by decide) (by simp) malformed⟩

end Program

end PlantPlot
