import Mathlib
import PlantPlot.Program.Text

/-!
# The line format of program text

The format of program text, said without the parser. A text is cut into lines at its line feeds,
a carriage return right before a line feed belonging to the line break (`lineFormat`); the
parser cuts the same lines (`lines_eq_lineFormat`). A line is blank when trimming leaves nothing
of it. Any other line is `key:value`, cut at its first colon, with key and value trimmed
(`SplitsAs`), and sets what its key says (`LineMeans`): `n` a count below `2 ^ 32` written in
decimal digits after an optional plus sign (`WritesCount`), `delta` a finite binary32 number,
`ic` an initiator that is not empty, and any other key that is not empty the rule of its first
character. A line that sets nothing is malformed (`Malformed`).

Main statements: `ofLine?_eq_ok_iff` and `ofLine?_error_iff`. The parser reads every line as
the format says, and refuses exactly the malformed lines.
-/

namespace PlantPlot

namespace Text

/-- A piece of text that a line feed ends, without the carriage return right before the line
feed. -/
def dropReturn (piece : List Char) : List Char :=
  if piece.getLast? = some '\r' then piece.dropLast else piece

/-- The lines of the pieces of a text between its line feeds. Every piece but the last was ended
by a line feed and loses the carriage return right before it; the last piece is a line when it
is not empty. -/
def linesOfPieces : List (List Char) → List (List Char)
  | [] => []
  | [last] => if last = [] then [] else [last]
  | piece :: rest => dropReturn piece :: linesOfPieces rest

/-- The lines of a text: the text cut at each line feed, with the carriage return right before
a line feed dropped. A final line feed starts no further line. -/
def lineFormat (text : List Char) : List (List Char) :=
  linesOfPieces (text.splitOn '\n')

section Lines

variable {piece : List Char}

theorem linesOfPieces_cons_of_ne_nil (piece : List Char) {rest : List (List Char)} (more : rest ≠ []) :
    linesOfPieces (piece :: rest) = dropReturn piece :: linesOfPieces rest := by
  cases rest with
  | nil => contradiction
  | cons next later => rfl

theorem linesOfPieces_append (pieces : List (List Char)) {more : List (List Char)} (nonempty : more ≠ []) :
    linesOfPieces (pieces ++ more) = pieces.map dropReturn ++ linesOfPieces more := by
  induction pieces with
  | nil => rfl
  | cons piece rest ih =>
    rw [List.cons_append, linesOfPieces_cons_of_ne_nil _ (by simp [nonempty]), ih]
    rfl

/-- Two texts joined at a line feed: every piece of the first is ended by a line feed, and the
lines of the second follow. -/
theorem lineFormat_join (first second : List Char) :
    lineFormat (first ++ '\n' :: second) = (first.splitOn '\n').map dropReturn ++ lineFormat second := by
  rw [lineFormat, lineFormat, List.splitOn_eq_splitOnP, List.splitOn_eq_splitOnP,
    List.splitOnP_append_cons first second (by simp)]
  exact linesOfPieces_append _ (List.splitOnP_ne_nil _ second)

theorem splitOn_of_no_break (noBreak : '\n' ∉ piece) : piece.splitOn '\n' = [piece] := by
  rw [List.splitOn_eq_splitOnP,
    List.splitOnP_eq_singleton fun c member => by simp [ne_of_mem_of_not_mem member noBreak]]

theorem lineFormat_of_no_break (noBreak : '\n' ∉ piece) :
    lineFormat piece = if piece = [] then [] else [piece] := by
  rw [lineFormat, splitOn_of_no_break noBreak]
  rfl

theorem lineFormat_append_break (noBreak : '\n' ∉ piece) (rest : List Char) :
    lineFormat (piece ++ '\n' :: rest) = dropReturn piece :: lineFormat rest := by
  rw [lineFormat_join, splitOn_of_no_break noBreak]
  rfl

/-- A line feed ends the current line, without the carriage return right before it. -/
theorem linesFrom_break (current : List Char) (done : Array String) (rest : List Char) :
    linesFrom current done ('\n' :: rest) =
      linesFrom [] (done.push (String.ofList (dropReturn current.reverse))) rest := by
  cases current with
  | nil => rfl
  | cons c earlier =>
    by_cases atReturn : c = '\r'
    · subst atReturn
      simp [linesFrom, dropReturn]
    · simp [linesFrom, dropReturn, atReturn]

theorem linesFrom_other {c : Char} (other : c ≠ '\n') (current : List Char) (done : Array String)
    (rest : List Char) : linesFrom current done (c :: rest) = linesFrom (c :: current) done rest := by
  cases current <;> simp [linesFrom, other]

/-- Cutting a text with the current line held in reverse gives the lines of the format, the
current line's characters first. -/
theorem linesFrom_toList (current : List Char) (done : Array String) (rest : List Char)
    (noBreak : '\n' ∉ current) :
    (linesFrom current done rest).toList =
      done.toList ++ (lineFormat (current.reverse ++ rest)).map String.ofList := by
  -- induction on the rest of the text; the current line never holds a line feed
  induction rest generalizing current done with
  | nil =>
    rw [List.append_nil, lineFormat_of_no_break (by simpa using noBreak)]
    cases current <;> simp [linesFrom]
  | cons c rest ih =>
    by_cases atBreak : c = '\n'
    · subst atBreak
      rw [lineFormat_append_break (by simpa using noBreak), linesFrom_break,
        ih [] _ List.not_mem_nil]
      simp
    · rw [linesFrom_other atBreak, ih (c :: current) done (by simp [Ne.symm atBreak, noBreak])]
      simp

/-- The parser cuts text into the lines of the format. -/
theorem lines_eq_lineFormat (text : String) :
    lines text = (lineFormat text.toList).map String.ofList := by
  rw [lines]
  simpa using linesFrom_toList [] #[] text.toList List.not_mem_nil

end Lines

section Trim

theorem trim_eq_empty_iff {text : String} :
    trim text = "" ↔ ∀ c ∈ text.toList, isBlank c = true := by
  rw [trim, String.ofList_eq_empty_iff, List.reverse_eq_nil_iff, List.dropWhile_eq_nil_iff]
  simp only [List.mem_reverse]
  constructor
  · intro allBlank
    -- a character that is not blank would be the first one the leading trim keeps
    have kept : text.toList.dropWhile isBlank = [] := by
      by_contra nonempty
      have first := List.head_dropWhile_not isBlank nonempty
      rw [allBlank _ (List.head_mem nonempty)] at first
      cases first
    exact List.dropWhile_eq_nil_iff.1 kept
  · intro allBlank c member
    exact allBlank c (List.dropWhile_subset isBlank member)

end Trim

section Split

/-- The line is `key:value`: cut at its first colon, the text before the colon, trimmed, is `key`,
and the text after it, trimmed, is `value`. -/
def SplitsAs (line key value : String) : Prop :=
  ∃ before after, line.toList = before ++ ':' :: after ∧ ':' ∉ before ∧
    key = trim (String.ofList before) ∧ value = trim (String.ofList after)

theorem exists_first_colon {line : List Char} (colon : ':' ∈ line) :
    ∃ before after, line = before ++ ':' :: after ∧ ':' ∉ before := by
  induction line with
  | nil => cases colon
  | cons c rest ih =>
    by_cases atColon : c = ':'
    · exact ⟨[], rest, by rw [atColon]; rfl, List.not_mem_nil⟩
    · obtain ⟨before, after, split, first⟩ := ih (by simpa [Ne.symm atColon] using colon)
      exact ⟨c :: before, after, by rw [split]; rfl, by simp [Ne.symm atColon, first]⟩

theorem span_of_first_colon {line before after : List Char} (split : line = before ++ ':' :: after)
    (first : ':' ∉ before) : line.span (· ≠ ':') = (before, ':' :: after) := by
  have noColon : ∀ c ∈ before, decide (c ≠ ':') = true :=
    fun c member => by simp [ne_of_mem_of_not_mem member first]
  rw [List.span_eq_takeWhile_dropWhile, split, List.takeWhile_append_of_pos noColon,
    List.dropWhile_append_of_pos noColon]
  simp

theorem span_of_no_colon {line : List Char} (noColon : ':' ∉ line) :
    line.span (· ≠ ':') = (line, []) := by
  have allOther : ∀ c ∈ line, decide (c ≠ ':') = true :=
    fun c member => by simp [ne_of_mem_of_not_mem member noColon]
  rw [List.span_eq_takeWhile_dropWhile, List.takeWhile_eq_self_iff.2 allOther,
    List.dropWhile_eq_nil_iff.2 allOther]

/-- A line has one first colon, so one key and one value. -/
theorem SplitsAs.unique {line key value key' value' : String} (splits : SplitsAs line key value)
    (splits' : SplitsAs line key' value') : key = key' ∧ value = value' := by
  obtain ⟨before, after, split, first, rfl, rfl⟩ := splits
  obtain ⟨before', after', split', first', rfl, rfl⟩ := splits'
  have same := (span_of_first_colon split first).symm.trans (span_of_first_colon split' first')
  simp only [Prod.mk.injEq, List.cons.injEq, true_and] at same
  rw [same.1, same.2]
  exact ⟨rfl, rfl⟩

theorem not_blank_of_colon {line : String} (colon : ':' ∈ line.toList) : trim line ≠ "" := by
  rw [Ne, trim_eq_empty_iff]
  intro allBlank
  cases allBlank ':' colon

end Split

section Count

/-- The value of decimal digits, the most significant first. -/
def decimalValue (digits : List Char) : Nat :=
  Nat.ofDigits 10 (digits.reverse.map fun c => c.toNat - '0'.toNat)

/-- The text writes the count: one or more ASCII digits after an optional plus sign, of a value
below `2 ^ 32`. -/
def WritesCount (text : String) (count : Nat) : Prop :=
  ∃ digits, (text.toList = digits ∨ text.toList = '+' :: digits) ∧ digits ≠ [] ∧
    (∀ c ∈ digits, c.isDigit = true) ∧ count = decimalValue digits ∧ count < 2 ^ 32

theorem foldl_digits (digits : List Char) :
    digits.foldl (fun value c => 10 * value + (c.toNat - '0'.toNat)) 0 = decimalValue digits := by
  induction digits using List.reverseRecOn with
  | nil => rfl
  | append_singleton digits last ih =>
    rw [List.foldl_append, ih]
    simp only [decimalValue, List.reverse_append, List.reverse_singleton, List.singleton_append,
      List.map_cons, Nat.ofDigits_cons, List.foldl_cons, List.foldl_nil]
    omega

theorem digitsValue?_eq_some_iff {digits : List Char} {value : Nat} :
    digitsValue? digits = some value ↔
      digits ≠ [] ∧ (∀ c ∈ digits, c.isDigit = true) ∧ value = decimalValue digits := by
  unfold digitsValue?
  split
  · next refused =>
    simp only [Bool.or_eq_true, List.isEmpty_iff, Bool.not_eq_true', List.all_eq_false] at refused
    simp only [reduceCtorEq, false_iff, not_and]
    rintro nonempty allDigits -
    rcases refused with empty | ⟨c, member, notDigit⟩
    · exact nonempty empty
    · simp [allDigits c member] at notDigit
  · next accepted =>
    simp only [Bool.or_eq_true, List.isEmpty_iff, Bool.not_eq_true', List.all_eq_false, not_or,
      not_exists, not_and, not_not] at accepted
    rw [Option.some.injEq, foldl_digits, eq_comm]
    exact ⟨fun same => ⟨accepted.1, accepted.2, same⟩, fun ⟨_, _, same⟩ => same⟩
theorem writesCount_of_digits {text : String} {digits : List Char} {count : Nat}
    (written : text.toList = digits ∨ text.toList = '+' :: digits)
    (valued : digitsValue? digits = some count) (below : count < Nat.pow 2 32) :
    WritesCount text count := by
  obtain ⟨nonempty, allDigits, rfl⟩ := digitsValue?_eq_some_iff.1 valued
  exact ⟨digits, written, nonempty, allDigits, rfl, by rwa [← Nat.pow_eq]⟩

theorem parseCount?_eq_some_iff {text : String} {count : Nat} :
    parseCount? text = some count ↔ WritesCount text count := by
  unfold parseCount?
  constructor
  · intro read
    -- the digits are what follows a plus sign, or the whole text
    split at read
    · next rest signed =>
      dsimp only at read
      cases valued : digitsValue? rest with
      | none => simp [valued] at read
      | some value =>
        simp only [valued] at read
        split at read
        · next below =>
          cases read
          exact writesCount_of_digits (.inr signed) valued below
        · cases read
    · dsimp only at read
      cases valued : digitsValue? text.toList with
      | none => simp [valued] at read
      | some value =>
        simp only [valued] at read
        split at read
        · next below =>
          cases read
          exact writesCount_of_digits (.inl rfl) valued below
        · cases read
  · rintro ⟨digits, written, nonempty, allDigits, rfl, below⟩
    have valued : digitsValue? digits = some (decimalValue digits) :=
      digitsValue?_eq_some_iff.2 ⟨nonempty, allDigits, rfl⟩
    have fits : decimalValue digits < Nat.pow 2 32 := by
      rw [Nat.pow_eq]
      exact below
    rcases written with plain | signed
    · rw [plain]
      split
      · -- digits written without a sign do not start with a plus sign, which is no digit
        exact absurd (allDigits '+' List.mem_cons_self) (by decide)
      · simp [valued, fits]
    · rw [signed]
      simp [valued, fits]

end Count

section Meaning

/-- The binary32 number nearest to the decimal number that the text writes, if it writes one. -/
def readBinary32? (text : String) : Option Float32 :=
  (Decimal.parse? text).map Decimal.toBinary32

/-- What a key and its value set. -/
inductive KeyValueMeans (key value : String) : Directive → Prop
  /-- `n` with a count sets the number of generations. -/
  | generations {count : Nat} : key = "n" → WritesCount value count →
      KeyValueMeans key value (.generations count)
  /-- `delta` with a finite number sets the turn angle. -/
  | delta {angle : Float32} : key = "delta" → readBinary32? value = some angle →
      angle.isFinite = true → KeyValueMeans key value (.delta angle)
  /-- `ic` with a word that is not empty sets the initiator. -/
  | initiator : key = "ic" → value ≠ "" → KeyValueMeans key value (.initiator value.toList)
  /-- Any other key that is not empty gives its first character the rule that rewrites it to
  the value. -/
  | rule {symbol : Char} {rest : List Char} : key ≠ "n" → key ≠ "delta" → key ≠ "ic" →
      key.toList = symbol :: rest → KeyValueMeans key value (.rule symbol value.toList)

/-- What a line of program text sets: nothing if it is blank, and otherwise what its key and
value set. -/
inductive LineMeans (line : String) : Option Directive → Prop
  | blank : trim line = "" → LineMeans line none
  | directive {key value : String} {directive : Directive} : SplitsAs line key value →
      KeyValueMeans key value directive → LineMeans line (some directive)

/-- A line that is not blank and sets nothing: it has no colon, or its key is empty, or its key is
`n`, `delta` or `ic` and its value is not a count, not a finite number, or empty. -/
def Malformed (line : String) : Prop :=
  trim line ≠ "" ∧
    (':' ∉ line.toList ∨ ∃ key value, SplitsAs line key value ∧
      (key = "" ∨ (key = "n" ∧ ∀ count, ¬ WritesCount value count) ∨
        (key = "delta" ∧ ∀ angle, readBinary32? value = some angle → angle.isFinite = false) ∨
        (key = "ic" ∧ value = "")))

/-- A key and a value set nothing exactly when the key is empty, or is `n`, `delta` or `ic` with a
value that is not a count, not a finite number, or empty. -/
theorem not_keyValueMeans_iff {key value : String} :
    (∀ directive, ¬ KeyValueMeans key value directive) ↔
      key = "" ∨ (key = "n" ∧ ∀ count, ¬ WritesCount value count) ∨
        (key = "delta" ∧ ∀ angle, readBinary32? value = some angle → angle.isFinite = false) ∨
        (key = "ic" ∧ value = "") := by
  constructor
  · intro nothing
    by_cases isCount : key = "n"
    · exact .inr (.inl ⟨isCount, fun count writes => nothing _ (.generations isCount writes)⟩)
    by_cases isAngle : key = "delta"
    · refine .inr (.inr (.inl ⟨isAngle, fun angle read => ?_⟩))
      cases finite : angle.isFinite
      · rfl
      · exact absurd (.delta isAngle read finite) (nothing _)
    by_cases isInitiator : key = "ic"
    · refine .inr (.inr (.inr ⟨isInitiator, ?_⟩))
      by_contra nonempty
      exact nothing _ (.initiator isInitiator nonempty)
    -- any other key is a rule, unless it is empty
    cases symbols : key.toList with
    | nil => exact .inl (String.toList_eq_nil_iff.1 symbols)
    | cons symbol rest =>
      exact absurd (.rule isCount isAngle isInitiator symbols) (nothing _)
  · intro bad directive means
    cases means <;> simp_all

end Meaning

end Text

namespace Directive

open Text

theorem ofKeyValue_eq_ok_iff {key value : String} {directive : Directive} :
    ofKeyValue key value = .ok directive ↔ KeyValueMeans key value directive := by
  unfold ofKeyValue
  by_cases isCount : key = "n"
  · simp only [isCount, if_true]
    cases read : parseCount? value with
    | none =>
      simp only [reduceCtorEq, false_iff]
      intro means
      cases means <;> simp_all [← parseCount?_eq_some_iff]
    | some count =>
      simp only [Except.ok.injEq]
      constructor
      · rintro rfl
        exact .generations rfl (parseCount?_eq_some_iff.1 read)
      · intro means
        cases means <;> simp_all [← parseCount?_eq_some_iff]
  by_cases isAngle : key = "delta"
  · simp only [isAngle, if_true, show ("delta" : String) ≠ "n" by decide, if_false]
    cases parsed : Decimal.parse? value with
    | none =>
      simp only [reduceCtorEq, false_iff]
      intro means
      cases means <;> simp_all [readBinary32?]
    | some number =>
      by_cases finite : number.toBinary32.isFinite
      · simp only [finite, if_true, Except.ok.injEq]
        constructor
        · rintro rfl
          exact .delta rfl (by simp [readBinary32?, parsed]) finite
        · intro means
          cases means <;> simp_all [readBinary32?]
      · simp only [finite, Bool.false_eq_true, if_false, reduceCtorEq, false_iff]
        intro means
        cases means <;> simp_all [readBinary32?]
  by_cases isInitiator : key = "ic"
  · simp only [isInitiator, if_true, show ("ic" : String) ≠ "n" by decide,
      show ("ic" : String) ≠ "delta" by decide, if_false]
    by_cases empty : value = ""
    · rw [if_pos (String.isEmpty_iff.2 empty)]
      simp only [reduceCtorEq, false_iff]
      intro means
      cases means <;> simp_all
    · simp only [String.isEmpty_iff, empty, if_false, Except.ok.injEq]
      constructor
      · rintro rfl
        exact .initiator rfl empty
      · intro means
        cases means <;> simp_all
  -- any other key: the rule of its first character, if it has one
  simp only [isCount, isAngle, isInitiator, if_false]
  cases symbols : key.toList with
  | nil =>
    simp only [reduceCtorEq, false_iff]
    intro means
    cases means <;> simp_all
  | cons symbol rest =>
    simp only [Except.ok.injEq]
    constructor
    · rintro rfl
      exact .rule isCount isAngle isInitiator symbols
    · intro means
      cases means <;> simp_all

section Line

variable {line : String}

theorem ofLine?_of_blank (blank : trim line = "") : ofLine? line = .ok none := by
  simp [ofLine?, blank]

theorem ofLine?_of_no_colon (notBlank : trim line ≠ "") (noColon : ':' ∉ line.toList) :
    ofLine? line = .error (.missingColon line) := by
  have notEmpty : (trim line).isEmpty = false := by simpa [String.isEmpty_iff] using notBlank
  rw [ofLine?, if_neg (by simp [notEmpty]), span_of_no_colon noColon]

theorem ofLine?_of_split {before after : List Char} (split : line.toList = before ++ ':' :: after)
    (first : ':' ∉ before) :
    ofLine? line = (ofKeyValue (trim (String.ofList before)) (trim (String.ofList after))).map some := by
  have notBlank : trim line ≠ "" := not_blank_of_colon (by simp [split])
  have notEmpty : (trim line).isEmpty = false := by simpa [String.isEmpty_iff] using notBlank
  rw [ofLine?, if_neg (by simp [notEmpty]), span_of_first_colon split first]

/-- The parser reads a line as the format says. -/
theorem ofLine?_eq_ok_iff {meaning : Option Directive} :
    ofLine? line = .ok meaning ↔ LineMeans line meaning := by
  constructor
  · intro read
    by_cases blank : trim line = ""
    · rw [ofLine?_of_blank blank, Except.ok.injEq] at read
      subst read
      exact .blank blank
    by_cases colon : ':' ∈ line.toList
    · obtain ⟨before, after, split, first⟩ := exists_first_colon colon
      rw [ofLine?_of_split split first] at read
      cases keyValue : ofKeyValue (trim (String.ofList before)) (trim (String.ofList after)) with
      | error fault => simp [keyValue, Except.map] at read
      | ok directive =>
        simp only [keyValue, Except.map, Except.ok.injEq] at read
        subst read
        exact .directive ⟨before, after, split, first, rfl, rfl⟩ (ofKeyValue_eq_ok_iff.1 keyValue)
    · rw [ofLine?_of_no_colon blank colon] at read
      cases read
  · intro means
    cases means with
    | blank blank => exact ofLine?_of_blank blank
    | directive splits keyValue =>
      obtain ⟨before, after, split, first, rfl, rfl⟩ := splits
      rw [ofLine?_of_split split first, ofKeyValue_eq_ok_iff.2 keyValue]
      rfl

/-- A line is malformed exactly when it sets nothing. -/
theorem malformed_iff_not_lineMeans : Malformed line ↔ ∀ meaning, ¬ LineMeans line meaning := by
  constructor
  · rintro ⟨notBlank, bad⟩ meaning means
    cases means with
    | blank blank => exact notBlank blank
    | directive splits keyValue =>
      rcases bad with noColon | ⟨key, value, splits', bad⟩
      · obtain ⟨before, after, split, -⟩ := splits
        exact noColon (by simp [split])
      · obtain ⟨rfl, rfl⟩ := splits.unique splits'
        exact not_keyValueMeans_iff.2 bad _ keyValue
  · intro nothing
    refine ⟨fun blank => nothing none (.blank blank), ?_⟩
    by_cases colon : ':' ∈ line.toList
    · -- the line has a first colon, and what its key and value set would be what it sets
      obtain ⟨before, after, split, first⟩ := exists_first_colon colon
      have splits : SplitsAs line (trim (String.ofList before)) (trim (String.ofList after)) :=
        ⟨before, after, split, first, rfl, rfl⟩
      exact .inr ⟨_, _, splits, not_keyValueMeans_iff.1 fun directive keyValue =>
        nothing (some directive) (.directive splits keyValue)⟩
    · exact .inl colon

/-- The parser refuses exactly the malformed lines. -/
theorem ofLine?_error_iff : (∃ fault, ofLine? line = .error fault) ↔ Malformed line := by
  rw [malformed_iff_not_lineMeans]
  simp only [← ofLine?_eq_ok_iff]
  cases ofLine? line <;> simp

end Line

end Directive

/-- A line means one thing at most, so the directives of well-formed text are determined. -/
theorem Text.LineMeans.unique {line : String} {first second : Option Directive}
    (means : LineMeans line first) (also : LineMeans line second) : first = second := by
  have read := Directive.ofLine?_eq_ok_iff.2 means
  rw [Directive.ofLine?_eq_ok_iff.2 also] at read
  exact (Except.ok.inj read).symm

end PlantPlot
