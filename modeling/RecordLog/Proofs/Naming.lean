import Mathlib.Tactic.ByContra
import RecordLog.Config

/-!
# The names and paths of segment files

The name of a segment file denotes its id again, so different ids have
different names. The path of a segment file follows the directory and then the
name. An extension with a slash in it would put the file below a directory that
is not there, or would name a directory.
-/

namespace RecordLog

namespace SegmentId

theorem toList_text (id : SegmentId) : id.text.toList = Nat.toDigits 10 id.number :=
  Nat.toList_repr

theorem decimalValue_toDigits (n : Nat) : decimalValue (Nat.toDigits 10 n) = n := by
  have := Nat.ofDigitChars_toDigits (b := 10) (n := n) (by decide) (by decide)
  rwa [Nat.ofDigitChars_eq_foldl] at this

theorem toList_fileName (id : SegmentId) (extension : String) :
    (id.fileName extension).toList = Nat.toDigits 10 id.number ++ extension.toList := by
  rw [fileName, String.toList_append, toList_text]

/-- The name of a segment file denotes its id. -/
theorem parse_fileName {id : SegmentId} (bounded : id.number < bound) (extension : String) :
    parse (id.fileName extension) extension = some id := by
  have stem : stem? (id.fileName extension).toList extension.toList =
      some (Nat.toDigits 10 id.number) := by
    rw [stem?, toList_fileName, if_pos (by simp)]
    simp
  have digits : (Nat.toDigits 10 id.number).all Char.isDigit = true := by
    rw [List.all_eq_true]
    intro digit member
    exact Nat.isDigit_of_mem_toDigits (by decide) (by decide) member
  rw [parse, stem]
  simp only [digits, Nat.toDigits_ne_nil, decimalValue_toDigits]
  rw [if_neg (by simp), if_pos bounded]

/-- Different ids have different names. -/
theorem fileName_inj {id other : SegmentId} {extension : String}
    (same : id.fileName extension = other.fileName extension) : id = other := by
  have characters := congrArg String.toList same
  rw [toList_fileName, toList_fileName, List.append_cancel_right_eq] at characters
  have numbers := congrArg decimalValue characters
  rw [decimalValue_toDigits, decimalValue_toDigits] at numbers
  cases id
  cases other
  exact congrArg SegmentId.mk numbers

/-- A number is written with at least one digit. -/
theorem exists_toDigits_eq_cons (n : Nat) :
    ∃ digit rest, digit.isDigit = true ∧ Nat.toDigits 10 n = digit :: rest := by
  obtain ⟨digit, rest, digits⟩ :=
    List.exists_cons_of_ne_nil (Nat.toDigits_ne_nil (n := n) (b := 10))
  have member : digit ∈ Nat.toDigits 10 n := by
    rw [digits]
    exact List.mem_cons_self
  exact ⟨digit, rest, Nat.isDigit_of_mem_toDigits (by decide) (by decide) member, digits⟩

theorem slash_not_mem_toDigits (n : Nat) : '/' ∉ Nat.toDigits 10 n := by
  intro digit
  have := Nat.isDigit_of_mem_toDigits (by decide) (by decide) digit
  cases this

private theorem ne_of_isDigit {digit character : Char} (isDigit : digit.isDigit = true)
    (other : character.isDigit = false) : digit ≠ character := by
  rintro rfl
  rw [isDigit] at other
  cases other

/-- What begins with a digit is no dot and not empty. -/
theorem ne_dots_of_isDigit {name : String} {digit : Char} (isDigit : digit.isDigit = true)
    (head : name.toList.head? = some digit) : name ≠ "" ∧ name ≠ "." ∧ name ≠ ".." := by
  have ne : digit ≠ '.' := ne_of_isDigit isDigit rfl
  refine ⟨?_, ?_, ?_⟩ <;>
    · rintro rfl
      simp [ne.symm] at head

/-- The name of a segment file is no dot and not empty. -/
theorem fileName_ne (id : SegmentId) (extension : String) :
    id.fileName extension ≠ "" ∧ id.fileName extension ≠ "." ∧ id.fileName extension ≠ ".." := by
  obtain ⟨digit, rest, isDigit, digits⟩ := exists_toDigits_eq_cons id.number
  apply ne_dots_of_isDigit isDigit
  rw [toList_fileName, digits, List.cons_append, List.head?_cons]

/-- A slash in the name of a segment file is one of the extension. -/
theorem slash_not_mem_fileName (id : SegmentId) {extension : String}
    (plain : '/' ∉ extension.toList) : '/' ∉ (id.fileName extension).toList := by
  rw [toList_fileName, List.mem_append]
  rintro (digit | slash)
  · exact slash_not_mem_toDigits _ digit
  · exact plain slash

end SegmentId

namespace Path

/-- The components of a name in a directory follow those of the directory. -/
theorem components_join (directory : Path) (name : String) :
    (directory.join name).components = directory.components ++ (⟨name⟩ : Path).components := by
  unfold join
  split
  · rename_i open_end
    rcases open_end with empty | slash
    · simp [components, pieces, empty]
    · obtain ⟨front, split_eq⟩ := List.getLast?_eq_some_iff.mp slash
      simp only [components, pieces, String.toList_append, split_eq, List.append_assoc,
        List.singleton_append, List.splitOn_append_cons_self, List.splitOn_nil]
      simp
  · simp [components, pieces, String.toList_append, List.splitOn_append_cons_self]

/-- A name without a slash is its own only component. -/
theorem components_eq_singleton {name : String} (nonempty : name ≠ "") (plain : '/' ∉ name.toList) :
    (⟨name⟩ : Path).components = [name] := by
  simp [components, pieces, List.splitOn_eq_singleton plain, nonempty]

/-- A name in a directory ends with a slash as the path does. -/
theorem endsWithSlash_join (directory : Path) {name : String} (nonempty : name ≠ "") :
    (directory.join name).endsWithSlash = (⟨name⟩ : Path).endsWithSlash := by
  cases found : name.toList.getLast? with
  | none => simp_all
  | some last =>
      unfold join
      split
      · simp [endsWithSlash, String.toList_append, found]
      · simp [endsWithSlash, String.toList_append, found, List.getLast?_cons]

private theorem eq_of_mem_of_splitOn {characters : List Char}
    (empty : ∀ piece ∈ characters.splitOn '/', piece = []) :
    ∀ character ∈ characters, character = '/' := by
  induction characters with
  | nil => simp
  | cons first rest ih =>
      rw [List.splitOn_cons_eq_if_modifyHead] at empty
      split at empty
      · rename_i slash
        intro character member
        rcases List.mem_cons.mp member with here | later
        · rw [here]
          exact eq_of_beq slash
        · exact ih (fun piece found => empty piece (List.mem_cons_of_mem _ found)) character later
      · obtain ⟨piece, pieces, split_eq⟩ :=
          List.exists_cons_of_ne_nil (List.splitOn_ne_nil '/' rest)
        rw [split_eq, List.modifyHead_cons] at empty
        cases empty _ List.mem_cons_self

/-- A path without components is made of slashes. -/
theorem eq_slash_of_components_eq_nil {path : Path} (none : path.components = []) :
    ∀ character ∈ path.text.toList, character = '/' := by
  apply eq_of_mem_of_splitOn
  intro piece member
  by_contra nonempty
  have : String.ofList piece ∈ path.components := by
    simp only [components, pieces, List.mem_filter, List.mem_map]
    exact ⟨⟨piece, member, rfl⟩, by simpa using nonempty⟩
  rw [none] at this
  cases this

/-- The first component of a name with a slash in it is what stands before. -/
theorem components_eq_cons {name : String} {front back : List Char}
    (split_eq : name.toList = front ++ '/' :: back) (plain : '/' ∉ front) (nonempty : front ≠ []) :
    (⟨name⟩ : Path).components =
      String.ofList front :: (⟨String.ofList back⟩ : Path).components := by
  simp [components, pieces, split_eq, List.splitOn_append_cons_self,
    List.splitOn_eq_singleton plain, nonempty]

end Path

end RecordLog
