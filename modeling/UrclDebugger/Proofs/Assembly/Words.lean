import Mathlib.Data.List.Chain
import Mathlib.Data.List.TakeWhile
import UrclDebugger.Proofs.Assembly.Acceptance

/-!
# Writing lines of assembly text

A line is read in several steps: its comment is dropped, then the blanks around it, and what is left
is a label or is cut into words. A label and an instruction can be written down again. What is
written for one that was read passes each of these steps unchanged, so it is read as the same
(`AssemblyLine.parse?_text`).
-/

namespace UrclDebugger

namespace Text

/-- A text without a blank at its end is not shortened. -/
theorem trimEnd_eq_self {text : List Char} (ends : ∀ c ∈ text.getLast?, isBlank c = false) :
    trimEnd text = text := by
  induction text with
  | nil => rfl
  | cons c rest ih =>
    cases rest with
    | nil => simp [trimEnd, ends c rfl]
    | cons next others =>
      rw [trimEnd, ih (by simpa using ends)]

/-- A text without a blank at either end is left as it is. -/
theorem trim_eq_self {text : List Char} (starts : ∀ c ∈ text.head?, isBlank c = false)
    (ends : ∀ c ∈ text.getLast?, isBlank c = false) : trim text = text := by
  have kept : text.dropWhile isBlank = text := by
    cases text with
    | nil => rfl
    | cons c rest => exact List.dropWhile_cons_of_neg (by simp [starts c rfl])
  rw [trim, kept, trimEnd_eq_self ends]

theorem isPrefix_trimEnd (text : List Char) : trimEnd text <+: text := by
  induction text with
  | nil => exact List.prefix_rfl
  | cons c rest ih =>
    rw [trimEnd]
    split
    · split
      · exact List.nil_prefix
      · exact (List.prefix_cons_inj c).mpr List.nil_prefix
    · exact (List.prefix_cons_inj c).mpr ih

/-- What is left by trimming is a part of the text. -/
theorem isInfix_trim (text : List Char) : trim text <:+: text :=
  (isPrefix_trimEnd _).isInfix.trans (List.dropWhile_suffix isBlank).isInfix

/-- A line without line ends is the first line of a text that goes on behind its end. -/
theorem lines_line {line : List Char} (noFeed : '\n' ∉ line) (noReturn : '\r' ∉ line)
    (rest : List Char) : lines (line ++ '\n' :: rest) = line :: lines rest := by
  induction line with
  | nil => exact lines_lineFeed rest
  | cons c others ih =>
    rw [List.mem_cons, not_or] at noFeed noReturn
    rw [List.cons_append, lines_cons (Ne.symm noFeed.1)
      (fun _ isReturn => absurd isReturn.symm noReturn.1), ih noFeed.2 noReturn.2]

end Text

namespace AssemblyLine

/-- No comment starts in the text: no slash stands behind a slash. -/
def Uncommented (text : List Char) : Prop :=
  text.IsChain fun c next => c = '/' → next ≠ '/'

theorem Uncommented.part {part text : List Char} (free : Uncommented text)
    (inside : part <:+: text) : Uncommented part :=
  List.IsChain.infix free inside

/-- A blank that is put between two texts starts no comment. -/
theorem Uncommented.append_blank {front back : List Char} (free : Uncommented front)
    (others : Uncommented back) : Uncommented (front ++ ' ' :: back) := by
  refine List.isChain_append.mpr ⟨free, List.isChain_cons.mpr ⟨?_, others⟩, ?_⟩
  · intro c _ slash
    contradiction
  · intro last _ c first _
    obtain rfl := Option.some.inj first
    decide

theorem head?_beforeComment {line : List Char} {c : Char}
    (first : c ∈ (beforeComment line).head?) : c ∈ line.head? := by
  fun_cases beforeComment line <;> simp_all [beforeComment]

/-- Before the comment no comment starts. -/
theorem uncommented_beforeComment (line : List Char) : Uncommented (beforeComment line) := by
  fun_induction beforeComment line with
  | case1 => exact List.isChain_nil
  | case2 => exact List.isChain_nil
  | case3 c rest noComment ih =>
    refine List.isChain_cons.mpr ⟨fun next first slash => ?_, ih⟩
    rintro rfl
    obtain ⟨others, rfl⟩ := List.head?_eq_some_iff.mp (head?_beforeComment first)
    exact noComment others slash rfl

/-- Where no comment starts nothing is dropped. -/
theorem beforeComment_eq_self {line : List Char} (free : Uncommented line) :
    beforeComment line = line := by
  fun_induction beforeComment line with
  | case1 => rfl
  | case2 rest => exact absurd rfl ((List.isChain_cons_cons.mp free).1 rfl)
  | case3 c rest _ ih => rw [ih (List.isChain_cons.mp free).2]

/-- A word that stands on a line: it is not empty, nothing in it separates words, and no comment
starts in it. -/
structure IsWord (word : List Char) : Prop where
  nonempty : word ≠ []
  unseparated : ∀ c ∈ word, isSeparator c = false
  uncommented : Uncommented word

theorem IsWord.unblank {word : List Char} (fine : IsWord word) {c : Char} (member : c ∈ word) :
    Text.isBlank c = false :=
  (Bool.or_eq_false_iff.mp (fine.unseparated c member)).2

section Words

theorem words_cons (c : Char) (rest : List Char) :
    words (c :: rest) =
      if isSeparator c then words rest
      else
        match rest, words rest with
        | next :: _, word :: others =>
          if isSeparator next then [c] :: word :: others else (c :: word) :: others
        | _, others => [c] :: others := rfl

theorem words_of_isSeparator {c : Char} (separates : isSeparator c = true) (rest : List Char) :
    words (c :: rest) = words rest := by
  rw [words_cons, if_pos separates]

/-- A word goes on to the next separator. -/
theorem words_of_not_isSeparator {c : Char} (inside : isSeparator c = false) (rest : List Char) :
    words (c :: rest) = (c :: rest.takeWhile fun next => !isSeparator next) ::
      words (rest.dropWhile fun next => !isSeparator next) := by
  induction rest generalizing c with
  | nil => simp [words, inside]
  | cons next others ih =>
    rw [words_cons, if_neg (by simp [inside])]
    cases separates : isSeparator next with
    | true =>
      rw [List.takeWhile_cons_of_neg (by simp [separates]),
        List.dropWhile_cons_of_neg (by simp [separates])]
      cases words (next :: others) <;> simp [separates]
    | false =>
      rw [ih separates, List.takeWhile_cons_of_pos (by simp [separates]),
        List.dropWhile_cons_of_pos (by simp [separates])]
      simp [separates]

/-- A word is cut off at the blank behind it. -/
theorem words_append_blank {word : List Char} (fine : IsWord word) (rest : List Char) :
    words (word ++ ' ' :: rest) = word :: words rest := by
  obtain ⟨c, others, rfl⟩ := List.exists_cons_of_ne_nil fine.nonempty
  have plain : ∀ next ∈ others, (!isSeparator next) = true := fun next member => by
    simp [fine.unseparated next (List.mem_cons_of_mem c member)]
  have blank : isSeparator ' ' = true := by decide
  rw [List.cons_append, words_of_not_isSeparator (fine.unseparated c List.mem_cons_self),
    List.takeWhile_append_of_pos plain, List.dropWhile_append_of_pos plain,
    List.takeWhile_cons_of_neg (by simp [blank]), List.dropWhile_cons_of_neg (by simp [blank]),
    List.append_nil, words_of_isSeparator blank]

/-- A word alone is the only word. -/
theorem words_eq_singleton {word : List Char} (fine : IsWord word) : words word = [word] := by
  obtain ⟨c, others, rfl⟩ := List.exists_cons_of_ne_nil fine.nonempty
  have plain : ∀ next ∈ others, (!isSeparator next) = true := fun next member => by
    simp [fine.unseparated next (List.mem_cons_of_mem c member)]
  rw [words_of_not_isSeparator (fine.unseparated c List.mem_cons_self),
    List.takeWhile_eq_self_iff.mpr plain, List.dropWhile_eq_nil_iff.mpr plain, words]

/-- What an uncommented text is cut into are words. -/
theorem isWord_of_mem_words {text word : List Char} (free : Uncommented text)
    (member : word ∈ words text) : IsWord word := by
  -- a word is followed by the words of a shorter text, not of the tail
  induction length : text.length using Nat.strong_induction_on generalizing text with
  | _ bound ih =>
    cases text with
    | nil => contradiction
    | cons c rest =>
      cases separates : isSeparator c with
      | true =>
        rw [words_of_isSeparator separates] at member
        exact ih rest.length (by simp [← length]) (free.part (List.suffix_cons c rest).isInfix)
          member rfl
      | false =>
        rw [words_of_not_isSeparator separates] at member
        rcases List.mem_cons.mp member with rfl | later
        · have first : c :: rest.takeWhile (fun next => !isSeparator next) <+: c :: rest :=
            (List.prefix_cons_inj c).mpr (List.takeWhile_prefix _)
          refine ⟨List.cons_ne_nil _ _, fun next listed => ?_, free.part first.isInfix⟩
          rcases List.mem_cons.mp listed with rfl | taken
          · exact separates
          · simpa using List.mem_takeWhile_imp taken
        · have behind : rest.dropWhile (fun next => !isSeparator next) <:+ c :: rest :=
            (List.dropWhile_suffix _).trans (List.suffix_cons c rest)
          have shorter : (rest.dropWhile fun next => !isSeparator next).length ≤ rest.length :=
            (List.dropWhile_suffix _).length_le
          exact ih _ (by rw [← length, List.length_cons]; omega) (free.part behind.isInfix)
            later rfl

end Words

/-- Words in a row with a blank in front of each but the first. -/
def row (first : List Char) (others : List (List Char)) : List Char :=
  first ++ others.flatMap fun word => ' ' :: word

section Row

variable {first : List Char} {others : List (List Char)}

@[simp] theorem row_nil (first : List Char) : row first [] = first := List.append_nil first

theorem row_cons (first next : List Char) (others : List (List Char)) :
    row first (next :: others) = first ++ ' ' :: row next others := by
  simp [row]

theorem unblank_of_head?_row (fine : IsWord first) {c : Char}
    (starts : c ∈ (row first others).head?) : Text.isBlank c = false := by
  obtain ⟨head, rest, rfl⟩ := List.exists_cons_of_ne_nil fine.nonempty
  obtain rfl := Option.some.inj starts
  exact fine.unblank List.mem_cons_self

variable (fine : IsWord first) (all : ∀ word ∈ others, IsWord word)

include fine all

/-- A row of words is cut into the words. -/
theorem words_row : words (row first others) = first :: others := by
  induction others generalizing first with
  | nil => rw [row_nil, words_eq_singleton fine]
  | cons next rest ih =>
    obtain ⟨here, later⟩ := List.forall_mem_cons.mp all
    rw [row_cons, words_append_blank fine, ih here later]

theorem uncommented_row : Uncommented (row first others) := by
  induction others generalizing first with
  | nil =>
    rw [row_nil]
    exact fine.uncommented
  | cons next rest ih =>
    obtain ⟨here, later⟩ := List.forall_mem_cons.mp all
    rw [row_cons]
    exact fine.uncommented.append_blank (ih here later)

/-- A character of a row is a blank between the words or belongs to one of them. -/
theorem blank_or_unblank_of_mem_row {c : Char} (member : c ∈ row first others) :
    c = ' ' ∨ Text.isBlank c = false := by
  rcases List.mem_append.mp member with inside | behind
  · exact .inr (fine.unblank inside)
  · obtain ⟨word, listed, inside⟩ := List.mem_flatMap.mp behind
    rcases List.mem_cons.mp inside with rfl | inside
    · exact .inl rfl
    · exact .inr ((all word listed).unblank inside)

theorem unblank_of_getLast?_row {c : Char} (ends : c ∈ (row first others).getLast?) :
    Text.isBlank c = false := by
  induction others generalizing first with
  | nil => exact fine.unblank (List.mem_of_getLast? (row_nil first ▸ ends))
  | cons next rest ih =>
    obtain ⟨here, later⟩ := List.forall_mem_cons.mp all
    have filled : row next rest ≠ [] := by simp [row, here.nonempty]
    rw [row_cons, List.append_cons, List.getLast?_append_of_ne_nil _ filled] at ends
    exact ih here later ends

/-- A row of words has no blanks around it. -/
theorem trim_row : Text.trim (row first others) = row first others :=
  Text.trim_eq_self (fun _ => unblank_of_head?_row fine)
    (fun _ => unblank_of_getLast?_row fine all)

end Row

end AssemblyLine

namespace Opcode

open AssemblyLine

theorem isWord_mnemonic (op : Opcode) : IsWord op.mnemonic.toList where
  nonempty := by cases op <;> decide
  unseparated := by
    have letters : op.mnemonic.toList.all (fun c => !isSeparator c) = true := by
      cases op <;> decide
    simpa using letters
  uncommented := by
    unfold Uncommented
    cases op <;> decide

/-- Mnemonics are in upper case. -/
theorem upperCase_mnemonic (op : Opcode) : upperCase op.mnemonic.toList = op.mnemonic := by
  cases op <;> decide

theorem not_header_mnemonic (op : Opcode) : headers.contains op.mnemonic = false := by
  cases op <;> decide

/-- Text that starts with a mnemonic is no label. -/
theorem not_label_mnemonic (op : Opcode) (others : List (List Char)) :
    Operand.isLabelText (row op.mnemonic.toList others) = false := by
  cases op <;> rfl

end Opcode

namespace Instruction

theorem toList_text (instruction : Instruction) :
    instruction.text.toList =
      AssemblyLine.row instruction.operation.toList (instruction.operands.map String.toList) := by
  rw [text]
  generalize instruction.operation = first
  induction instruction.operands generalizing first with
  | nil => simp
  | cons operand rest ih =>
    rw [List.foldl_cons, ih]
    simp [AssemblyLine.row]

end Instruction

namespace AssemblyLine

/-- The text of a line: that of its instruction, or the name of its label. -/
def text : AssemblyLine → String
  | .label name => name
  | .instruction held => held.text

/-- A line that can be written: its label or the words of its instruction are such as lines are cut
into, and its instruction is accepted. -/
def Writable : AssemblyLine → Prop
  | .label name => Operand.isLabel name = true ∧ Uncommented name.toList
  | .instruction held =>
    held.rejection? = none ∧ ∀ operand ∈ held.operands, IsWord operand.toList

/-- What a line says is the label that it is without its comment, or made of its words. -/
theorem eq_of_parse? {line : List Char} {said : AssemblyLine} (read : parse? line = some said) :
    ∃ code, Uncommented code ∧
      (Operand.isLabelText code = true ∧ said = .label (String.ofList code) ∨
        ∃ operation operands, words code = operation :: operands ∧
          said = .instruction ⟨upperCase operation, operands.map String.ofList⟩) := by
  refine ⟨Text.trim (beforeComment line),
    (uncommented_beforeComment line).part (Text.isInfix_trim _), ?_⟩
  unfold parse? at read
  dsimp only at read
  split at read
  · rename_i isLabel
    exact .inl ⟨isLabel, (Option.some.inj read).symm⟩
  · split at read
    · contradiction
    · rename_i operation operands cut
      split at read
      · contradiction
      · exact .inr ⟨operation, operands, cut, (Option.some.inj read).symm⟩

/-- What was read can be written. -/
theorem writable_of_parse? {line : List Char} {said : AssemblyLine} (read : parse? line = some said)
    (accepted : ∀ held, said = .instruction held → held.rejection? = none) : said.Writable := by
  obtain ⟨code, free, ⟨isLabel, rfl⟩ | ⟨operation, operands, cut, rfl⟩⟩ := eq_of_parse? read
  · simpa only [Writable, Operand.isLabel, String.toList_ofList] using ⟨isLabel, free⟩
  · refine ⟨accepted _ rfl, List.forall_mem_map.mpr fun word listed => ?_⟩
    rw [String.toList_ofList]
    exact isWord_of_mem_words free (by rw [cut]; exact List.mem_cons_of_mem _ listed)

/-- A label has no blanks in it. -/
theorem unblank_of_isLabel {name : String} (isLabel : Operand.isLabel name = true) {c : Char}
    (member : c ∈ name.toList) : Text.isBlank c = false := by
  unfold Operand.isLabel Operand.isLabelText at isLabel
  split at isLabel
  · rename_i next rest same
    rw [same] at member
    rcases List.mem_cons.mp member with rfl | inside
    · decide
    · have none : ∀ other ∈ next :: rest, Text.isBlank other = false := by simpa using isLabel
      exact none c inside
  · contradiction

/-- The words of an accepted instruction stand in a row that starts with a mnemonic. -/
theorem exists_row_of_writable {held : Instruction} (writable : (instruction held).Writable) :
    ∃ op : Opcode, held.operation = op.mnemonic ∧ IsWord op.mnemonic.toList ∧
      (∀ word ∈ held.operands.map String.toList, IsWord word) ∧
      held.text.toList = row op.mnemonic.toList (held.operands.map String.toList) := by
  obtain ⟨op, named, _⟩ := Instruction.rejection?_eq_none_iff.mp writable.1
  have same := Opcode.mnemonic_of_ofMnemonic? named
  exact ⟨op, same.symm, op.isWord_mnemonic, List.forall_mem_map.mpr writable.2,
    same ▸ held.toList_text⟩

/-- A line that is written is read as what it says. -/
theorem parse?_text {said : AssemblyLine} (writable : said.Writable) :
    parse? said.text.toList = some said := by
  cases said with
  | label name =>
    obtain ⟨isLabel, free⟩ := writable
    have trimmed : Text.trim name.toList = name.toList :=
      Text.trim_eq_self (fun c starts => unblank_of_isLabel isLabel (List.mem_of_head? starts))
        (fun c ends => unblank_of_isLabel isLabel (List.mem_of_getLast? ends))
    have isLabelText : Operand.isLabelText name.toList = true := isLabel
    rw [text, parse?, beforeComment_eq_self free, trimmed]
    simp only [isLabelText, ↓reduceIte, String.ofList_toList]
  | instruction held =>
    obtain ⟨op, named, first, all, written⟩ := exists_row_of_writable writable
    have listed : (held.operands.map String.toList).map String.ofList = held.operands := by
      simp [Function.comp_def]
    rw [text, parse?, written, beforeComment_eq_self (uncommented_row first all),
      trim_row first all]
    simp only [op.not_label_mnemonic, words_row first all, op.upperCase_mnemonic,
      op.not_header_mnemonic, listed, Bool.false_eq_true, ↓reduceIte]
    rw [← named]

/-- No line that is written has a line end in it. -/
theorem not_mem_text {said : AssemblyLine} (writable : said.Writable) {c : Char}
    (blank : Text.isBlank c = true) (noSpace : c ≠ ' ') : c ∉ said.text.toList := by
  intro member
  cases said with
  | label name => exact absurd blank (by simp [unblank_of_isLabel writable.1 member])
  | instruction held =>
    obtain ⟨op, _, first, all, written⟩ := exists_row_of_writable writable
    rw [text, written] at member
    rcases blank_or_unblank_of_mem_row first all member with same | unblank
    · exact noSpace same
    · exact absurd blank (by simp [unblank])

end AssemblyLine

end UrclDebugger
