import Rulebook.Extract.Query
import Rulebook.Proofs.Representatives
import Rulebook.Rules.Compile

/-!
# Notes are the first relevant lines

A line begins at the front of a text or behind a line end and runs up to the next line end. Lines
without any character are of no interest here; what ends a line, and that two characters can do so
together, only matters to those. A note is what is left of a line by trimming, when that mentions one
of a few words in any case.

Of notes that differ in case the first is kept, and of these as many as the limit allows. The notes
of a wiki page are freed from repetitions again when rules are compiled, which drops none of them:
they are trimmed, not blank and different from each other already.
-/

namespace Rulebook

namespace Text

/-- A line that is not empty stands at a place of a text. -/
structure LineAt (text : List Char) (place : Nat) (line : List Char) : Prop where
  begins : ∀ c ∈ (text.take place).getLast?, endsLine c = true
  runs : line = (text.drop place).takeWhile fun c => !endsLine c
  some : line ≠ []

/-- There are no lines in nothing. -/
theorem listsInOrder_nil : ListsInOrder (LineAt []) [] := by
  apply ListsInOrder.nil
  rintro place line ⟨-, runs, some⟩
  rw [List.drop_nil, List.takeWhile_nil] at runs
  exact some runs

/-- Behind a line end the lines are those of the rest. -/
theorem lineAt_cons_of_end (c : Char) (rest : List Char) (ends : endsLine c = true) (place : Nat)
    (line : List Char) :
    LineAt (c :: rest) place line ↔ ∃ start, place = start + 1 ∧ LineAt rest start line := by
  have last (start : Nat) : (∀ d ∈ (c :: rest.take start).getLast?, endsLine d = true) ↔
      ∀ d ∈ (rest.take start).getLast?, endsLine d = true := by
    rw [List.getLast?_cons]
    cases (rest.take start).getLast? <;> simp [ends]
  constructor
  · rintro ⟨begins, runs, some⟩
    cases place with
    | zero =>
      rw [List.drop_zero, List.takeWhile_cons_of_neg (by simp [ends])] at runs
      exact absurd runs some
    | succ start => exact ⟨start, rfl, (last start).mp begins, runs, some⟩
  · rintro ⟨start, rfl, begins, runs, some⟩
    exact ⟨(last start).mpr begins, runs, some⟩

/-- In front of a line end or of nothing a line runs over everything. -/
theorem takeWhile_front (front text : List Char) (plain : ∀ c ∈ front, endsLine c = false)
    (closed : ∀ c ∈ text.head?, endsLine c = true) :
    (front ++ text).takeWhile (fun c => !endsLine c) = front := by
  have unfinished : text.takeWhile (fun c => !endsLine c) = [] := by
    cases text with
    | nil => rfl
    | cons c rest => exact List.takeWhile_cons_of_neg (by simp [closed c rfl])
  rw [List.takeWhile_append_of_pos (by simpa using plain), unfinished, List.append_nil]

/-- No line stands inside of characters that end none. -/
theorem beyond_of_begins (front text : List Char) (place : Nat) (line : List Char)
    (plain : ∀ c ∈ front, endsLine c = false) (stands : LineAt (front ++ text) place line)
    (positive : 0 < place) : front.length < place := by
  by_contra within
  have begins := stands.begins
  rw [List.take_append_of_le_length (Nat.le_of_not_lt within)] at begins
  have reached : front.take place ≠ [] := by
    rw [← List.length_pos_iff, List.length_take]
    have filled : 0 < front.length := Nat.lt_of_lt_of_le positive (Nat.le_of_not_lt within)
    omega
  have last := List.getLast?_eq_some_getLast reached
  have ends := begins _ last
  rw [plain _ (List.mem_of_mem_take (List.mem_of_getLast? last))] at ends
  cases ends

/-- In front of a line end or of nothing there is one line, if there is anything. -/
theorem lineAt_append_iff (front text : List Char) (plain : ∀ c ∈ front, endsLine c = false)
    (closed : ∀ c ∈ text.head?, endsLine c = true) (place : Nat) (line : List Char) :
    LineAt (front ++ text) place line ↔
      (place = 0 ∧ line = front ∧ front ≠ []) ∨
        ∃ start, place = start + front.length ∧ LineAt text start line := by
  have whole := takeWhile_front front text plain closed
  constructor
  · intro stands
    rcases Nat.eq_zero_or_pos place with rfl | positive
    · obtain ⟨-, runs, some⟩ := stands
      rw [List.drop_zero, whole] at runs
      exact .inl ⟨rfl, runs, runs ▸ some⟩
    · have beyond := beyond_of_begins front text place line plain stands positive
      obtain ⟨begins, runs, some⟩ := stands
      obtain ⟨start, rfl⟩ := Nat.exists_eq_add_of_le (Nat.le_of_lt beyond)
      rw [List.take_length_add_append, List.getLast?_append] at begins
      rw [List.drop_length_add_append] at runs
      refine .inr ⟨start, Nat.add_comm _ _, ?_, runs, some⟩
      intro c last
      apply begins
      rw [Option.mem_def.mp last, Option.some_or, Option.mem_some]
  · rintro (⟨rfl, rfl, some⟩ | ⟨start, rfl, begins, runs, some⟩)
    · exact ⟨by simp, by rw [List.drop_zero, whole], some⟩
    · have reached : text.take start ≠ [] := by
        -- At the front of the text behind there is a line end or nothing.
        intro none
        have nothing := takeWhile_front [] text (by simp) closed
        apply some
        rcases List.take_eq_nil_iff.mp none with rfl | rfl
        · exact runs.trans nothing
        · rw [runs, List.drop_nil, List.takeWhile_nil]
      refine ⟨?_, ?_, some⟩
      · rw [Nat.add_comm, List.take_length_add_append, List.getLast?_append,
          List.getLast?_eq_some_getLast reached, Option.some_or]
        rw [List.getLast?_eq_some_getLast reached] at begins
        exact begins
      · rw [Nat.add_comm, List.drop_length_add_append]
        exact runs

/-- The lines that are not empty. -/
def filledLines (lines : List (List Char)) : List (List Char) :=
  lines.filter fun line => !line.isEmpty

/-- A line that a line end or the end of the text closes is listed in front of those behind it. -/
theorem listsInOrder_front (front text : List Char) (found : List (List Char))
    (plain : ∀ c ∈ front, endsLine c = false) (closed : ∀ c ∈ text.head?, endsLine c = true)
    (lists : ListsInOrder (LineAt text) (filledLines found)) :
    ListsInOrder (LineAt (front ++ text)) (filledLines (front :: found)) := by
  have behind := lists.shift front.length
  cases front with
  | nil =>
    apply behind.congr
    intro place line
    rw [lineAt_append_iff [] text plain closed]
    simp
  | cons c rest =>
    have together := behind.cons 0 (c :: rest) (by
      rintro place line ⟨start, rfl, -⟩
      exact Nat.lt_of_lt_of_le (Nat.succ_pos _) (Nat.le_add_left _ start))
    apply together.congr
    intro place line
    rw [lineAt_append_iff (c :: rest) text plain closed]
    simp

/-- Cutting a text at its line ends, with a part of a line in hand, lists its lines. -/
theorem listsInOrder_linesFrom (current cs : List Char)
    (plain : ∀ c ∈ current, endsLine c = false) :
    ListsInOrder (LineAt (current.reverse ++ cs)) (filledLines (linesFrom current cs)) := by
  have closes (c : Char) (rest : List Char) (ends : endsLine c = true) :
      ∀ d ∈ (c :: rest).head?, endsLine d = true := by simpa using ends
  have behind (c : Char) (rest : List Char) (ends : endsLine c = true) (found : List (List Char))
      (lists : ListsInOrder (LineAt rest) (filledLines found)) :
      ListsInOrder (LineAt (c :: rest)) (filledLines found) :=
    (lists.shift 1).congr (lineAt_cons_of_end c rest ends)
  induction current, cs using linesFrom.induct with
  | case1 current empty =>
    obtain rfl := List.isEmpty_iff.mp empty
    exact listsInOrder_nil
  | case2 current filled =>
    rw [linesFrom, if_neg filled]
    apply listsInOrder_front current.reverse [] [] (by simpa using plain) (by simp)
    exact listsInOrder_nil
  | case3 current rest inductionHypothesis =>
    rw [linesFrom]
    apply listsInOrder_front current.reverse _ _ (by simpa using plain) (closes '\r' _ (by decide))
    apply behind '\r' _ (by decide)
    apply behind '\n' _ (by decide)
    exact inductionHypothesis (by simp)
  | case4 current c rest other ends inductionHypothesis =>
    rw [linesFrom, if_pos ends]
    · apply listsInOrder_front current.reverse _ _ (by simpa using plain) (closes c rest ends)
      apply behind c rest ends
      exact inductionHypothesis (by simp)
    · exact other
  | case5 current c rest other goesOn inductionHypothesis =>
    rw [linesFrom, if_neg goesOn]
    · have further := inductionHypothesis (by simpa using ⟨Bool.eq_false_iff.mpr goesOn, plain⟩)
      rw [List.reverse_cons, List.append_assoc, List.singleton_append] at further
      exact further
    · exact other

/-- The lines of a text, as far as they are not empty, are what stands in it as a line. -/
theorem listsInOrder_lines (text : List Char) :
    ListsInOrder (LineAt text) (filledLines (lines text)) :=
  listsInOrder_linesFrom [] text (by simp)

end Text

namespace Extract

open Text (LineAt lowered trimmed)

/-- What is left of a line by trimming is a note: it is not empty and mentions one of a few words in
any case. -/
structure NoteAt (text : List Char) (place : Nat) (note : String) : Prop where
  trims : ∃ line, LineAt text place line ∧ note = String.ofList (Text.trim line)
  visible : note ≠ ""
  mentions : ∃ word ∈ ["karma", "account age", "verification", "verified"],
    word.toList <:+: (lowered note).toList

/-- A note that no note in front of it equals up to case. -/
structure FirstNoteAt (text : List Char) (place : Nat) (note : String) : Prop extends
    NoteAt text place note where
  new : ∀ earlier other, earlier < place → NoteAt text earlier other → lowered other ≠ lowered note

/-- The note that is made of a line, if it is one. -/
def noteOf? (line : List Char) : Option String :=
  if isNote (Text.trim line) then some (String.ofList (Text.trim line)) else none

/-- A trimmed line is a note when it has characters and a word in it. -/
theorem isNote_iff (line : List Char) :
    isNote line = true ↔ String.ofList line ≠ "" ∧
      ∃ word ∈ ["karma", "account age", "verification", "verified"],
        word.toList <:+: (lowered (String.ofList line)).toList := by
  have visible : line.isEmpty = false ↔ String.ofList line ≠ "" := by
    rw [List.isEmpty_eq_false_iff, Ne, Ne, ← String.toList_eq_nil_iff, String.toList_ofList]
  simp only [isNote, Bool.and_eq_true, Bool.not_eq_true', visible, List.any_eq_true,
    Text.occurs_eq_true_iff, lowered, String.toList_ofList, noteWords]

theorem noteOf?_eq_some_iff (line : List Char) (note : String) :
    noteOf? line = some note ↔
      note = String.ofList (Text.trim line) ∧ isNote (Text.trim line) = true := by
  unfold noteOf?
  split
  · next isNote => simp [isNote, eq_comm]
  · next other => simp [other]

/-- Empty lines make no notes, so the notes are those of the lines with characters. -/
theorem noteLines_eq (text : String) :
    noteLines text = (Text.filledLines (Text.lines text.toList)).filterMap noteOf? := by
  have nothing : noteOf? [] = none := rfl
  unfold noteLines Text.filledLines
  induction Text.lines text.toList with
  | nil => rfl
  | cons line rest inductionHypothesis =>
    have made : (((line :: rest).map Text.trim).filter isNote).map String.ofList =
        (noteOf? line).toList ++ ((rest.map Text.trim).filter isNote).map String.ofList := by
      unfold noteOf?
      by_cases qualifies : isNote (Text.trim line) = true <;> simp [qualifies]
    rw [made, inductionHypothesis]
    cases line with
    | nil => rw [nothing]; rfl
    | cons c line =>
      rw [List.filter_cons_of_pos rfl, List.filterMap_cons]
      cases noteOf? (c :: line) <;> rfl

/-- The lines that qualify are the notes of a text, repeated ones included. -/
theorem listsInOrder_noteLines (text : String) :
    ListsInOrder (NoteAt text.toList) (noteLines text) := by
  rw [noteLines_eq]
  apply ((Text.listsInOrder_lines text.toList).filterMap noteOf?).congr
  intro place note
  constructor
  · rintro ⟨⟨line, stands, rfl⟩, visible, mentions⟩
    refine ⟨line, stands, ?_⟩
    rw [noteOf?_eq_some_iff, isNote_iff]
    exact ⟨rfl, visible, mentions⟩
  · rintro ⟨line, stands, made⟩
    rw [noteOf?_eq_some_iff, isNote_iff] at made
    obtain ⟨rfl, visible, mentions⟩ := made
    exact ⟨⟨line, stands, rfl⟩, visible, mentions⟩

section Notes

variable {text : List Char} {place : Nat} {note : String}

/-- A note is trimmed already, and is compared as it is. -/
theorem NoteAt.tidy (stands : NoteAt text place note) :
    trimmed note = note ∧ Text.entryKey note = lowered note := by
  obtain ⟨line, -, rfl⟩ := stands.trims
  have same : trimmed (String.ofList (Text.trim line)) = String.ofList (Text.trim line) := by
    rw [trimmed, String.toList_ofList, Text.trim_of_solidEnds _ (Text.solidEnds_trim line)]
  exact ⟨same, by rw [Text.entryKey, same]⟩

theorem staysAt_noteAt_iff :
    Text.StaysAt (NoteAt text) place note ↔ FirstNoteAt text place note := by
  constructor
  · rintro ⟨entry, ⟨stands, visible, new⟩, rfl⟩
    obtain ⟨same, key⟩ := stands.tidy
    rw [same]
    refine ⟨stands, ?_⟩
    intro earlier other before alsoStands
    rw [← key, ← alsoStands.tidy.2]
    exact new earlier other before alsoStands
  · rintro ⟨stands, new⟩
    obtain ⟨same, key⟩ := stands.tidy
    refine ⟨note, ⟨stands, ?_, ?_⟩, same.symm⟩
    · rw [Ne, Text.entryKey_eq_empty_iff, same]
      exact stands.visible
    · intro earlier other before alsoStands
      rw [key, alsoStands.tidy.2]
      exact new earlier other before alsoStands

end Notes

/-- All notes without repetitions are the first ones of each spelling. -/
theorem listsInOrder_allNotes (text : String) :
    ListsInOrder (FirstNoteAt text.toList) (allNotes text) := by
  apply (Text.listsInOrder_dedupe (listsInOrder_noteLines text)).congr
  intro place note
  exact staysAt_noteAt_iff.symm

/-- Notes are the first ones of a text that differ by more than case. -/
structure AreFirstNotes (text : List Char) (limit : Nat) (notes : List String) : Prop where
  bounded : notes.length ≤ limit
  stated : ∀ note ∈ notes, ∃ place, NoteAt text place note
  distinct : notes.Pairwise fun one other => lowered one ≠ lowered other
  inOrder : notes.Pairwise fun one next => ∃ place later, place < later ∧
    FirstNoteAt text place one ∧ FirstNoteAt text later next
  complete : notes.length < limit → ∀ place note, NoteAt text place note →
    ∃ kept ∈ notes, lowered kept = lowered note
  /-- What the limit leaves out stands behind what is kept. -/
  first : ∃ all, ListsInOrder (FirstNoteAt text) all ∧ notes = all.take limit

/-- The first notes of a list of all that are first in their spelling. -/
theorem AreFirstNotes.take (text : List Char) (limit : Nat) (all : List String)
    (lists : ListsInOrder (FirstNoteAt text) all) : AreFirstNotes text limit (all.take limit) where
  bounded := List.length_take_le limit all
  stated := by
    intro note kept
    obtain ⟨place, stands⟩ := (lists.mem_iff note).mp (List.mem_of_mem_take kept)
    exact ⟨place, stands.toNoteAt⟩
  distinct := by
    apply (lists.pairwise.sublist (List.take_sublist limit all)).imp
    rintro one other ⟨place, later, before, stands, alsoStands⟩
    exact alsoStands.new place one before stands.toNoteAt
  inOrder := lists.pairwise.sublist (List.take_sublist limit all)
  complete := by
    intro short place note stands
    have whole : all.take limit = all := by
      rw [List.length_take] at short
      exact List.take_of_length_le (by omega)
    obtain ⟨same, key⟩ := stands.tidy
    have visible : Text.entryKey note ≠ "" := by
      rw [Ne, Text.entryKey_eq_empty_iff, same]
      exact stands.visible
    obtain ⟨start, kept, isFirst, alike⟩ := Text.exists_isFirst stands visible
    rw [isFirst.stood.tidy.2, key] at alike
    have stays : FirstNoteAt text start kept :=
      staysAt_noteAt_iff.mp ⟨kept, isFirst, isFirst.stood.tidy.1.symm⟩
    rw [whole]
    exact ⟨kept, (lists.mem_iff kept).mpr ⟨start, stays⟩, alike⟩
  first := ⟨all, lists, rfl⟩

/-- Notes are kept as they are when repetitions are removed. -/
theorem AreFirstNotes.dedupe_eq {text : List Char} {limit : Nat} {notes : List String}
    (areNotes : AreFirstNotes text limit notes) : Text.dedupe notes = notes := by
  have tidy (note : String) (kept : note ∈ notes) :
      trimmed note = note ∧ Text.entryKey note = lowered note ∧ note ≠ "" := by
    obtain ⟨place, stands⟩ := areNotes.stated note kept
    exact ⟨stands.tidy.1, stands.tidy.2, stands.visible⟩
  apply Text.dedupe_of_tidy
  · intro note kept
    obtain ⟨same, -, visible⟩ := tidy note kept
    refine ⟨same, ?_⟩
    rw [Ne, Text.entryKey_eq_empty_iff, same]
    exact visible
  · apply areNotes.distinct.imp_of_mem
    intro one other isOne isOther apart
    rw [(tidy one isOne).2.1, (tidy other isOther).2.1]
    exact apart

/-- The notes of a text are its first relevant lines, and rules keep them as they are.

There are at most as many as the limit says. Each is a trimmed line that is not empty and mentions a
relevant word in any case. They differ by more than case and stand in the order in which their
spellings first stand in the text; every relevant line equals one of them up to case if there are
fewer than the limit, and otherwise the ones left out come behind those that are kept. The extractor
answers with these notes, and whatever rules are published beside a wiki page, the compiled rules
have the first ten of its notes. -/
theorem notes_are_first_relevant_lines (text : String) (limit : Nat) :
    AreFirstNotes text.toList limit (wikiNotes text limit) ∧
      Extractor.notes.ask [.str text, .int limit] = Json.strings (wikiNotes text limit) ∧
      ∀ statements, (Rules.compile statements text).wikiNotes = wikiNotes text 10 := by
  have areNotes (limit : Nat) : AreFirstNotes text.toList limit (wikiNotes text limit) :=
    AreFirstNotes.take text.toList limit _ (listsInOrder_allNotes text)
  refine ⟨areNotes limit, ?_, ?_⟩
  · have asked : Extractor.notes.ask? [.str text, .int limit] =
        some (Json.strings (wikiNotes text limit)) := by
      simp [Extractor.ask?, searchText?_str, upTo?, wikiNotes]
    rw [Extractor.ask, asked, Option.getD_some]
  · intro statements
    exact (areNotes 10).dedupe_eq

end Extract

end Rulebook
