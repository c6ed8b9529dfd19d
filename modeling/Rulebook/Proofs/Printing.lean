import Rulebook.Json.Printer
import Rulebook.Json.Reader

/-!
# Texts of values

The indented text of a value tells the value: no two values without floating-point numbers are
written alike. So whoever reads what a command has printed knows what it has come to.

Texts stand inside each other, so the law is about beginnings: a text ends by itself, or, for an
integer, where no digit follows. What follows inside a text is a comma or a line break, which is
neither.

Strings are read back by the reader of the program. Numbers with a point are left out; their
shortest digits are a matter of their own.
-/

namespace Rulebook.Json

/-- Values are shown to have a property when lists and objects have it with their contents. -/
@[elab_as_elim]
theorem inductionOn {motive : Json → Prop} (value : Json) (null : motive .null)
    (bool : ∀ value, motive (.bool value)) (int : ∀ value, motive (.int value))
    (float : ∀ value, motive (.float value)) (str : ∀ value, motive (.str value))
    (arr : ∀ items, (∀ item ∈ items, motive item) → motive (.arr items))
    (obj : ∀ fields, (∀ field ∈ fields, motive field.2) → motive (.obj fields)) : motive value :=
  @Json.rec motive (fun items => ∀ item ∈ items, motive item)
    (fun fields => ∀ field ∈ fields, motive field.2) (fun field => motive field.2)
    null bool int float str (fun items => arr items) (fun fields => obj fields)
    (fun _ member => absurd member List.not_mem_nil)
    (fun _ _ first others => List.forall_mem_cons.mpr ⟨first, others⟩)
    (fun _ member => absurd member List.not_mem_nil)
    (fun _ _ first others => List.forall_mem_cons.mpr ⟨first, others⟩)
    (fun _ _ value => value) value

mutual

/-- True of values without floating-point numbers. -/
def isExact : Json → Bool
  | .float _ => false
  | .arr items => areExact items
  | .obj fields => fieldsExact fields
  | _ => true

/-- True of lists of values without floating-point numbers. -/
def areExact : List Json → Bool
  | [] => true
  | item :: rest => item.isExact && areExact rest

/-- True of fields of an object without floating-point numbers. -/
def fieldsExact : List (String × Json) → Bool
  | [] => true
  | (_, value) :: rest => value.isExact && fieldsExact rest

end

/-- A list without floating-point numbers holds none. -/
theorem isExact_of_mem (items : List Json) (exact : areExact items = true) :
    ∀ item ∈ items, item.isExact = true := by
  induction items with
  | nil => exact fun _ member => absurd member List.not_mem_nil
  | cons item rest inductionHypothesis =>
    rw [areExact, Bool.and_eq_true] at exact
    exact List.forall_mem_cons.mpr ⟨exact.1, inductionHypothesis exact.2⟩

/-- Nor do the fields of an object without them. -/
theorem isExact_of_field (fields : List (String × Json)) (exact : fieldsExact fields = true) :
    ∀ field ∈ fields, field.2.isExact = true := by
  induction fields with
  | nil => exact fun _ member => absurd member List.not_mem_nil
  | cons field rest inductionHypothesis =>
    obtain ⟨key, value⟩ := field
    rw [fieldsExact, Bool.and_eq_true] at exact
    exact List.forall_mem_cons.mpr ⟨exact.1, inductionHypothesis exact.2⟩

section Integers

/-- True of the characters that integers are written with. -/
def isMark (c : Char) : Bool := c == '-' || c.isDigit

/-- True of what can follow an integer: nothing that could belong to it. -/
def Clear (rest : List Char) : Prop := ∀ c ∈ rest.head?, isMark c = false

/-- Words of some characters end where another character follows. -/
theorem word_append_inj (inWord : Char → Bool) (word other rest tail : List Char)
    (within : ∀ c ∈ word, inWord c = true) (alsoWithin : ∀ c ∈ other, inWord c = true)
    (clear : ∀ c ∈ rest.head?, inWord c = false) (alsoClear : ∀ c ∈ tail.head?, inWord c = false)
    (same : word ++ rest = other ++ tail) : word = other ∧ rest = tail := by
  have stops (rest : List Char) (clear : ∀ c ∈ rest.head?, inWord c = false) :
      rest.takeWhile inWord = [] := by
    cases rest with
    | nil => rfl
    | cons c more => exact List.takeWhile_cons_of_neg (by simpa using clear c rfl)
  have words := congrArg (List.takeWhile inWord) same
  rw [List.takeWhile_append_of_pos within, List.takeWhile_append_of_pos alsoWithin,
    stops rest clear, stops tail alsoClear, List.append_nil, List.append_nil] at words
  subst words
  exact ⟨rfl, List.append_cancel_left same⟩

/-- Natural numbers with the same digits are the same. -/
theorem toDigits_inj {number other : Nat} (same : Nat.toDigits 10 number = Nat.toDigits 10 other) :
    number = other := by
  have valued := congrArg (Nat.ofDigitChars 10 · 0) same
  simpa only [Nat.ofDigitChars_toDigits (by decide : 1 < 10) (by decide : 10 ≤ 10)] using valued

/-- An integer is written with the digits of its size, behind a dash if it is negative. -/
theorem toList_toString (value : Int) :
    (toString value).toList =
      if 0 ≤ value then Nat.toDigits 10 value.toNat else '-' :: Nat.toDigits 10 (-value).toNat := by
  rw [Int.toString_eq_repr, Int.repr_eq_if]
  split
  · exact Nat.toList_repr
  · rw [String.toList_append, Nat.toList_repr]
    rfl

/-- Digits are marks. -/
theorem isMark_of_mem_toDigits (number : Nat) : ∀ c ∈ Nat.toDigits 10 number, isMark c = true := by
  intro c member
  rw [isMark, Nat.isDigit_of_mem_toDigits (by decide) (by decide) member, Bool.or_true]

/-- An integer is written with marks. -/
theorem isMark_of_mem_toString (value : Int) : ∀ c ∈ (toString value).toList, isMark c = true := by
  rw [toList_toString]
  split
  · exact isMark_of_mem_toDigits _
  · exact List.forall_mem_cons.mpr ⟨rfl, isMark_of_mem_toDigits _⟩

/-- Integers that are written alike are the same. -/
theorem toString_inj {value other : Int}
    (same : (toString value).toList = (toString other).toList) : value = other := by
  have dashless (number : Nat) (text : List Char) (dashed : Nat.toDigits 10 number = '-' :: text) :
      False := by
    have digit := Nat.isDigit_of_mem_toDigits (by decide) (by decide)
      (show '-' ∈ Nat.toDigits 10 number from dashed ▸ List.mem_cons_self)
    cases digit
  rw [toList_toString, toList_toString] at same
  split at same
  · split at same
    · have sizes := toDigits_inj same
      omega
    · exact (dashless _ _ same).elim
  · split at same
    · exact (dashless _ _ same.symm).elim
    · have sizes := toDigits_inj (List.cons.inj same).2
      omega

/-- The text of an integer tells it, and where it ends. -/
theorem int_append_inj (value other : Int) (rest tail : List Char) (clear : Clear rest)
    (alsoClear : Clear tail)
    (same : (toString value).toList ++ rest = (toString other).toList ++ tail) :
    value = other ∧ rest = tail := by
  obtain ⟨texts, rests⟩ := word_append_inj isMark _ _ rest tail (isMark_of_mem_toString value)
    (isMark_of_mem_toString other) clear alsoClear same
  exact ⟨toString_inj texts, rests⟩

end Integers

section Strings

/-- A hexadecimal digit is read as its value. -/
theorem hexValue?_hexDigit (digit : Nat) (single : digit < 16) :
    hexValue? (Text.hexDigit digit) = some digit := by
  have each : ∀ digit : Fin 16, hexValue? (Text.hexDigit digit) = some digit.val := by decide
  exact each ⟨digit, single⟩

/-- A sixteen-bit unit is read back from its escape. -/
theorem readUnit?_hexDigits (unit : Nat) (small : unit < 0x10000) (rest : List Char) :
    readUnit? (Text.hexDigits 4 unit ++ rest) = some (unit, rest) := by
  have number : ((unit / 16 / 16 / 16 % 16 * 16 + unit / 16 / 16 % 16) * 16 + unit / 16 % 16) * 16
      + unit % 16 = unit := by omega
  simp only [Text.hexDigits, List.nil_append, List.cons_append, readUnit?,
    hexValue?_hexDigit _ (Nat.mod_lt _ (by decide : 0 < 16)), Option.bind_eq_bind,
    Option.bind_some, number]
  rfl

/-- Two ranges of code points are no characters. -/
theorem toNat_range (c : Char) : c.toNat < 0xd800 ∨ 0xe000 ≤ c.toNat ∧ c.toNat < 0x110000 := by
  rcases c.valid with low | ⟨above, below⟩
  · exact Or.inl low
  · exact Or.inr ⟨above, below⟩

/-- A character of the sixteen-bit range is read back from its unit. -/
theorem readPoint?_unit (c : Char) (small : c.toNat < 0x10000) (rest : List Char) :
    readPoint? (Text.hexDigits 4 c.toNat ++ rest) = some (c, rest) := by
  have alone : ¬ (0xd800 ≤ c.toNat ∧ c.toNat < 0xdc00) := by
    have range := toNat_range c
    omega
  rw [readPoint?, readUnit?_hexDigits _ small]
  simp [alone, Char.ofNat_toNat]

/-- A character beyond the sixteen-bit range is read back from its two units. The first is told
from a character of its own by its range, which no character is in. -/
theorem readPoint?_pair (c : Char) (high low : Nat) (highest : high < 0x400) (lowest : low < 0x400)
    (point : 0x10000 + high * 0x400 + low = c.toNat) (rest : List Char) :
    readPoint? (Text.hexDigits 4 (0xd800 + high) ++ (escapeUnit (0xdc00 + low) ++ rest)) =
      some (c, rest) := by
  have second := readUnit?_hexDigits (0xdc00 + low) (by omega) rest
  have isFirst : (decide (0xd800 ≤ 0xd800 + high) && decide (0xd800 + high < 0xdc00)) = true := by
    rw [Bool.and_eq_true, decide_eq_true_iff, decide_eq_true_iff]
    omega
  have isSecond : (decide (0xdc00 ≤ 0xdc00 + low) && decide (0xdc00 + low < 0xe000)) = true := by
    rw [Bool.and_eq_true, decide_eq_true_iff, decide_eq_true_iff]
    omega
  rw [readPoint?, readUnit?_hexDigits _ (by omega), escapeUnit]
  simp only [Option.bind_eq_bind, Option.bind_some, List.cons_append, isFirst, if_true, second,
    isSecond, Nat.add_sub_cancel_left, point, Char.ofNat_toNat]
  rfl

/-- A character is read back from how it is written inside a string. -/
theorem readString?_escapeChar (fuel : Nat) (taken : List Char) (c : Char) (rest : List Char) :
    readString? (fuel + 1) taken (escapeChar c ++ rest) = readString? fuel (c :: taken) rest := by
  by_cases named : c = '"' ∨ c = '\\' ∨ c = '\n' ∨ c = '\r' ∨ c = '\t' ∨ c = '\x0c' ∨ c = '\x08'
  · rcases named with rfl | rfl | rfl | rfl | rfl | rfl | rfl <;> rfl
  · simp only [not_or] at named
    simp only [escapeChar, beq_iff_eq, named, if_false]
    split
    · next printable =>
      have spaced : ¬ c.toNat < 32 := by simpa using (Bool.and_eq_true_iff.mp printable).1
      rw [List.singleton_append, readString?]
      · rw [if_neg spaced]
      · exact named.1
      · exact fun _ backslash => absurd backslash named.2.1
      · exact fun _ _ backslash => absurd backslash named.2.1
    · split
      · next small =>
        rw [escapeUnit, List.cons_append, List.cons_append, readString?,
          readPoint?_unit c small rest]
      · next large =>
        have point := readPoint?_pair c ((c.toNat - 0x10000) / 0x400) ((c.toNat - 0x10000) % 0x400)
          (by have range := toNat_range c; omega) (Nat.mod_lt _ (by decide)) (by omega) rest
        rw [escapeUnit, List.append_assoc, List.cons_append, List.cons_append, readString?, point]

/-- The characters of a string are read back up to its closing quote. -/
theorem readString?_flatMap (text : List Char) (fuel : Nat) (taken rest : List Char)
    (enough : text.length < fuel) :
    readString? fuel taken (text.flatMap escapeChar ++ '"' :: rest) =
      some (String.ofList (taken.reverse ++ text), rest) := by
  induction text generalizing fuel taken with
  | nil =>
    obtain ⟨fuel, rfl⟩ := Nat.exists_eq_add_one_of_ne_zero (Nat.ne_of_gt enough)
    rw [List.flatMap_nil, List.nil_append, readString?, List.append_nil]
  | cons c text inductionHypothesis =>
    obtain ⟨fuel, rfl⟩ := Nat.exists_eq_add_one_of_ne_zero (Nat.ne_of_gt (Nat.zero_lt_of_lt enough))
    rw [List.flatMap_cons, List.append_assoc, readString?_escapeChar,
      inductionHypothesis fuel (c :: taken) (Nat.lt_of_succ_lt_succ enough), List.reverse_cons,
      List.append_assoc, List.singleton_append]

/-- The text of a string tells it, and where it ends. -/
theorem stringText_append_inj (string other : String) (rest tail : List Char)
    (same : (stringText string).toList ++ rest = (stringText other).toList ++ tail) :
    string = other ∧ rest = tail := by
  have opened (string : String) (rest : List Char) : (stringText string).toList ++ rest =
      '"' :: (string.toList.flatMap escapeChar ++ '"' :: rest) := by
    rw [stringText, String.toList_ofList, List.append_assoc, List.cons_append,
      List.singleton_append]
  have reads (string : String) (rest : List Char) (fuel : Nat)
      (enough : string.toList.length < fuel) :=
    readString?_flatMap string.toList fuel [] rest enough
  rw [opened, opened] at same
  have fuels := reads string rest (string.toList.length + other.toList.length + 1) (by omega)
  rw [(List.cons.inj same).2, reads other tail _ (by omega)] at fuels
  obtain ⟨strings, rests⟩ := Prod.mk.inj (Option.some.inj fuels)
  rw [List.reverse_nil, List.nil_append, List.nil_append, String.ofList_toList,
    String.ofList_toList] at strings
  exact ⟨strings.symm, rests.symm⟩

end Strings

/-- The texts that follow the first of several, each behind a comma on a line of its own. -/
def following (level : Nat) : List String → List Char
  | [] => []
  | text :: rest => ',' :: ((lineBreak level).toList ++ (text.toList ++ following level rest))

/-- The text of a field, without what is in front of it. -/
def entryText (level : Nat) (field : String × Json) : String :=
  stringText field.1 ++ ": " ++ indentedAt level field.2

/-- A line break begins with one character and goes on with others. -/
theorem exists_lineBreak (level : Nat) : ∃ spaces, (lineBreak level).toList = '\n' :: spaces := by
  rw [lineBreak, String.toList_ofList]
  exact ⟨_, rfl⟩

/-- Items stand behind each other. -/
theorem toList_indentedItems (level : Nat) (item : Json) (rest : List Json) :
    ',' :: (indentedItems level (item :: rest)).toList =
      following level ((item :: rest).map (indentedAt level)) := by
  induction rest generalizing item with
  | nil =>
    rw [indentedItems, String.toList_append, List.map_singleton, following, following,
      List.append_nil]
  | cons second rest inductionHypothesis =>
    rw [indentedItems, List.map_cons, following, ← inductionHypothesis second,
      String.toList_append, String.toList_append, String.toList_append, List.append_assoc,
      List.append_assoc]
    · rfl
    · exact List.cons_ne_nil _ _

/-- So do fields. -/
theorem toList_indentedFields (level : Nat) (field : String × Json) (rest : List (String × Json)) :
    ',' :: (indentedFields level (field :: rest)).toList =
      following level ((field :: rest).map (entryText level)) := by
  induction rest generalizing field with
  | nil =>
    obtain ⟨key, value⟩ := field
    rw [indentedFields, List.map_singleton, following, following, List.append_nil, entryText]
    simp only [String.toList_append, List.append_assoc]
  | cons second rest inductionHypothesis =>
    obtain ⟨key, value⟩ := field
    rw [indentedFields, List.map_cons, following, ← inductionHypothesis second, entryText]
    · simp only [String.toList_append, List.append_assoc]
      rfl
    · exact List.cons_ne_nil _ _

/-- Nothing of an integer comes behind a line break or a comma. -/
theorem clear_following (level : Nat) (texts : List String) (rest : List Char)
    (ends : ∃ more, rest = '\n' :: more) : Clear (following level texts ++ rest) := by
  obtain ⟨more, rfl⟩ := ends
  cases texts with
  | nil =>
    rintro c ⟨⟩
    rfl
  | cons text texts =>
    rintro c ⟨⟩
    rfl

/-- Texts behind each other tell what they are the texts of, if each of them does, and a line break
ends them. -/
theorem following_append_inj {α : Type} (print : α → String) (level : Nat) (items others : List α)
    (rest tail : List Char)
    (each : ∀ item ∈ items, ∀ other ∈ others, ∀ rest tail, Clear rest → Clear tail →
      (print item).toList ++ rest = (print other).toList ++ tail → item = other ∧ rest = tail)
    (ends : ∃ more, rest = '\n' :: more) (alsoEnds : ∃ more, tail = '\n' :: more)
    (same : following level (items.map print) ++ rest =
      following level (others.map print) ++ tail) :
    items = others ∧ rest = tail := by
  induction items generalizing others with
  | nil =>
    cases others with
    | nil => exact ⟨rfl, same⟩
    | cons other others =>
      obtain ⟨more, rfl⟩ := ends
      cases same
  | cons item items inductionHypothesis =>
    cases others with
    | nil =>
      obtain ⟨more, rfl⟩ := alsoEnds
      cases same
    | cons other others =>
      simp only [List.map_cons, following, List.cons_append, List.append_assoc, List.cons.injEq,
        true_and] at same
      obtain ⟨rfl, later⟩ := each item List.mem_cons_self other List.mem_cons_self _ _
        (clear_following level _ rest ends) (clear_following level _ tail alsoEnds)
        (List.append_cancel_left same)
      obtain ⟨rfl, rests⟩ := inductionHypothesis others
        (fun item member other among => each item (List.mem_cons_of_mem _ member) other
          (List.mem_cons_of_mem _ among)) later
      exact ⟨rfl, rests⟩

/-- The text of a list or an object: its texts on lines of their own between two characters. -/
def block (first last : Char) (level : Nat) (texts : List String) : List Char :=
  first :: match texts with
    | [] => [last]
    | text :: rest => (lineBreak (level + 1)).toList ++ (text.toList ++
        (following (level + 1) rest ++ ((lineBreak level).toList ++ [last])))

/-- A list is written as a block. -/
theorem toList_indentedAt_arr (level : Nat) (items : List Json) :
    (indentedAt level (.arr items)).toList =
      block '[' ']' level (items.map (indentedAt (level + 1))) := by
  cases items with
  | nil =>
    rw [indentedAt]
    rfl
  | cons item rest =>
    have inside := (List.cons.inj (toList_indentedItems (level + 1) item rest)).2
    rw [indentedAt, String.toList_append, String.toList_append, String.toList_append, inside]
    · simp only [List.append_assoc]
      rfl
    · exact List.cons_ne_nil _ _

/-- So is an object. -/
theorem toList_indentedAt_obj (level : Nat) (fields : List (String × Json)) :
    (indentedAt level (.obj fields)).toList =
      block '\x7b' '\x7d' level (fields.map (entryText (level + 1))) := by
  cases fields with
  | nil =>
    rw [indentedAt]
    rfl
  | cons field rest =>
    have inside := (List.cons.inj (toList_indentedFields (level + 1) field rest)).2
    rw [indentedAt, String.toList_append, String.toList_append, String.toList_append, inside]
    · simp only [List.append_assoc]
      rfl
    · exact List.cons_ne_nil _ _

/-- A block tells what its texts are the texts of, if each of them does, and where it ends. -/
theorem block_append_inj {α : Type} (print : α → String) (first last : Char) (level : Nat)
    (items others : List α) (rest tail : List Char)
    (each : ∀ item ∈ items, ∀ other ∈ others, ∀ rest tail, Clear rest → Clear tail →
      (print item).toList ++ rest = (print other).toList ++ tail → item = other ∧ rest = tail)
    (visible : last ≠ '\n')
    (same : block first last level (items.map print) ++ rest =
      block first last level (others.map print) ++ tail) :
    items = others ∧ rest = tail := by
  obtain ⟨spaces, broken⟩ := exists_lineBreak (level + 1)
  cases items with
  | nil =>
    cases others with
    | nil => exact ⟨rfl, (List.cons.inj (List.cons.inj same).2).2⟩
    | cons other others =>
      simp only [block, List.map_cons, broken] at same
      exact absurd (List.cons.inj (List.cons.inj same).2).1 visible
  | cons item items =>
    cases others with
    | nil =>
      simp only [block, List.map_cons, broken] at same
      exact absurd (List.cons.inj (List.cons.inj same).2).1.symm visible
    | cons other others =>
      have ends (rest : List Char) :
          ∃ more, (lineBreak level).toList ++ (last :: rest) = '\n' :: more := by
        obtain ⟨spaces, broken⟩ := exists_lineBreak level
        rw [broken]
        exact ⟨_, rfl⟩
      -- Behind a comma, the first text is one of those that follow.
      have behind : following (level + 1) ((item :: items).map print) ++
            ((lineBreak level).toList ++ (last :: rest)) =
          following (level + 1) ((other :: others).map print) ++
            ((lineBreak level).toList ++ (last :: tail)) := by
        simp only [block, List.map_cons, List.cons_append, List.append_assoc, List.nil_append]
          at same
        simp only [following, List.map_cons, List.cons_append, List.append_assoc,
          (List.cons.inj same).2]
      obtain ⟨same, rests⟩ := following_append_inj print (level + 1) _ _ _ _ each (ends rest)
        (ends tail) behind
      exact ⟨same, (List.cons.inj (List.append_cancel_left rests)).2⟩

/-- A field tells its key, and its value if that is told by its text. -/
theorem entryText_append_inj (level : Nat) (field other : String × Json) (rest tail : List Char)
    (value : (indentedAt level field.2).toList ++ rest =
      (indentedAt level other.2).toList ++ tail → field.2 = other.2 ∧ rest = tail)
    (same : (entryText level field).toList ++ rest = (entryText level other).toList ++ tail) :
    field = other ∧ rest = tail := by
  simp only [entryText, String.toList_append, List.append_assoc] at same
  obtain ⟨keys, values⟩ := stringText_append_inj field.1 other.1 _ _ same
  obtain ⟨values, rests⟩ := value (List.append_cancel_left values)
  exact ⟨Prod.ext keys values, rests⟩

/-- The character that the text of a value begins with, where all marks of integers count as one. -/
def lead : Json → Char
  | .null => 'n'
  | .bool true => 't'
  | .bool false => 'f'
  | .int _ => '0'
  | .float _ => '.'
  | .str _ => '"'
  | .arr _ => '['
  | .obj _ => '\x7b'

/-- The text of a value begins with its lead. -/
theorem exists_lead (level : Nat) (value : Json) (exact : value.isExact = true) :
    ∃ c text, (indentedAt level value).toList = c :: text ∧
      (if isMark c then '0' else c) = lead value := by
  cases value with
  | null =>
    rw [indentedAt]
    exact ⟨'n', _, rfl, rfl⟩
  | bool value =>
    rw [indentedAt]
    cases value with
    | false => exact ⟨'f', _, rfl, rfl⟩
    | true => exact ⟨'t', _, rfl, rfl⟩
  | int value =>
    have marks := isMark_of_mem_toString value
    cases written : (toString value).toList with
    | nil =>
      rw [toList_toString] at written
      split at written
      · exact absurd written Nat.toDigits_ne_nil
      · cases written
    | cons c text =>
      rw [written] at marks
      refine ⟨c, text, ?_, if_pos (marks c List.mem_cons_self)⟩
      rw [indentedAt, written]
  | float value => cases exact
  | str value =>
    rw [indentedAt, stringText, String.toList_ofList]
    exact ⟨_, _, rfl, rfl⟩
  | arr items =>
    rw [toList_indentedAt_arr]
    exact ⟨_, _, rfl, rfl⟩
  | obj fields =>
    rw [toList_indentedAt_obj]
    exact ⟨_, _, rfl, rfl⟩

/-- Texts that begin alike are those of values of one kind. -/
theorem lead_eq (level : Nat) (value other : Json) (rest tail : List Char)
    (exact : value.isExact = true) (alsoExact : other.isExact = true)
    (same : (indentedAt level value).toList ++ rest = (indentedAt level other).toList ++ tail) :
    lead value = lead other := by
  obtain ⟨c, text, written, leads⟩ := exists_lead level value exact
  obtain ⟨d, otherText, otherWritten, otherLeads⟩ := exists_lead level other alsoExact
  rw [written, otherWritten] at same
  rw [← leads, ← otherLeads, (List.cons.inj same).1]

/-- The text of a value tells it, and where it ends, if nothing follows that could belong to an
integer. The induction is over the value, whose texts stand inside its own. -/
theorem indentedAt_append_inj (value other : Json) (level : Nat) (rest tail : List Char)
    (exact : value.isExact = true) (alsoExact : other.isExact = true) (clear : Clear rest)
    (alsoClear : Clear tail)
    (same : (indentedAt level value).toList ++ rest = (indentedAt level other).toList ++ tail) :
    value = other ∧ rest = tail := by
  have leads := lead_eq level value other rest tail exact alsoExact same
  induction value using inductionOn generalizing other level rest tail with
  | null =>
    cases other with
    | null => exact ⟨rfl, List.append_cancel_left same⟩
    | bool answer => cases answer <;> cases leads
    | _ => cases leads
  | bool answer =>
    cases other with
    | bool otherAnswer =>
      obtain rfl : answer = otherAnswer := by
        cases answer <;> cases otherAnswer <;> cases leads <;> rfl
      exact ⟨rfl, List.append_cancel_left same⟩
    | _ => cases answer <;> cases leads
  | int number =>
    cases other with
    | int otherNumber =>
      rw [indentedAt, indentedAt] at same
      obtain ⟨rfl, rests⟩ := int_append_inj number otherNumber rest tail clear alsoClear same
      exact ⟨rfl, rests⟩
    | bool answer => cases answer <;> cases leads
    | _ => cases leads
  | float number => cases exact
  | str string =>
    cases other with
    | str otherString =>
      rw [indentedAt, indentedAt] at same
      obtain ⟨rfl, rests⟩ := stringText_append_inj string otherString rest tail same
      exact ⟨rfl, rests⟩
    | bool answer => cases answer <;> cases leads
    | _ => cases leads
  | arr items each =>
    cases other with
    | arr others =>
      rw [isExact] at exact alsoExact
      rw [toList_indentedAt_arr, toList_indentedAt_arr] at same
      have told : ∀ item ∈ items, ∀ other ∈ others, ∀ rest tail, Clear rest → Clear tail →
          (indentedAt (level + 1) item).toList ++ rest =
            (indentedAt (level + 1) other).toList ++ tail → item = other ∧ rest = tail := by
        intro item member other among rest tail clear alsoClear same
        have exact := isExact_of_mem items exact item member
        have alsoExact := isExact_of_mem others alsoExact other among
        exact each item member other _ rest tail exact alsoExact clear alsoClear same
          (lead_eq _ item other rest tail exact alsoExact same)
      obtain ⟨rfl, rests⟩ := block_append_inj (indentedAt (level + 1)) '[' ']' level items others
        rest tail told (by decide) same
      exact ⟨rfl, rests⟩
    | bool answer => cases answer <;> cases leads
    | _ => cases leads
  | obj fields each =>
    cases other with
    | obj others =>
      rw [isExact] at exact alsoExact
      rw [toList_indentedAt_obj, toList_indentedAt_obj] at same
      have told : ∀ field ∈ fields, ∀ other ∈ others, ∀ rest tail, Clear rest → Clear tail →
          (entryText (level + 1) field).toList ++ rest =
            (entryText (level + 1) other).toList ++ tail → field = other ∧ rest = tail := by
        intro field member other among rest tail clear alsoClear same
        have exact := isExact_of_field fields exact field member
        have alsoExact := isExact_of_field others alsoExact other among
        refine entryText_append_inj _ field other rest tail (fun same => ?_) same
        exact each field member other.2 _ rest tail exact alsoExact clear alsoClear same
          (lead_eq _ field.2 other.2 rest tail exact alsoExact same)
      obtain ⟨rfl, rests⟩ := block_append_inj (entryText (level + 1)) '\x7b' '\x7d' level fields
        others rest tail told (by decide) same
      exact ⟨rfl, rests⟩
    | bool answer => cases answer <;> cases leads
    | _ => cases leads

/-- Values that are written alike are the same. -/
theorem indented_inj (value other : Json) (exact : value.isExact = true)
    (alsoExact : other.isExact = true) (same : value.indented = other.indented) :
    value = other := by
  have clear : Clear [] := fun c none => nomatch none
  have texts : (indentedAt 0 value).toList ++ [] = (indentedAt 0 other).toList ++ [] := by
    rw [List.append_nil, List.append_nil]
    exact congrArg String.toList same
  exact (indentedAt_append_inj value other 0 [] [] exact alsoExact clear clear texts).1

end Rulebook.Json
