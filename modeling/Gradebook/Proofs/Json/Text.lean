import Gradebook.Proofs.Doubles
import Gradebook.Proofs.Json.Keep

namespace Gradebook

namespace Json

/-!
# Values read back from their texts

The text of a value holds the value again, but for its numbers: each is replaced
by what its own text is read as.  `Json.written` is the document with these
replacements, and the parser is shown to find it.

A text with one member a line holds the same document as a text without blanks.  The two
differ in their `Json.Spacing` alone, and the parser is followed once, over the text of a
value with any spacing.

A value comes back unchanged just when it is durable: all its numbers are read as
themselves, no object in it stands for a text, and it is not too deep.
-/

/-! ## The document of a text -/

/-- A key as it stands between its quotes. -/
def spellWritten (key : String) : List Char :=
  key.toList.flatMap writeChar

mutual

/-- The document that the text of a value holds. -/
def written : Json → Document
  | .null => .null
  | .bool b => .bool b
  | .number n => .number n.reread
  | .string s => .string (.ok s)
  | .array items => .array (writtenItems items) .closed
  | .object members => .object (writtenMembers members) .closed

/-- The documents that the texts of all items hold. -/
def writtenItems : List Json → List Document
  | [] => []
  | item :: rest => written item :: writtenItems rest

/-- The members that the texts of all members hold. -/
def writtenMembers : List (String × Json) → List (Key × Document)
  | [] => []
  | (key, value) :: rest => (⟨spellWritten key, .ok key⟩, written value) :: writtenMembers rest

end

/-! ## Blanks between tokens -/

/-- Whether a text consists of blanks. -/
def Blank (gap : List Char) : Prop :=
  ∀ c ∈ gap, isBlank c = true

theorem blank_nil : Blank [] := nofun

/-- The blanks of a text: those in front of the items and the end of a list, by its
depth, and those behind a colon. -/
structure Spacing where
  line : Nat → List Char
  colon : List Char
  blank_line : ∀ depth, Blank (line depth)
  blank_colon : Blank colon

/-- No blanks at all. -/
def Spacing.compact : Spacing where
  line _ := []
  colon := []
  blank_line _ := blank_nil
  blank_colon := blank_nil

@[simp] theorem Spacing.line_compact (depth : Nat) : compact.line depth = [] := rfl

@[simp] theorem Spacing.colon_compact : compact.colon = [] := rfl

theorem blank_newLine (depth : Nat) : Blank (newLine depth) := by
  intro c listed
  rcases List.mem_cons.1 listed with rfl | later
  · rfl
  · rw [List.eq_of_mem_replicate later]
    rfl

/-- One item or member a line. -/
def Spacing.lines : Spacing where
  line := newLine
  colon := [' ']
  blank_line := blank_newLine
  blank_colon c listed := by
    rw [List.mem_singleton.1 listed]
    rfl

@[simp] theorem Spacing.line_lines (depth : Nat) : lines.line depth = newLine depth := rfl

@[simp] theorem Spacing.colon_lines : lines.colon = [' '] := rfl

mutual

/-- Write a value with some spacing. -/
def writeSpaced (spacing : Spacing) (depth : Nat) : Json → List Char
  | .array [] => ['[', ']']
  | .array items =>
    '[' :: (spacing.line (depth + 1) ++ (writeSpacedItems spacing (depth + 1) items ++
      (spacing.line depth ++ [']'])))
  | .object [] => ['\x7b', '\x7d']
  | .object members =>
    '\x7b' :: (spacing.line (depth + 1) ++ (writeSpacedMembers spacing (depth + 1) members ++
      (spacing.line depth ++ ['\x7d'])))
  | scalar => writeScalar scalar

/-- Write items with some spacing. -/
def writeSpacedItems (spacing : Spacing) (depth : Nat) : List Json → List Char
  | [] => []
  | [item] => writeSpaced spacing depth item
  | item :: rest =>
    writeSpaced spacing depth item ++ ',' ::
      (spacing.line depth ++ writeSpacedItems spacing depth rest)

/-- Write members with some spacing. -/
def writeSpacedMembers (spacing : Spacing) (depth : Nat) : List (String × Json) → List Char
  | [] => []
  | [(key, value)] =>
    writeString key ++ ':' :: (spacing.colon ++ writeSpaced spacing depth value)
  | (key, value) :: rest =>
    writeString key ++ ':' :: (spacing.colon ++ (writeSpaced spacing depth value ++
      ',' :: (spacing.line depth ++ writeSpacedMembers spacing depth rest)))

end

mutual

theorem writeSpaced_compact : ∀ (value : Json) (depth : Nat),
    writeSpaced .compact depth value = value.writeCompact
  | .null, _ | .bool _, _ | .number _, _ | .string _, _ => by
      simp only [writeSpaced, writeCompact]
  | .array [], _ | .object [], _ => rfl
  | .array (item :: items), depth => by
      simp only [writeSpaced, writeCompact, writeSpacedItems_compact (item :: items),
        Spacing.line_compact, List.cons_append, List.nil_append]
  | .object (member :: members), depth => by
      simp only [writeSpaced, writeCompact, writeSpacedMembers_compact (member :: members),
        Spacing.line_compact, List.cons_append, List.nil_append]

theorem writeSpacedItems_compact : ∀ (items : List Json) (depth : Nat),
    writeSpacedItems .compact depth items = writeItems items
  | [], _ => rfl
  | [item], depth => by
      simp only [writeSpacedItems, writeItems, writeSpaced_compact item]
  | item :: next :: items, depth => by
      simp only [writeSpacedItems, writeItems, writeSpaced_compact item,
        writeSpacedItems_compact (next :: items), Spacing.line_compact, List.nil_append]

theorem writeSpacedMembers_compact : ∀ (members : List (String × Json)) (depth : Nat),
    writeSpacedMembers .compact depth members = writeMembers members
  | [], _ => rfl
  | [(key, value)], depth => by
      simp only [writeSpacedMembers, writeMembers, writeSpaced_compact value, Spacing.colon_compact,
        List.nil_append]
  | (key, value) :: next :: members, depth => by
      simp only [writeSpacedMembers, writeMembers, writeSpaced_compact value,
        writeSpacedMembers_compact (next :: members), Spacing.line_compact, Spacing.colon_compact,
        List.append_assoc, List.cons_append, List.nil_append]

end

mutual

theorem writeSpaced_lines : ∀ (value : Json) (depth : Nat),
    writeSpaced .lines depth value = value.writePretty depth
  | .null, _ | .bool _, _ | .number _, _ | .string _, _ => by
      simp only [writeSpaced, writePretty]
  | .array [], _ | .object [], _ => rfl
  | .array (item :: items), depth => by
      simp only [writeSpaced, writePretty, writeSpacedItems_lines (item :: items),
        Spacing.line_lines, List.append_assoc, List.cons_append]
  | .object (member :: members), depth => by
      simp only [writeSpaced, writePretty, writeSpacedMembers_lines (member :: members),
        Spacing.line_lines, List.append_assoc, List.cons_append]

theorem writeSpacedItems_lines : ∀ (items : List Json) (depth : Nat),
    writeSpacedItems .lines depth items = writePrettyItems depth items
  | [], _ => rfl
  | [item], depth => by
      simp only [writeSpacedItems, writePrettyItems, writeSpaced_lines item]
  | item :: next :: items, depth => by
      simp only [writeSpacedItems, writePrettyItems, writeSpaced_lines item,
        writeSpacedItems_lines (next :: items), Spacing.line_lines, List.append_assoc,
        List.cons_append]

theorem writeSpacedMembers_lines : ∀ (members : List (String × Json)) (depth : Nat),
    writeSpacedMembers .lines depth members = writePrettyMembers depth members
  | [], _ => rfl
  | [(key, value)], depth => by
      simp only [writeSpacedMembers, writePrettyMembers, writeSpaced_lines value,
        Spacing.colon_lines, List.cons_append, List.nil_append]
  | (key, value) :: next :: members, depth => by
      simp only [writeSpacedMembers, writePrettyMembers, writeSpaced_lines value,
        writeSpacedMembers_lines (next :: members), Spacing.line_lines, Spacing.colon_lines,
        List.append_assoc, List.cons_append, List.nil_append]

end

/-! ## First characters -/

theorem skipBlanks_cons {c : Char} (visible : isBlank c = false) (rest : List Char) :
    skipBlanks (c :: rest) = c :: rest :=
  List.dropWhile_cons_of_neg (Bool.eq_false_iff.1 visible)

/-- Blanks in front of a text are skipped with those that it begins with. -/
theorem skipBlanks_append {gap : List Char} (blank : Blank gap) (text : List Char) :
    skipBlanks (gap ++ text) = skipBlanks text :=
  List.dropWhile_append_of_pos blank

theorem skipBlanks_gap {gap : List Char} {c : Char} (blank : Blank gap)
    (visible : isBlank c = false) (rest : List Char) :
    skipBlanks (gap ++ c :: rest) = c :: rest :=
  (skipBlanks_append blank (c :: rest)).trans (skipBlanks_cons visible rest)

theorem exists_cons_of_scanNumber {text left : List Char} {n : Option Number}
    (scanned : scanNumber text = .ok (n, left)) :
    ∃ c rest, text = c :: rest ∧ (c = '-' ∨ c.isDigit = true) := by
  cases text with
  | nil => cases scanned
  | cons c rest =>
      refine ⟨c, rest, rfl, ?_⟩
      by_cases minus : c = '-'
      · exact .inl minus
      · rw [scanNumber_eq, unsigned_cons minus, scanUnsigned_eq_ok_iff] at scanned
        right
        apply Bool.eq_true_of_not_eq_false
        intro other
        exact scanned.1 (List.takeWhile_cons_of_neg (Bool.eq_false_iff.1 other))

theorem ne_of_first {c : Char} (first : c = '-' ∨ c.isDigit = true) (other : Char)
    (different : other ≠ '-' ∧ other.isDigit = false) : c ≠ other := by
  rintro rfl
  rcases first with minus | digit
  · exact different.1 minus
  · exact absurd digit (Bool.eq_false_iff.1 different.2)

theorem isBlank_of_first {c : Char} (first : c = '-' ∨ c.isDigit = true) : isBlank c = false := by
  simp only [isBlank, ne_of_first first ' ' (by decide), ne_of_first first '\n' (by decide),
    ne_of_first first '\t' (by decide), ne_of_first first '\r' (by decide), decide_false,
    Bool.or_false]

/-- A value is written with a first character that neither is a blank nor ends a
list. -/
theorem exists_cons_writeSpaced (spacing : Spacing) (depth : Nat) (value : Json) :
    ∃ c rest, writeSpaced spacing depth value = c :: rest ∧ isBlank c = false ∧ c ≠ ']' := by
  cases value with
  | null => exact ⟨'n', _, rfl, rfl, by decide⟩
  | bool b =>
      cases b with
      | true => exact ⟨'t', _, rfl, rfl, by decide⟩
      | false => exact ⟨'f', _, rfl, rfl, by decide⟩
  | number n =>
      obtain ⟨c, rest, text, first⟩ := exists_cons_of_scanNumber n.scanNumber_write
      exact ⟨c, rest, text, isBlank_of_first first, ne_of_first first ']' (by decide)⟩
  | string s => exact ⟨'"', _, rfl, rfl, by decide⟩
  | array items => cases items <;> exact ⟨'[', _, rfl, rfl, by decide⟩
  | object members => cases members <;> exact ⟨'\x7b', _, rfl, rfl, by decide⟩

theorem exists_cons_writeSpacedItems (spacing : Spacing) (depth : Nat) (item : Json)
    (items : List Json) : ∃ c rest, writeSpacedItems spacing depth (item :: items) = c :: rest ∧
      isBlank c = false ∧ c ≠ ']' := by
  rcases exists_cons_writeSpaced spacing depth item with ⟨c, text, first, visible, inside⟩
  cases items with
  | nil => exact ⟨c, text, first, visible, inside⟩
  | cons next items =>
      refine ⟨c, text ++ ',' :: (spacing.line depth ++
        writeSpacedItems spacing depth (next :: items)), ?_, visible, inside⟩
      rw [writeSpacedItems, first, List.cons_append]
      nofun

theorem exists_cons_writeSpacedMembers (spacing : Spacing) (depth : Nat) (member : String × Json)
    (members : List (String × Json)) :
    ∃ rest, writeSpacedMembers spacing depth (member :: members) = '"' :: rest := by
  rcases member with ⟨key, value⟩
  cases members with
  | nil => exact ⟨_, rfl⟩
  | cons next members => exact ⟨_, rfl⟩

/-! ## Reading back -/

section Gaps

variable {gap : List Char}

/-- Blanks in front of a value do not count. -/
theorem scanValue_append (blank : Blank gap) (fuel : Nat) (text : List Char) :
    scanValue fuel (gap ++ text) = scanValue fuel text := by
  cases fuel with
  | zero => rfl
  | succ fuel => simp only [scanValue, skipBlanks_append blank]

theorem scanMembers_append (blank : Blank gap) (fuel : Nat) (text : List Char) :
    scanMembers fuel (gap ++ text) = scanMembers fuel text := by
  cases fuel with
  | zero => rfl
  | succ fuel => simp only [scanMembers, skipBlanks_append blank]

end Gaps

theorem scanValue_number {text rest : List Char} {n : Option Number} (fuel : Nat)
    (stops : Decimal.Stops continuesNumber rest) (scanned : scanNumber text = .ok (n, [])) :
    scanValue (fuel + 1) (text ++ rest) = (.number n, some rest) := by
  have appended := scanNumber_append stops scanned
  obtain ⟨c, more, rfl, first⟩ := exists_cons_of_scanNumber scanned
  rw [List.cons_append] at appended
  have kind : (c = '-' || c.isDigit) = true := by
    rw [Bool.or_eq_true, decide_eq_true_eq]
    exact first
  rw [scanValue]
  simp only [List.cons_append, skipBlanks_cons (isBlank_of_first first),
    ne_of_first first '"' (by decide), ne_of_first first '[' (by decide),
    ne_of_first first '\x7b' (by decide), ne_of_first first 'n' (by decide),
    ne_of_first first 't' (by decide), ne_of_first first 'f' (by decide),
    kind, appended, if_false, if_true]
  rfl

theorem writeString_append (key : String) (rest : List Char) :
    writeString key ++ rest = '"' :: (key.toList.flatMap writeChar ++ '"' :: rest) := by
  simp only [writeString, List.cons_append, List.append_assoc, List.nil_append]

theorem scanValue_string {s : String} {rest : List Char} {fuel : Nat}
    (enough : s.toList.length < fuel) :
    scanValue (fuel + 1) (writeString s ++ rest) = (.string (.ok s), some rest) := by
  have scanned := scanString_written s rest enough
  rw [writeString_append, scanValue]
  simp only [skipBlanks_cons (c := '"') rfl, if_true, scanned]

theorem scanValue_array {gap : List Char} {c : Char} (blank : Blank gap)
    (visible : isBlank c = false) (inside : c ≠ ']') (fuel : Nat) (text : List Char) :
    scanValue (fuel + 1) ('[' :: (gap ++ c :: text)) =
      (.array (scanItems fuel (c :: text)).1 (scanItems fuel (c :: text)).2.1,
        (scanItems fuel (c :: text)).2.2) := by
  rw [scanValue]
  simp only [skipBlanks_cons (c := '[') rfl, skipBlanks_gap blank visible, Char.reduceEq,
    if_false, if_true]
  split
  · next empty => cases empty
  · next closed => exact absurd (List.cons.inj closed).1 inside
  · rfl

theorem scanValue_object {gap : List Char} {c : Char} (blank : Blank gap)
    (visible : isBlank c = false) (inside : c ≠ '\x7d') (fuel : Nat) (text : List Char) :
    scanValue (fuel + 1) ('\x7b' :: (gap ++ c :: text)) =
      (.object (scanMembers fuel (c :: text)).1 (scanMembers fuel (c :: text)).2.1,
        (scanMembers fuel (c :: text)).2.2) := by
  rw [scanValue]
  simp only [skipBlanks_cons (c := '\x7b') rfl, skipBlanks_gap blank visible, Char.reduceEq,
    if_false, if_true]
  split
  · next empty => cases empty
  · next closed => exact absurd (List.cons.inj closed).1 inside
  · rfl

section Lists

variable {fuel : Nat} {gap text rest : List Char} {document : Document}

theorem scanItems_last (blank : Blank gap)
    (scanned : scanValue fuel text = (document, some (gap ++ ']' :: rest))) :
    scanItems (fuel + 1) text = ([document], .closed, some rest) := by
  rw [scanItems, scanned]
  simp only [skipBlanks_gap blank (c := ']') rfl, if_true]

theorem scanItems_next {c : Char} (blank : Blank gap)
    (scanned : scanValue fuel text = (document, some (',' :: (gap ++ c :: rest))))
    (visible : isBlank c = false) (inside : c ≠ ']') :
    scanItems (fuel + 1) text = (document :: (scanItems fuel (c :: rest)).1,
      (scanItems fuel (c :: rest)).2.1, (scanItems fuel (c :: rest)).2.2) := by
  rw [scanItems, scanned]
  simp only [skipBlanks_cons (c := ',') rfl, skipBlanks_gap blank visible, Char.reduceEq,
    if_false, if_true]
  split
  · next closed => exact absurd (List.cons.inj closed).1 inside
  · rfl

variable {key : String}

theorem scanMembers_last (enough : key.toList.length < fuel) (blank : Blank gap)
    (scanned : scanValue fuel text = (document, some (gap ++ '\x7d' :: rest))) :
    scanMembers (fuel + 1) (writeString key ++ ':' :: text) =
      ([(⟨spellWritten key, .ok key⟩, document)], .closed, some rest) := by
  rw [writeString_append, scanMembers]
  simp only [skipBlanks_cons (c := '"') rfl, scanString_written key _ enough, spelling_written,
    skipBlanks_cons (c := ':') rfl, scanned, skipBlanks_gap blank (c := '\x7d') rfl, if_true]
  rfl

theorem scanMembers_next (enough : key.toList.length < fuel) (blank : Blank gap)
    (scanned : scanValue fuel text = (document, some (',' :: (gap ++ rest)))) :
    scanMembers (fuel + 1) (writeString key ++ ':' :: text) =
      ((⟨spellWritten key, .ok key⟩, document) :: (scanMembers fuel rest).1,
        (scanMembers fuel rest).2.1, (scanMembers fuel rest).2.2) := by
  rw [writeString_append, scanMembers]
  simp only [skipBlanks_cons (c := '"') rfl, scanString_written key _ enough, spelling_written,
    skipBlanks_cons (c := ':') rfl, scanned, skipBlanks_cons (c := ',') rfl, Char.reduceEq,
    scanMembers_append blank, if_false, if_true]
  rfl

end Lists

theorem length_le_length_flatMap (content : List Char) :
    content.length ≤ (content.flatMap writeChar).length := by
  induction content with
  | nil => exact Nat.le_refl 0
  | cons c content inductionHypothesis =>
      have one : 1 ≤ (writeChar c).length := by
        unfold writeChar
        split_ifs <;> simp only [List.length_cons, List.length_nil] <;> omega
      rw [List.flatMap_cons, List.length_append, List.length_cons]
      omega

theorem length_key (key : String) : key.toList.length + 2 ≤ (writeString key).length := by
  have content := length_le_length_flatMap key.toList
  simp only [writeString, List.length_append, List.length_cons, List.length_nil]
  omega

theorem continuesNumber_of_blank {c : Char} (blank : isBlank c = true) :
    continuesNumber c = false := by
  simp only [isBlank, Bool.or_eq_true, decide_eq_true_eq] at blank
  rcases blank with ((rfl | rfl) | rfl) | rfl <;> rfl

/-- A number ends where blanks or the end of its list stand. -/
theorem stops_separator {gap : List Char} {c : Char} (blank : Blank gap) (rest : List Char)
    (separator : c ∈ [',', ']', '\x7d']) : Decimal.Stops continuesNumber (gap ++ c :: rest) := by
  cases gap with
  | cons first gap =>
      apply Decimal.stops_cons
      exact continuesNumber_of_blank (blank first List.mem_cons_self)
  | nil =>
      apply Decimal.stops_cons
      simp only [List.mem_cons, List.not_mem_nil, or_false] at separator
      rcases separator with rfl | rfl | rfl <;> rfl

section Spaced

variable (spacing : Spacing)

mutual

/-- The parser finds in the text of a value the document that it holds. -/
theorem scanValue_writeSpaced : ∀ (value : Json) (depth fuel : Nat) (rest : List Char),
    2 * (writeSpaced spacing depth value).length ≤ fuel →
      Decimal.Stops continuesNumber rest →
      scanValue fuel (writeSpaced spacing depth value ++ rest) = (value.written, some rest)
  | value, depth, 0, _, enough, _ => by
      rcases exists_cons_writeSpaced spacing depth value with ⟨c, text, first, _, _⟩
      rw [first, List.length_cons] at enough
      omega
  | .null, _, fuel + 1, rest, _, _ => rfl
  | .bool true, _, fuel + 1, rest, _, _ => rfl
  | .bool false, _, fuel + 1, rest, _, _ => rfl
  | .number n, _, fuel + 1, rest, _, stops => scanValue_number fuel stops n.scanNumber_write
  | .string s, _, fuel + 1, rest, enough, _ => by
      have length := length_key s
      simp only [writeSpaced, writeScalar] at enough
      exact scanValue_string (by omega)
  | .array [], _, fuel + 1, rest, _, _ => rfl
  | .array (item :: items), depth, fuel + 1, rest, enough, _ => by
      rcases exists_cons_writeSpacedItems spacing (depth + 1) item items with
        ⟨c, text, first, visible, inside⟩
      simp only [writeSpaced, List.length_append, List.length_cons, List.length_nil] at enough
      have scanned := scanItems_writeSpaced (item :: items) (depth + 1) fuel rest
        (spacing.line depth) (spacing.blank_line depth) nofun (by omega)
      rw [first, List.cons_append] at scanned
      simp only [writeSpaced, first, List.cons_append, List.append_assoc, List.nil_append]
      rw [scanValue_array (spacing.blank_line (depth + 1)) visible inside, scanned]
      simp only [written]
  | .object [], _, fuel + 1, rest, _, _ => rfl
  | .object (member :: members), depth, fuel + 1, rest, enough, _ => by
      rcases exists_cons_writeSpacedMembers spacing (depth + 1) member members with ⟨text, first⟩
      simp only [writeSpaced, List.length_append, List.length_cons, List.length_nil] at enough
      have scanned := scanMembers_writeSpaced (member :: members) (depth + 1) fuel rest
        (spacing.line depth) (spacing.blank_line depth) nofun (by omega)
      rw [first, List.cons_append] at scanned
      simp only [writeSpaced, first, List.cons_append, List.append_assoc, List.nil_append]
      rw [scanValue_object (spacing.blank_line (depth + 1)) (c := '"') rfl (by decide), scanned]
      simp only [written]

theorem scanItems_writeSpaced : ∀ (items : List Json) (depth fuel : Nat) (rest gap : List Char),
    Blank gap → items ≠ [] → 2 * (writeSpacedItems spacing depth items).length + 1 ≤ fuel →
      scanItems fuel (writeSpacedItems spacing depth items ++ (gap ++ ']' :: rest)) =
        (writtenItems items, .closed, some rest)
  | [], _, _, _, _, _, nonempty, _ => absurd rfl nonempty
  | _ :: _, _, 0, _, _, _, _, enough => absurd enough (Nat.not_succ_le_zero _)
  | [item], depth, fuel + 1, rest, gap, blank, _, enough => by
      have scanned := scanValue_writeSpaced item depth fuel (gap ++ ']' :: rest)
        (Nat.le_of_succ_le_succ enough) (stops_separator blank rest (by decide))
      simp only [writeSpacedItems, writtenItems]
      exact scanItems_last blank scanned
  | item :: next :: items, depth, fuel + 1, rest, gap, blank, _, enough => by
      rcases exists_cons_writeSpacedItems spacing depth next items with
        ⟨c, text, first, visible, inside⟩
      simp only [writeSpacedItems, List.length_append, List.length_cons] at enough
      have scanned := scanValue_writeSpaced item depth fuel
        (',' :: (spacing.line depth ++ (writeSpacedItems spacing depth (next :: items) ++
          (gap ++ ']' :: rest)))) (by omega) (stops_separator blank_nil _ (by decide))
      have others := scanItems_writeSpaced (next :: items) depth fuel rest gap blank nofun
        (by omega)
      rw [first, List.cons_append] at scanned others
      simp only [writeSpacedItems, first, List.append_assoc, List.cons_append]
      rw [scanItems_next (spacing.blank_line depth) scanned visible inside, others]
      simp only [writtenItems]

theorem scanMembers_writeSpaced : ∀ (members : List (String × Json)) (depth fuel : Nat)
    (rest gap : List Char), Blank gap → members ≠ [] →
      2 * (writeSpacedMembers spacing depth members).length + 1 ≤ fuel →
      scanMembers fuel (writeSpacedMembers spacing depth members ++ (gap ++ '\x7d' :: rest)) =
        (writtenMembers members, .closed, some rest)
  | [], _, _, _, _, _, nonempty, _ => absurd rfl nonempty
  | _ :: _, _, 0, _, _, _, _, enough => absurd enough (Nat.not_succ_le_zero _)
  | [(key, value)], depth, fuel + 1, rest, gap, blank, _, enough => by
      have length := length_key key
      simp only [writeSpacedMembers, List.length_append, List.length_cons] at enough
      have scanned := scanValue_writeSpaced value depth fuel (gap ++ '\x7d' :: rest) (by omega)
        (stops_separator blank rest (by decide))
      rw [← scanValue_append spacing.blank_colon] at scanned
      simp only [writeSpacedMembers, writtenMembers, List.append_assoc, List.cons_append]
      exact scanMembers_last (by omega) blank scanned
  | (key, value) :: next :: members, depth, fuel + 1, rest, gap, blank, _, enough => by
      have length := length_key key
      simp only [writeSpacedMembers, List.length_append, List.length_cons] at enough
      have scanned := scanValue_writeSpaced value depth fuel
        (',' :: (spacing.line depth ++ (writeSpacedMembers spacing depth (next :: members) ++
          (gap ++ '\x7d' :: rest)))) (by omega) (stops_separator blank_nil _ (by decide))
      rw [← scanValue_append spacing.blank_colon] at scanned
      have others := scanMembers_writeSpaced (next :: members) depth fuel rest gap blank nofun
        (by omega)
      simp only [writeSpacedMembers, List.append_assoc, List.cons_append]
      rw [scanMembers_next (by omega) (spacing.blank_line depth) scanned, others]
      simp only [writtenMembers]

end

theorem parse_writeSpaced (value : Json) (depth : Nat) :
    parse (String.ofList (writeSpaced spacing depth value)) = ⟨value.written, false⟩ := by
  have scanned := scanValue_writeSpaced spacing value depth
    (2 * (writeSpaced spacing depth value).length + 2) [] (by omega)
    (Decimal.stops_nil continuesNumber)
  rw [List.append_nil] at scanned
  simp only [parse, String.toList_ofList, scanned]
  rfl

end Spaced

/-- A text that was written from a value holds the value's document and nothing
else. -/
theorem parse_compress (value : Json) : parse value.compress = ⟨value.written, false⟩ := by
  rw [compress, ← writeSpaced_compact value 0, parse_writeSpaced]

/-- So does a text with one member a line. -/
theorem parse_pretty (value : Json) : parse value.pretty = ⟨value.written, false⟩ := by
  rw [pretty, ← writeSpaced_lines value 0, parse_writeSpaced]

end Json

end Gradebook
