import QuerySession.Proofs.Number.Digits
import QuerySession.Proofs.Toml.Texts
import QuerySession.Toml.Reader

/-!
# Values are read back

Plain values stand on the line of their key: truth values, counts, texts, and lists of these, which
may take several lines.  Each is read back up to where it ends, and what is read stands for the
document that was written.

## Main Definitions

* `Toml.Scalar`, `Toml.Plain` — documents that are written on the line of their key
* `Toml.Reads` — a value is read where a document is written

## Main Results

* `Toml.scalar?_digits` — a count is read back from its digits
* `Toml.Plain.reads` — a plain value is read where it is written
-/

namespace QuerySession.Toml

variable {cs text rest tail : List Char} {c : Char} {steps depth : Nat} {v : Json} {x : Value}

/-! ## Where a value ends -/

/-- What stands behind a value: the end of the line or of the list, or a comma. -/
def Closed (rest : List Char) : Prop :=
  ∃ c more, rest = c :: more ∧ (c = '\n' ∨ c = ',' ∨ c = ']')

theorem Closed.unquoted (closed : Closed rest) : Unquoted rest := by
  obtain ⟨c, more, rfl, rfl | rfl | rfl⟩ := closed <;> exact ⟨by simp [Apart], by simp [Apart]⟩

/-- A value without quotes is taken as a whole. -/
theorem readScalar_append {spelling : List Char} (inside : ∀ c ∈ spelling, endsScalar c = false)
    (closed : Closed rest) : readScalar (spelling ++ rest) = (scalar? spelling).map (·, rest) := by
  have inside_ : ∀ c ∈ spelling, (!endsScalar c) = true := fun c mem => by rw [inside c mem]; rfl
  obtain ⟨c, more, rfl, last⟩ := closed
  have ends : (!endsScalar c) = false := by rcases last with rfl | rfl | rfl <;> rfl
  have front : (spelling ++ c :: more).takeWhile (!endsScalar ·) = spelling := by
    rw [List.takeWhile_append_of_pos inside_, List.takeWhile_cons, ends]
    exact List.append_nil _
  have behind : (spelling ++ c :: more).dropWhile (!endsScalar ·) = c :: more := by
    rw [List.dropWhile_append_of_pos inside_, List.dropWhile_cons, ends]
    rfl
  simp only [readScalar, front, behind]
  rcases last with rfl | rfl | rfl <;> rfl

/-! ## Counts -/

/-- A digit has its value. -/
theorem hexValue?_of_isDigit (digit : c.isDigit = true) :
    Json.hexValue? c = some (c.toNat - '0'.toNat) := by
  rw [Char.isDigit_iff_toNat] at digit
  rw [Json.hexValue?, if_pos]
  · rfl
  · exact digit

theorem valueIn_toDigits (n : Nat) : valueIn 10 (Nat.toDigits 10 n) = n :=
  foldl_toDigits (fun d digit => by rw [hexValue?_of_isDigit digit]; rfl) n

/-- Digits without low lines between them are kept. -/
theorem digits?_eq (some_ : cs ≠ []) (digits : ∀ c ∈ cs, c.isDigit = true) :
    digits? Char.isDigit cs = some cs := by
  induction cs with
  | nil => exact absurd rfl some_
  | cons d cs ih =>
    have first := digits d List.mem_cons_self
    rcases cs with _ | ⟨e, cs⟩
    · rw [digits?, if_pos first]
    · have others := ih (List.cons_ne_nil _ _) fun c mem => digits c (List.mem_cons_of_mem _ mem)
      have second := digits e (List.mem_cons_of_mem _ List.mem_cons_self)
      rw [digits?, if_pos first, others]
      · rfl
      · rintro ⟨⟩
      · intro more low
        rw [(List.cons.inj low).1] at second
        cases second

/-- No value ends at a digit. -/
theorem endsScalar_of_isDigit (digit : c.isDigit = true) : endsScalar c = false := by
  refine Bool.eq_false_iff.mpr fun ends => ?_
  simp only [endsScalar, isSpaceOrLineEnd, isBlank, Bool.or_eq_true, decide_eq_true_eq,
    List.contains_iff_mem, List.mem_cons, List.not_mem_nil, or_false] at ends
  rcases ends with (((rfl | rfl) | rfl) | rfl) | rfl | rfl | rfl | rfl | rfl | rfl | rfl | rfl | rfl
  all_goals cases digit

/-- A digit is no sign. -/
theorem splitSign_of_isDigit {d : Char} (digit : d.isDigit = true) (ds : List Char) :
    splitSign (d :: ds) = (false, d :: ds) := by
  unfold splitSign
  split
  · rename_i sign
    rw [(List.cons.inj sign).1] at digit
    cases digit
  · rename_i sign
    rw [(List.cons.inj sign).1] at digit
    cases digit
  · rfl

/-- Digits without a needless zero denote the number of their value. -/
theorem whole?_eq {d : Char} {ds : List Char} (digits : ∀ c ∈ d :: ds, c.isDigit = true)
    (zero : d = '0' → ds = []) : whole? (d :: ds) = some (valueIn 10 (d :: ds) : Int) := by
  have first := digits d List.mem_cons_self
  have decimal : decimal? (d :: ds) = some (d :: ds) := by
    rw [decimal?, digits?_eq (List.cons_ne_nil _ _) digits, Option.bind_eq_bind, Option.bind_some,
      if_neg]
    rintro ⟨leading, more⟩
    rw [zero (Option.some.inj leading)] at more
    cases Nat.lt_irrefl 1 more
  have noMark (c : Char) (letter : c.isDigit = false) (more : List Char) :
      d :: ds ≠ '0' :: c :: more := by
    intro same
    have mark : c ∈ d :: ds := by simp [same]
    rw [digits c mark] at letter
    cases letter
  unfold whole?
  split
  · rename_i same
    exact absurd same (noMark 'x' rfl _)
  · rename_i same
    exact absurd same (noMark 'o' rfl _)
  · rename_i same
    exact absurd same (noMark 'b' rfl _)
  · simp only [splitSign_of_isDigit first, decimal]
    rfl

/-- **A count is read back from its digits.** -/
theorem scalar?_digits (n : Nat) : scalar? (Nat.toDigits 10 n) = some (.whole n) := by
  have digits : ∀ c ∈ Nat.toDigits 10 n, c.isDigit = true :=
    fun _ => isDigit_of_mem_toDigits
  have value := valueIn_toDigits n
  have zero := head?_toDigits n
  have only : n = 0 → Nat.toDigits 10 n = ['0'] := by
    rintro rfl
    rfl
  rcases cs : Nat.toDigits 10 n with _ | ⟨d, ds⟩
  · exact absurd cs Nat.toDigits_ne_nil
  · rw [cs] at digits zero value only
    have whole : whole? (d :: ds) = some (n : Int) := by
      rw [whole?_eq digits, value]
      rintro rfl
      exact (List.cons.inj (only (zero rfl))).2
    have noWord (word : String) (letter : word.toList.head?.any Char.isDigit = false) :
        d :: ds ≠ word.toList := by
      intro same
      rw [← same, List.head?_cons, Option.any_some, digits d List.mem_cons_self] at letter
      cases letter
    rw [scalar?, if_neg (noWord "true" rfl), if_neg (noWord "false" rfl),
      splitSign_of_isDigit (digits d List.mem_cons_self), if_neg, whole]
    exact not_or.mpr ⟨noWord "inf" rfl, noWord "nan" rfl⟩

/-! ## Plain values -/

/-- Documents that are written in a word. -/
inductive Scalar : Json → Prop
  | flag (b : Bool) : Scalar (.bool b)
  | text (s : String) : Scalar (.str s)
  /-- Counts of 64 bits. -/
  | count {n : Nat} (fits : n < 0x10000000000000000) : Scalar (.nat n)

/-- Documents that are written on the line of their key. -/
inductive Plain : Json → Prop
  | scalar {v : Json} (scalar : Scalar v) : Plain v
  | list {items : List Json} (scalars : ∀ v ∈ items, Scalar v) : Plain (.arr items)

/-- A value is read where a text stands in front of the end of a value, and it stands for a
document. -/
structure Reads (depth : Nat) (text : List Char) (v : Json) (x : Value) : Prop where
  stands : x.toJson = some v
  read : ∀ rest, Closed rest → readValue depth (text ++ rest) = some (x, rest)

/-- A word is no text, list or table. -/
theorem readValue_of_word {c : Char} {word : List Char} (letter : c.isAlphanum = true)
    (depth : Nat) : readValue depth (c :: word) = readScalar (c :: word) := by
  have other {c' : Char} (h : c'.isAlphanum = false) : c ≠ c' := by
    rintro rfl
    rw [letter] at h
    cases h
  have unquoted : readQuoted? (c :: word) = none := by
    unfold readQuoted?
    split
    all_goals first
      | rfl
      | rename_i same; exact absurd (List.cons.inj same).1 (other rfl)
  rw [readValue, unquoted]
  · intro _ same
    exact absurd (List.cons.inj same).1 (other rfl)
  · intro _ same
    exact absurd (List.cons.inj same).1 (other rfl)

/-- A text opens no list or table. -/
theorem readValue_writeText (s : String) (depth : Nat) (apart : Unquoted rest) :
    readValue depth ((writeText s).toList ++ rest) = some (.text s, rest) := by
  have quoted := readQuoted?_writeText s apart
  obtain ⟨quote, more, written, begins⟩ := writeText_head s rest
  rw [written] at quoted ⊢
  rw [readValue, quoted]
  · exact congrArg (fun s => some (Value.text s, rest)) String.ofList_toList
  · rintro _ same
    rw [(List.cons.inj same).1] at begins
    exact absurd begins (by decide)
  · rintro _ same
    rw [(List.cons.inj same).1] at begins
    exact absurd begins (by decide)

/-- A count begins with a digit. -/
theorem count_head (n : Nat) : ∃ d ds, (writeScalar (.nat n)).toList = d :: ds ∧
    d.isAlphanum = true ∧ (∀ c ∈ d :: ds, endsScalar c = false) ∧
      scalar? (d :: ds) = some (.whole n) := by
  have spelled : (writeScalar (.nat n)).toList = Nat.toDigits 10 n := String.toList_ofList
  have digits : ∀ c ∈ Nat.toDigits 10 n, c.isDigit = true :=
    fun _ => isDigit_of_mem_toDigits
  have value := scalar?_digits n
  rcases cs : Nat.toDigits 10 n with _ | ⟨d, ds⟩
  · exact absurd cs Nat.toDigits_ne_nil
  · rw [cs] at spelled digits value
    refine ⟨d, ds, spelled, ?_, fun c mem => endsScalar_of_isDigit (digits c mem), value⟩
    simp [Char.isAlphanum, digits d List.mem_cons_self]

/-- A word is read where it is written. -/
theorem Scalar.reads (scalar : Scalar v) (depth : Nat) :
    ∃ x, Reads depth (writeScalar v).toList v x := by
  -- Truth values and counts are spelled without quotes.
  have word {c : Char} {more : List Char} {x : Value} (letter : c.isAlphanum = true)
      (inside : ∀ d ∈ c :: more, endsScalar d = false) (value : scalar? (c :: more) = some x)
      (rest : List Char) (closed : Closed rest) :
      readValue depth (c :: more ++ rest) = some (x, rest) := by
    rw [List.cons_append, readValue_of_word letter, ← List.cons_append,
      readScalar_append inside closed, value]
    rfl
  rcases scalar with b | s | fits
  · cases b with
    | true =>
      have letters : ∀ d ∈ ['t', 'r', 'u', 'e'], endsScalar d = false := by
        simp [endsScalar, isSpaceOrLineEnd, isBlank]
      exact ⟨.flag true, rfl, word (by decide) letters rfl⟩
    | false =>
      have letters : ∀ d ∈ ['f', 'a', 'l', 's', 'e'], endsScalar d = false := by
        simp [endsScalar, isSpaceOrLineEnd, isBlank]
      exact ⟨.flag false, rfl, word (by decide) letters rfl⟩
  · exact ⟨.text s, rfl, fun rest closed => readValue_writeText s depth closed.unquoted⟩
  · rename_i n
    obtain ⟨d, ds, spelled, letter, inside, value⟩ := count_head n
    refine ⟨.whole n, ?_, ?_⟩
    · have passable : isPassable (n : Int) = true := by
        simp only [isPassable, Bool.and_eq_true, decide_eq_true_eq]
        omega
      rw [Value.toJson, if_pos passable]
      rfl
    · rw [spelled]
      exact word letter inside value

/-! ## Skipping -/

/-- Whether a character is neither space nor in a comment. -/
def Visible (c : Char) : Prop := isSpaceOrLineEnd c = false ∧ c ≠ '#'

/-- Nothing is skipped in front of what can be seen. -/
theorem skipLines_of_visible (visible : Visible c) (tail : List Char) (steps : Nat) :
    skipLines steps (c :: tail) = c :: tail := by
  obtain ⟨space, comment⟩ := visible
  simp only [isSpaceOrLineEnd, Bool.or_eq_false_iff, decide_eq_false_iff_not] at space
  obtain ⟨⟨blank, newline⟩, ret⟩ := space
  have noEnd : readLineEnd (c :: tail) = none := by
    unfold readLineEnd
    split
    · rename_i same
      exact absurd (List.cons.inj same).1 newline
    · rename_i same
      exact absurd (List.cons.inj same).1 ret
    · rfl
  have noComment : skipComment (c :: tail) = c :: tail := by
    unfold skipComment
    split
    · rename_i same
      exact absurd (List.cons.inj same).1 comment
    · rfl
  have noBlank : skipBlank (c :: tail) = c :: tail := by
    rw [skipBlank, List.dropWhile_cons, blank]
    rfl
  cases steps with
  | zero => rfl
  | succ steps => simp only [skipLines, noBlank, noComment, noEnd]

theorem skipLines_newline (steps : Nat) (tail : List Char) :
    skipLines (steps + 1) ('\n' :: tail) = skipLines steps tail := rfl

theorem skipLines_space (steps : Nat) (tail : List Char) :
    skipLines (steps + 1) (' ' :: tail) = skipLines (steps + 1) tail := rfl

/-- What begins a key or a word can be seen. -/
theorem Opens.visible (opens : Opens c) : Visible c := by
  refine ⟨?_, opens.ne '#' (by decide)⟩
  simp [isSpaceOrLineEnd, isBlank, opens.ne ' ' (by decide), opens.ne '\t' (by decide),
    opens.ne '\n' (by decide), opens.ne '\r' (by decide)]

theorem Scalar.opens (scalar : Scalar v) :
    ∃ c more, (writeScalar v).toList = c :: more ∧ Opens c := by
  rcases scalar with b | s | fits
  · cases b with
    | true => exact ⟨'t', _, rfl, .inl (by decide)⟩
    | false => exact ⟨'f', _, rfl, .inl (by decide)⟩
  · obtain ⟨quote, more, written, begins⟩ := writeText_head s []
    rw [List.append_nil] at written
    exact ⟨quote, more, written, .inr begins⟩
  · rename_i n
    obtain ⟨d, ds, spelled, letter, -⟩ := count_head n
    exact ⟨d, ds, spelled, .inl (by simp [isBare, letter])⟩

/-! ## Lists -/

variable {value : List Char → Option (Value × List Char)}

/-- An item, and what is behind it. -/
def itemThen (value : List Char → Option (Value × List Char)) (steps : Nat) (cs : List Char) :
    Option (List Value × List Char) := do
  let (v, rest) ← value cs
  let (vs, rest) ← readItems value steps false rest
  some (v :: vs, rest)

theorem itemThen_eq {x : Value} {xs : List Value} (item : value cs = some (x, tail))
    (others : readItems value steps false tail = some (xs, rest)) :
    itemThen value steps cs = some (x :: xs, rest) := by
  rw [itemThen, item]
  show (readItems value steps false tail).bind _ = _
  rw [others]
  rfl

/-- The first item of a list. -/
theorem readItems_first (opens : Opens c) (skipped : skipLines (cs.length + 1) cs = c :: tail) :
    readItems value (steps + 1) true cs = itemThen value steps (c :: tail) := by
  rw [readItems, skipped]
  split
  · rename_i same
    exact absurd (List.cons.inj same).1 (opens.ne ']' (by decide))
  · rename_i same
    exact absurd (List.cons.inj same).1 (opens.ne ',' (by decide))
  · rfl

/-- Behind an item comes a comma, and then perhaps another item. -/
theorem readItems_comma (steps : Nat) (cs : List Char) :
    readItems value (steps + 1) false (',' :: cs) =
      match skipLines (cs.length + 1) cs with
      | ']' :: rest => some ([], rest)
      | rest => itemThen value steps rest := by
  have comma : skipLines ((',' :: cs).length + 1) (',' :: cs) = ',' :: cs :=
    skipLines_of_visible ⟨rfl, by decide⟩ _ _
  rw [readItems, comma]
  rfl

/-- A further item of a list. -/
theorem readItems_next (opens : Opens c) (skipped : skipLines (cs.length + 1) cs = c :: tail) :
    readItems value (steps + 1) false (',' :: cs) = itemThen value steps (c :: tail) := by
  rw [readItems_comma, skipped]
  split
  · rename_i same
    exact absurd (List.cons.inj same).1 (opens.ne ']' (by decide))
  · rfl

/-- The end of a list. -/
theorem readItems_last (first : Bool) (steps : Nat) (tail : List Char) :
    readItems value (steps + 1) first (']' :: tail) = some ([], tail) := by
  have bracket : skipLines ((']' :: tail).length + 1) (']' :: tail) = ']' :: tail :=
    skipLines_of_visible ⟨rfl, by decide⟩ _ _
  rw [readItems, bracket]
  rfl

/-- The end of a list on a line of its own. -/
theorem readItems_lastLine (steps : Nat) (tail : List Char) :
    readItems value (steps + 1) false (',' :: '\n' :: ']' :: tail) = some ([], tail) := by
  have bracket : skipLines (('\n' :: ']' :: tail).length + 1) ('\n' :: ']' :: tail) =
      ']' :: tail := by
    rw [skipLines_newline]
    exact skipLines_of_visible ⟨rfl, by decide⟩ tail _
  rw [readItems_comma, bracket]
  rfl

/-- The space in front of an item on a line of its own is skipped. -/
theorem skipLines_indent (opens : Opens c) (tail : List Char) :
    skipLines (('\n' :: ' ' :: ' ' :: ' ' :: ' ' :: c :: tail).length + 1)
      ('\n' :: ' ' :: ' ' :: ' ' :: ' ' :: c :: tail) = c :: tail := by
  rw [skipLines_newline, List.length_cons, skipLines_space, skipLines_space, skipLines_space,
    skipLines_space]
  exact skipLines_of_visible opens.visible tail _

/-- The lines of further items. -/
theorem writeItems_cons (item : Json) (items : List Json) (rest : List Char) :
    (writeItems (item :: items)).toList ++ rest = ' ' :: ' ' :: ' ' :: ' ' ::
      ((writeScalar item).toList ++ ',' :: '\n' :: ((writeItems items).toList ++ rest)) := by
  simp [writeItems, String.join_cons]

/-- The items behind the first, each on a line of its own, are read where they are written. -/
theorem readItems_writeItems {items : List Json} (scalars : ∀ v ∈ items, Scalar v) (depth : Nat) :
    ∃ xs, itemsToJson xs = some items ∧ ∀ steps rest, items.length < steps →
      readItems (readValue depth) steps false
        (',' :: '\n' :: ((writeItems items).toList ++ ']' :: rest)) = some (xs, rest) := by
  induction items with
  | nil =>
    refine ⟨[], rfl, fun steps rest enough => ?_⟩
    obtain ⟨steps, rfl⟩ : ∃ n, steps = n + 1 := ⟨steps - 1, by omega⟩
    exact readItems_lastLine steps rest
  | cons item items ih =>
    rw [List.forall_mem_cons] at scalars
    obtain ⟨x, stands, read⟩ := scalars.1.reads depth
    obtain ⟨xs, others, reads⟩ := ih scalars.2
    refine ⟨x :: xs, by rw [itemsToJson, stands, others]; rfl, fun steps rest enough => ?_⟩
    obtain ⟨steps, rfl⟩ : ∃ n, steps = n + 1 := ⟨steps - 1, by omega⟩
    obtain ⟨c, more, written, opens⟩ := scalars.1.opens
    have first := read (',' :: '\n' :: ((writeItems items).toList ++ ']' :: rest))
      ⟨',', _, rfl, .inr (.inl rfl)⟩
    rw [written, List.cons_append] at first
    rw [writeItems_cons, written, List.cons_append, readItems_next opens (skipLines_indent opens _)]
    exact itemThen_eq first (reads steps rest (Nat.lt_of_succ_lt_succ enough))

theorem length_le_writeItems (items : List Json) :
    items.length ≤ (writeItems items).toList.length := by
  induction items with
  | nil => exact Nat.le_refl 0
  | cons item items ih =>
    have lines := congrArg List.length (writeItems_cons item items [])
    simp only [List.append_nil, List.length_cons, List.length_append] at lines ⊢
    omega

/-- A list is read behind its opening bracket if its items are. -/
theorem readValue_list {items : List Json} {xs : List Value} {inner : List Char}
    (others : itemsToJson xs = some items)
    (read : ∀ rest, readItems (readValue depth) ((inner ++ rest).length + 1) true (inner ++ rest) =
      some (xs, rest)) : Reads (depth + 1) ('[' :: inner) (.arr items) (.list xs) where
  stands := by rw [Value.toJson, others]; rfl
  read rest _ := by
    rw [List.cons_append, readValue, read]
    rfl

/-- **A plain value is read where it is written.** -/
theorem Plain.reads (plain : Plain v) (depth : Nat) :
    ∃ x, Reads (depth + 1) (writeValue v).toList v x := by
  rcases plain with scalar | scalars
  · obtain ⟨x, reads⟩ := scalar.reads (depth + 1)
    rcases scalar with _ | _ | _ <;> exact ⟨x, reads⟩
  · rename_i items
    rcases items with _ | ⟨item, items⟩
    · have empty : Reads (depth + 1) ['[', ']'] (.arr []) (.list []) :=
        readValue_list rfl fun rest => readItems_last true _ rest
      exact ⟨_, empty⟩
    · rw [List.forall_mem_cons] at scalars
      obtain ⟨x, stands, read⟩ := scalars.1.reads depth
      obtain ⟨c, more, written, opens⟩ := scalars.1.opens
      rw [written] at read
      rcases items with _ | ⟨second, items⟩
      · have lone : (writeValue (.arr [item])).toList = '[' :: (c :: more ++ [']']) := by
          simp [writeValue, writeList, written]
        have all : itemsToJson [x] = some [item] := by
          rw [itemsToJson, stands]
          rfl
        rw [lone]
        refine ⟨_, readValue_list all fun rest => ?_⟩
        have first := read (']' :: rest) ⟨']', rest, rfl, .inr (.inr rfl)⟩
        rw [List.append_assoc, List.singleton_append, List.cons_append] at *
        rw [readItems_first opens (skipLines_of_visible opens.visible _ _)]
        exact itemThen_eq first (readItems_last false _ rest)
      · obtain ⟨xs, others, reads⟩ := readItems_writeItems scalars.2 depth
        have lines : (writeValue (.arr (item :: second :: items))).toList =
            '[' :: '\n' :: ' ' :: ' ' :: ' ' :: ' ' :: (c :: more ++ ',' :: '\n' ::
              ((writeItems (second :: items)).toList ++ [']'])) := by
          have first := writeItems_cons item (second :: items) [']']
          rw [written] at first
          rw [← first]
          simp [writeValue, writeList]
        have all : itemsToJson (x :: xs) = some (item :: second :: items) := by
          rw [itemsToJson, stands, others]
          rfl
        rw [lines]
        refine ⟨_, readValue_list all fun rest => ?_⟩
        have first := read (',' :: '\n' :: ((writeItems (second :: items)).toList ++ ']' :: rest))
          ⟨',', _, rfl, .inr (.inl rfl)⟩
        simp only [List.cons_append, List.append_assoc, List.nil_append] at first ⊢
        rw [readItems_first opens (skipLines_indent opens _)]
        refine itemThen_eq first (reads _ rest ?_)
        have enough := length_le_writeItems (second :: items)
        simp only [List.length_cons, List.length_append] at enough ⊢
        omega

/-- There is no space in front of a plain value. -/
theorem Plain.skipBlank_eq (plain : Plain v) (rest : List Char) :
    skipBlank ((writeValue v).toList ++ rest) = (writeValue v).toList ++ rest := by
  have begins : ∃ c more, (writeValue v).toList = c :: more ∧ isBlank c = false := by
    rcases plain with scalar | scalars
    · obtain ⟨c, more, written, opens⟩ := scalar.opens
      have blank : isBlank c = false := by
        simp [isBlank, opens.ne ' ' (by decide), opens.ne '\t' (by decide)]
      rcases scalar with _ | _ | _ <;> exact ⟨c, more, written, blank⟩
    · rename_i items
      rcases items with _ | ⟨item, _ | ⟨second, items⟩⟩
      · exact ⟨'[', _, rfl, rfl⟩
      · exact ⟨'[', (writeScalar item).toList ++ [']'], by simp [writeValue, writeList], rfl⟩
      · exact ⟨'[', '\n' :: (writeItems (item :: second :: items)).toList ++ [']'],
          by simp [writeValue, writeList], rfl⟩
  obtain ⟨c, more, written, blank⟩ := begins
  rw [written, skipBlank, List.cons_append, List.dropWhile_cons, blank]
  rfl

end QuerySession.Toml
