import Mathlib.Data.List.Forall2
import QuerySession.Proofs.Json.Pieces

/-!
# Documents are read back

A document of a shape is read where it is written, up to what stands behind it: texts, names among
those that may be chosen, truth values, whole numbers of 64 bits, and lists and records of these, as
deep as documents may be nested.

## Main Definitions

* `Shape.Reads` — a document of a shape is read where it is written
* `Shape.Answers` — a member that holds what a field asks for

## Main Results

* `Shape.reads_text`, `Shape.reads_choice`, `Shape.reads_scalar_flag`, `Shape.reads_scalar_text`,
  `Shape.reads_scalar_whole` — documents that hold no others are read back
* `Shape.Reads.list`, `Shape.Reads.record` — lists and records are read back if their pieces are
* `Shape.Reads.ofText` — a whole text is read back
-/

namespace QuerySession

namespace Shape

open Json

variable {shape : Shape} {depth : Nat} {v : Json} {c : Char} {cs : List Char} {m : String × Json}
  {members : List (String × Json)}

/-- A document of a shape is read where it is written, if it may be nested as deep. -/
def Reads (shape : Shape) (depth : Nat) (v : Json) : Prop := Takes (shape.read depth) v

/-- **A whole text is read back.** -/
theorem Reads.ofText (reads : shape.Reads maxDepth v) : shape.ofText v.write = .ok v := by
  have whole := reads.read [] closed_nil
  rw [List.append_nil] at whole
  rw [Shape.ofText, whole]
  rfl

/-! ## Texts -/

theorem opens_str (s : String) : Opens (Json.str s).write.toList := by
  have quoted := toList_writeStr s []
  rw [List.append_nil] at quoted
  exact ⟨'"', _, by rw [write, quoted], by decide, by decide⟩

theorem readString_written (s : String) (rest : List Char) :
    readString ((writeStr s).toList ++ rest) = .ok (s, rest) := by
  have quote : isSpace '"' = false := by decide
  rw [toList_writeStr, readString, skipSpace_of_visible quote]
  show Except.map _ (readText true _) = _
  rw [readText_written]
  exact congrArg (fun s => Except.ok (s, rest)) String.ofList_toList

theorem reads_text (s : String) (depth : Nat) : anyText.Reads depth (.str s) where
  opens := opens_str s
  read rest _ := by
    rw [write, anyText, Shape.read, readString_written]
    rfl

/-- A name among those that may be chosen. -/
theorem reads_choice {names : List String} {s : String} (mem : s ∈ names) (depth : Nat) :
    (Shape.choice names).Reads depth (.str s) where
  opens := opens_str s
  read rest _ := by
    have name : readName names ((writeStr s).toList ++ rest) = .ok (.str s, rest) := by
      rw [readName, readString_written]
      exact if_pos mem
    have quote : isSpace '"' = false := by decide
    rw [toList_writeStr] at name
    rw [write, Shape.read, readChoice, toList_writeStr, skipSpace_of_visible quote]
    exact name

/-! ## Scalars -/

/-- A scalar is read as a value of any form. -/
theorem reads_scalar (scalar : isScalar v = true) (opens : Opens v.write.toList)
    (value : ∀ steps rest, Closed rest →
      readValue true (steps + 1) depth (v.write.toList ++ rest) = .ok (v, rest)) :
    Shape.scalar.Reads depth v where
  opens := opens
  read rest closed := by
    rw [Shape.read, stepsFor, value _ rest closed, checked, if_pos scalar]

theorem reads_scalar_flag (b : Bool) (depth : Nat) : Shape.scalar.Reads depth (.bool b) := by
  cases b with
  | true => exact reads_scalar rfl ⟨'t', _, rfl, by decide, by decide⟩ fun _ _ _ => rfl
  | false => exact reads_scalar rfl ⟨'f', _, rfl, by decide, by decide⟩ fun _ _ _ => rfl

theorem reads_scalar_text (s : String) (depth : Nat) : Shape.scalar.Reads depth (.str s) := by
  refine reads_scalar rfl (opens_str s) fun steps rest _ => ?_
  have quote : isSpace '"' = false := by decide
  rw [write, toList_writeStr, readValue, skipSpace_of_visible quote]
  show Except.map _ (readText true _) = _
  rw [readText_written]
  exact congrArg (fun s => Except.ok (Json.str s, rest)) String.ofList_toList

theorem ne_of_isDigit (digit : c.isDigit = true) (other : Char) (no : other.isDigit = false) :
    c ≠ other := by
  rintro rfl
  rw [digit] at no
  cases no

theorem isSpace_of_isDigit (digit : c.isDigit = true) : isSpace c = false := by
  simp [isSpace, ne_of_isDigit digit ' ' rfl, ne_of_isDigit digit '\n' rfl,
    ne_of_isDigit digit '\t' rfl, ne_of_isDigit digit '\r' rfl]

/-- A digit begins a number. -/
theorem readValue_of_isDigit (digit : c.isDigit = true) (steps depth : Nat) (cs : List Char) :
    readValue true (steps + 1) depth (c :: cs) = numberToken true false (c :: cs) := by
  rw [readValue, skipSpace_of_visible (isSpace_of_isDigit digit)]
  -- Words, texts, lists, objects and negative numbers begin otherwise.
  split
  all_goals first
    | contradiction
    | rename_i same; exact absurd (List.cons.inj same).1 (ne_of_isDigit digit _ rfl)
    | rename_i same; obtain ⟨rfl, rfl⟩ := List.cons.inj same; exact if_pos digit

/-- A count is written with its digits. -/
theorem toList_write_count (n : Nat) : (Json.int n).write.toList = Nat.toDigits 10 n := by
  show (Nat.repr n).toList = _
  exact Nat.toList_repr

/-- A negative number is written with the digits of its size. -/
theorem toList_write_negative (n : Nat) :
    (Json.int (Int.negSucc n)).write.toList = '-' :: Nat.toDigits 10 (n + 1) := by
  show ("-" ++ Nat.repr (n + 1)).toList = _
  rw [String.toList_append, Nat.toList_repr]
  rfl

theorem reads_scalar_count {n : Nat} (fits : n ≤ greatestSignificand) (depth : Nat) :
    Shape.scalar.Reads depth (.int n) := by
  have written := toList_write_count n
  have digits : ∀ d ∈ Nat.toDigits 10 n, d.isDigit = true := fun _ => isDigit_of_mem_toDigits
  have number : ∀ rest, Closed rest →
      readNumber false (Nat.toDigits 10 n ++ rest) = .ok (.whole n, rest) :=
    fun _ => readNumber_count fits
  rcases spelled : Nat.toDigits 10 n with _ | ⟨d, ds⟩
  · exact absurd spelled Nat.toDigits_ne_nil
  · rw [spelled] at written digits number
    have digit := digits d List.mem_cons_self
    have opens : isSpace d = false ∧ d ≠ ']' :=
      ⟨isSpace_of_isDigit digit, ne_of_isDigit digit ']' rfl⟩
    refine reads_scalar rfl ⟨d, ds, written, opens⟩ fun steps rest closed => ?_
    rw [written, List.cons_append, readValue_of_isDigit digit, numberToken, if_pos rfl,
      ← List.cons_append, number rest closed]
    rfl

theorem reads_scalar_negative {n : Nat} (fits : n + 1 ≤ 0x8000000000000000) (depth : Nat) :
    Shape.scalar.Reads depth (.int (Int.negSucc n)) := by
  have written := toList_write_negative n
  refine reads_scalar rfl ⟨'-', _, written, by decide, by decide⟩ fun steps rest closed => ?_
  have sign : isSpace '-' = false := by decide
  rw [written, List.cons_append, readValue, skipSpace_of_visible sign]
  show numberToken true true (Nat.toDigits 10 (n + 1) ++ rest) = _
  rw [numberToken, if_pos rfl, readNumber_negative (Nat.succ_ne_zero n) fits closed]
  rfl

/-- **A whole number is read back** if it fits into 64 bits, with sign or without. -/
theorem reads_scalar_whole {n : Int} (low : -0x8000000000000000 ≤ n)
    (high : n ≤ greatestSignificand) (depth : Nat) : Shape.scalar.Reads depth (.int n) := by
  cases n with
  | ofNat n => exact reads_scalar_count (Int.ofNat_le.mp high) depth
  | negSucc n => exact reads_scalar_negative (by omega) depth

/-! ## Lists and records -/

/-- **A list is read back** if its items are. -/
theorem Reads.list {items : List Json} (nested : 1 < depth)
    (reads : ∀ v ∈ items, shape.Reads (depth - 1) v) :
    (Shape.list shape).Reads depth (.arr items) where
  opens := ⟨'[', (writeItems items).toList ++ [']'], by rw [write]; simp, by decide, by decide⟩
  read rest _ := by
    have text : (Json.arr items).write.toList ++ rest =
        '[' :: (separated (·.write.toList) items ++ ']' :: rest) := by
      rw [write, ← toList_writeItems]
      simp
    have bracket : isSpace '[' = false := by decide
    rw [text, Shape.read, skipSpace_of_visible bracket]
    show (if depth ≤ 1 then _ else _) = _
    rw [if_neg (Nat.not_le.mpr nested), itemsWith_written reads (length_lt_stepsFor _ items ']' rest)]
    rfl

/-- A member has the name of the field, and what the field asks for is read where it is written. -/
def Answers (depth : Nat) (field : String × Presence × Shape) (m : String × Json) : Prop :=
  field.1 = m.1 ∧ field.2.2.Reads depth m.2

theorem names_readers (fields : List (String × Presence × Shape)) (depth : Nat) :
    (readers fields depth).map Prod.fst = fields.map Prod.fst := by
  induction fields with
  | nil => rfl
  | cons field fields ih =>
    obtain ⟨name, presence, shape⟩ := field
    rw [readers, List.map_cons, List.map_cons, ih]

variable {fields : List (String × Presence × Shape)}

theorem names_of_answers (answers : List.Forall₂ (Answers depth) fields members) :
    members.map Prod.fst = fields.map Prod.fst := by
  induction answers with
  | nil => rfl
  | cons first others ih => rw [List.map_cons, List.map_cons, ih, first.1]

/-- Members in the order of the fields are known. -/
theorem known_of_answers (answers : List.Forall₂ (Answers depth) fields members)
    (distinct : (fields.map Prod.fst).Nodup) : ∀ m ∈ members, Known (readers fields depth) m := by
  induction answers with
  | nil => simp
  | @cons field m fields members first others ih =>
    obtain ⟨name, presence, shape⟩ := field
    obtain ⟨rfl, reads⟩ := first
    obtain ⟨own, distinct⟩ := List.nodup_cons.mp distinct
    rw [List.forall_mem_cons]
    refine ⟨⟨presence, shape.read depth, ?_, reads⟩, fun n mem => ?_⟩
    · rw [readers, List.find?_cons_of_pos (by simp)]
    · obtain ⟨presence', item, found, takes⟩ := ih distinct n mem
      have apart : m.1 ≠ n.1 := by
        intro same
        rw [← names_of_answers others] at own
        exact own (List.mem_map.mpr ⟨n, mem, same.symm⟩)
      exact ⟨presence', item, by rw [readers, List.find?_cons_of_neg (by simpa using apart), found],
        takes⟩

/-- **A record is read back** if all its members are written in the order of its fields. -/
theorem Reads.record (nested : 1 < depth) (distinct : (fields.map Prod.fst).Nodup)
    (answers : List.Forall₂ (Answers (depth - 1)) fields members) :
    (Shape.record fields).Reads depth (.obj members) where
  opens := ⟨'\x7b', (writeMembers members).toList ++ ['\x7d'], by rw [write]; simp, by decide,
    by decide⟩
  read rest _ := by
    have text : (Json.obj members).write.toList ++ rest =
        '\x7b' :: (separated written members ++ '\x7d' :: rest) := by
      rw [write, ← toList_writeMembers]
      simp
    have names := names_of_answers answers
    have all : ((readers fields (depth - 1)).all fun f =>
        mayBeAbsent f.2.1 || members.any (·.1 == f.1)) = true := by
      rw [List.all_eq_true]
      intro field mem
      have named : field.1 ∈ members.map Prod.fst := by
        rw [names, ← names_readers fields (depth - 1)]
        exact List.mem_map_of_mem mem
      obtain ⟨m, present, same⟩ := List.mem_map.mp named
      rw [Bool.or_eq_true, List.any_eq_true]
      exact .inr ⟨m, present, beq_iff_eq.mpr same⟩
    have read := membersWith_written (known_of_answers answers distinct) (names ▸ distinct)
      (length_lt_stepsFor written members '\x7d' rest) rest
    have brace : isSpace '\x7b' = false := by decide
    rw [text, Shape.read, readRecord, skipSpace_of_visible brace]
    show (if depth ≤ 1 then _ else _) = _
    rw [if_neg (Nat.not_le.mpr nested), read]
    exact if_pos all

end Shape

end QuerySession
