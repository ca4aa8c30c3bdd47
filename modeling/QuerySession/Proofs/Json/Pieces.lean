import QuerySession.Json.Shape
import QuerySession.Proofs.Json.Tokens

/-!
# Pieces of documents are read back

The items of a list are read one after another if each is read where it is written, and so are the
members of a record, if its fields know their names and no name comes twice.

## Main Definitions

* `Json.Opens` — what can be told from space and from the end of a list
* `Json.Takes` — a reader takes a document where it is written
* `Json.separated`, `Json.behindCommas` — pieces with commas between them, and behind commas
* `Shape.Known` — a member whose value is taken by the reader of its field

## Main Results

* `Json.itemsWith_written` — the items of a list are read back
* `Shape.membersWith_written` — the members of a record are read back

## Implementation Notes

Both loops have to know whether something was read before, since a comma stands in front of all
pieces but the first.  So they are followed from behind the first piece on (`behindCommas`), and the
first piece is one step more.
-/

namespace QuerySession

namespace Json

variable {c : Char} {rest tail behind : List Char} {item : List Char → Read Json} {steps : Nat}
  {v : Json} {items : List Json}

/-- What begins neither with space nor with the end of a list. -/
def Opens (text : List Char) : Prop :=
  ∃ c more, text = c :: more ∧ isSpace c = false ∧ c ≠ ']'

/-- A reader takes a document where it is written, up to its end. -/
structure Takes (item : List Char → Read Json) (v : Json) : Prop where
  opens : Opens v.write.toList
  read : ∀ rest, Closed rest → item (v.write.toList ++ rest) = .ok (v, rest)

/-- What can be seen is no space. -/
theorem skipSpace_of_visible (visible : isSpace c = false) (tail : List Char) :
    skipSpace (c :: tail) = c :: tail := by
  rw [skipSpace, List.dropWhile_cons, visible]
  rfl

/-! ## Commas -/

section

variable {α : Type} {spell : α → List Char}

/-- Pieces behind the first, each behind a comma. -/
def behindCommas (spell : α → List Char) (pieces : List α) : List Char :=
  pieces.flatMap fun a => ',' :: spell a

/-- Pieces with commas between them. -/
def separated (spell : α → List Char) : List α → List Char
  | [] => []
  | a :: pieces => spell a ++ behindCommas spell pieces

theorem behindCommas_cons (a : α) (pieces : List α) (rest : List Char) :
    behindCommas spell (a :: pieces) ++ rest =
      ',' :: (spell a ++ (behindCommas spell pieces ++ rest)) := by
  simp [behindCommas]

theorem separated_cons_cons (a b : α) (pieces : List α) :
    separated spell (a :: b :: pieces) = spell a ++ ',' :: separated spell (b :: pieces) := by
  simp [separated, behindCommas]

/-- Behind a piece comes a comma, or the end of the list or object. -/
theorem closed_behindCommas (last : c = ']' ∨ c = '\x7d') (spell : α → List Char)
    (pieces : List α) (rest : List Char) : Closed (behindCommas spell pieces ++ c :: rest) := by
  cases pieces with
  | nil => exact closed_cons (.inr last) rest
  | cons a pieces => exact closed_cons (.inl rfl) _

/-- There is a step for every piece, and one for the end. -/
theorem length_lt_stepsFor (spell : α → List Char) (pieces : List α) (c : Char)
    (rest : List Char) : pieces.length < stepsFor (separated spell pieces ++ c :: rest) := by
  have commas : ∀ pieces : List α, pieces.length ≤ (behindCommas spell pieces).length := by
    intro pieces
    induction pieces with
    | nil => exact Nat.le_refl 0
    | cons a pieces ih =>
      rw [behindCommas] at ih ⊢
      simp only [List.flatMap_cons, List.length_append, List.length_cons]
      omega
  cases pieces with
  | nil => simp [stepsFor]
  | cons a pieces =>
    have := commas pieces
    simp only [stepsFor, separated, List.length_append, List.length_cons]
    omega

end

/-! ## Items -/

theorem toList_writeItems (items : List Json) :
    (writeItems items).toList = separated (·.write.toList) items := by
  induction items with
  | nil => rfl
  | cons v items ih =>
    cases items with
    | nil => simp [writeItems, separated, behindCommas]
    | cons w items =>
      rw [writeItems, separated_cons_cons, ← ih, String.toList_append, String.toList_append,
        List.append_assoc]
      · rfl
      · simp

/-- The first item of a list. -/
theorem itemsWith_first (visible : isSpace c = false) (inside : c ≠ ']')
    (first : item (c :: tail) = .ok (v, rest))
    (others : itemsWith item steps false rest = .ok (items, behind)) :
    itemsWith item (steps + 1) true (c :: tail) = .ok (v :: items, behind) := by
  rw [itemsWith, skipSpace_of_visible visible]
  split
  · contradiction
  · rename_i same
    exact absurd (List.cons.inj same).1 inside
  · rename_i same
    rw [← same]
    simp only [if_true, first, others]
    rfl

/-- A further item of a list. -/
theorem itemsWith_next (visible : isSpace c = false) (inside : c ≠ ']')
    (first : item (c :: tail) = .ok (v, rest))
    (others : itemsWith item steps false rest = .ok (items, behind)) :
    itemsWith item (steps + 1) false (',' :: c :: tail) = .ok (v :: items, behind) := by
  have comma : isSpace ',' = false := by decide
  rw [itemsWith, skipSpace_of_visible comma]
  split
  · contradiction
  · rename_i same
    exact absurd (List.cons.inj same).1 (by decide)
  · rename_i same
    obtain ⟨rfl, rfl⟩ := List.cons.inj same
    rw [if_neg Bool.false_ne_true, if_pos rfl, skipSpace_of_visible visible]
    split
    · contradiction
    · rename_i same
      exact absurd (List.cons.inj same).1 inside
    · simp only [first, others]
      rfl

/-- The items behind the first are read back. -/
theorem itemsWith_behindCommas (takes : ∀ v ∈ items, Takes item v) (enough : items.length < steps)
    (rest : List Char) :
    itemsWith item steps false (behindCommas (·.write.toList) items ++ ']' :: rest) =
      .ok (items, rest) := by
  -- Every item takes one step, so what is left of them is always less than the steps.
  induction items generalizing steps with
  | nil =>
    obtain ⟨steps, rfl⟩ : ∃ n, steps = n + 1 := ⟨steps - 1, by omega⟩
    rfl
  | cons v items ih =>
    obtain ⟨steps, rfl⟩ : ∃ n, steps = n + 1 := ⟨steps - 1, by omega⟩
    rw [List.forall_mem_cons] at takes
    have others := ih takes.2 (Nat.lt_of_succ_lt_succ enough)
    have first := takes.1.read _ (closed_behindCommas (.inl rfl) (·.write.toList) items rest)
    obtain ⟨c, more, written, visible, inside⟩ := takes.1.opens
    rw [written, List.cons_append] at first
    rw [behindCommas_cons, written, List.cons_append]
    exact itemsWith_next visible inside first others

/-- **The items of a list are read back**, behind its opening bracket. -/
theorem itemsWith_written (takes : ∀ v ∈ items, Takes item v) (enough : items.length < steps)
    (rest : List Char) :
    itemsWith item steps true (separated (·.write.toList) items ++ ']' :: rest) =
      .ok (items, rest) := by
  obtain ⟨steps, rfl⟩ : ∃ n, steps = n + 1 := ⟨steps - 1, by omega⟩
  rcases items with _ | ⟨v, items⟩
  · rfl
  · rw [List.forall_mem_cons] at takes
    have others := itemsWith_behindCommas takes.2 (Nat.lt_of_succ_lt_succ enough) rest
    have first := takes.1.read _ (closed_behindCommas (.inl rfl) (·.write.toList) items rest)
    obtain ⟨c, more, written, visible, inside⟩ := takes.1.opens
    rw [written, List.cons_append] at first
    rw [separated, written, List.append_assoc, List.cons_append]
    exact itemsWith_first visible inside first others

/-! ## Members -/

/-- A member: its name and its value, with a colon between. -/
def written (m : String × Json) : List Char := (writeStr m.1).toList ++ ':' :: m.2.write.toList

theorem toList_writeMembers (members : List (String × Json)) :
    (writeMembers members).toList = separated written members := by
  induction members with
  | nil => rfl
  | cons m members ih =>
    cases members with
    | nil => simp [writeMembers, separated, behindCommas, written]
    | cons n members =>
      rw [writeMembers, separated_cons_cons, String.toList_append, ih]
      · simp [written]
      · simp

/-- A written member, up to its opening quote. -/
theorem written_append (m : String × Json) (rest : List Char) : written m ++ rest =
    '"' :: (m.1.toList.flatMap escapeChar ++ '"' :: ':' :: (m.2.write.toList ++ rest)) := by
  rw [written, List.append_assoc, toList_writeStr]
  rfl

end Json

namespace Shape

open Json

variable {rest : List Char} {steps : Nat} {fields : List FieldReader} {m : String × Json}
  {members found : List (String × Json)}

/-- A field whose reader takes the value of a member of its name. -/
def Known (fields : List FieldReader) (m : String × Json) : Prop :=
  ∃ presence item, fields.find? (·.1 == m.1) = some (m.1, presence, item) ∧ Takes item m.2

/-- A known member is added to those that were read before, if there is none of its name. -/
theorem recordMember_written (known : Known fields m) (fresh : m.1 ∉ found.map Prod.fst)
    (closed : Closed rest) :
    recordMember fields found m.1 (':' :: (m.2.write.toList ++ rest)) =
      .ok (found ++ [m], rest) := by
  obtain ⟨presence, item, field, takes⟩ := known
  have single : found.any (·.1 == m.1) = false := by
    rw [List.any_eq_false]
    rintro other mem same
    exact fresh (List.mem_map.mpr ⟨other, mem, beq_iff_eq.mp same⟩)
  have value : anyMember item found m.1 (':' :: (m.2.write.toList ++ rest)) =
      .ok (found ++ [m], rest) := by
    show Except.map _ (item (m.2.write.toList ++ rest)) = _
    rw [takes.read rest closed]
    rfl
  rw [recordMember, field]
  simp only [single, Bool.false_eq_true, if_false, value]

/-- The first member of a record. -/
theorem membersWith_first (known : Known fields m) (fresh : m.1 ∉ found.map Prod.fst)
    (closed : Closed rest) :
    membersWith true (recordMember fields) (steps + 1) true found (written m ++ rest) =
      membersWith true (recordMember fields) steps false (found ++ [m]) rest := by
  have quote : isSpace '"' = false := by decide
  rw [written_append, membersWith, skipSpace_of_visible quote]
  split
  · contradiction
  · rename_i same
    exact absurd (List.cons.inj same).1 (by decide)
  · rename_i same
    obtain ⟨rfl, rfl⟩ := List.cons.inj same
    simp only [if_true, readText_written, String.ofList_toList,
      recordMember_written known fresh closed]

/-- A further member of a record. -/
theorem membersWith_next (known : Known fields m) (fresh : m.1 ∉ found.map Prod.fst)
    (closed : Closed rest) :
    membersWith true (recordMember fields) (steps + 1) false found (',' :: (written m ++ rest)) =
      membersWith true (recordMember fields) steps false (found ++ [m]) rest := by
  have comma : isSpace ',' = false := by decide
  have quote : isSpace '"' = false := by decide
  rw [written_append, membersWith, skipSpace_of_visible comma]
  split
  · contradiction
  · rename_i same
    exact absurd (List.cons.inj same).1 (by decide)
  · rename_i same
    obtain ⟨rfl, rfl⟩ := List.cons.inj same
    simp only [Bool.false_eq_true, if_false, if_true, skipSpace_of_visible quote, readText_written,
      String.ofList_toList, recordMember_written known fresh closed]

/-- The members behind the first are read back. -/
theorem membersWith_behindCommas (known : ∀ m ∈ members, Known fields m)
    (distinct : ((found ++ members).map Prod.fst).Nodup) (enough : members.length < steps)
    (rest : List Char) :
    membersWith true (recordMember fields) steps false found
      (behindCommas written members ++ '\x7d' :: rest) = .ok (found ++ members, rest) := by
  -- The members that were read before go along, since none of those to come may have their names.
  induction members generalizing found steps with
  | nil =>
    obtain ⟨steps, rfl⟩ : ∃ n, steps = n + 1 := ⟨steps - 1, by omega⟩
    rw [List.append_nil]
    rfl
  | cons m members ih =>
    obtain ⟨steps, rfl⟩ : ∃ n, steps = n + 1 := ⟨steps - 1, by omega⟩
    rw [List.forall_mem_cons] at known
    have fresh : m.1 ∉ found.map Prod.fst := by
      rw [List.map_append, List.map_cons, List.nodup_append] at distinct
      exact fun mem => distinct.2.2 _ mem _ List.mem_cons_self rfl
    rw [List.append_cons] at distinct
    rw [behindCommas_cons,
      membersWith_next known.1 fresh (closed_behindCommas (.inr rfl) written members rest),
      ih known.2 distinct (Nat.lt_of_succ_lt_succ enough), ← List.append_cons]

/-- **The members of a record are read back**, behind its opening brace. -/
theorem membersWith_written (known : ∀ m ∈ members, Known fields m)
    (distinct : (members.map Prod.fst).Nodup) (enough : members.length < steps) (rest : List Char) :
    membersWith true (recordMember fields) steps true []
      (separated written members ++ '\x7d' :: rest) = .ok (members, rest) := by
  obtain ⟨steps, rfl⟩ : ∃ n, steps = n + 1 := ⟨steps - 1, by omega⟩
  rcases members with _ | ⟨m, members⟩
  · rfl
  · rw [List.forall_mem_cons] at known
    rw [separated, List.append_assoc,
      membersWith_first known.1 (by simp) (closed_behindCommas (.inr rfl) written members rest)]
    exact membersWith_behindCommas known.2 distinct (Nat.lt_of_succ_lt_succ enough) rest

end Shape

end QuerySession
