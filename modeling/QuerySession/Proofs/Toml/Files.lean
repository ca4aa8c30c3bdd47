import QuerySession.Proofs.Toml.Trees
import QuerySession.Proofs.Toml.Values

/-!
# Files are read back

A written file is read back line by line.  A header opens a table behind what has been read so far,
and the lines below it give values to its keys, in the order in which they were written; so in the
end the tree stands for the document that was written (`documentOfText?_write`).  Names may be any
texts, as long as no table has two members of one name.

## Main Definitions

* `Toml.Takes` — what lines of a file do
* `Toml.Arranged` — documents that can be written: tables behind the plain members, to any depth

## Main Results

* `Toml.takes_key`, `Toml.takes_header` — the two kinds of lines
* `Toml.documentOfText?_write` — a file is read back
-/

namespace QuerySession.Toml

variable {text text' rest : List Char} {p p' p'' : Progress} {ms : Members} {name : String}
  {v : Json} {x : Value} {frames : List (Members × String)}

/-! ## Lines -/

/-- The text takes a reader from `p` to `p'`, whatever stands behind it.  Each of its lines is two
characters long at least, so that the steps of the reader are enough. -/
def Takes (text : List Char) (p p' : Progress) : Prop :=
  ∃ lines, 2 * lines ≤ text.length ∧ ∀ steps rest,
    readLines (steps + lines) p (text ++ rest) = readLines steps p' rest

theorem Takes.refl (p : Progress) : Takes [] p p := ⟨0, Nat.le_refl 0, fun _ _ => rfl⟩

/-- One text after another. -/
theorem Takes.trans (first : Takes text p p') (second : Takes text' p' p'') :
    Takes (text ++ text') p p'' := by
  obtain ⟨lines, long, read⟩ := first
  obtain ⟨lines', long', read'⟩ := second
  refine ⟨lines' + lines, by rw [List.length_append]; omega, fun steps rest => ?_⟩
  rw [← Nat.add_assoc, List.append_assoc, read, read']

/-- An empty line is skipped. -/
theorem readLines_newline (steps : Nat) (p : Progress) (rest : List Char) :
    readLines steps p ('\n' :: rest) = readLines steps p rest := by
  cases steps with
  | zero => rfl
  | succ steps =>
    have skipped : skipLines (('\n' :: rest).length + 1) ('\n' :: rest) =
        skipLines (rest.length + 1) rest := skipLines_newline ..
    rw [readLines, skipped, readLines]

theorem Takes.newline (p : Progress) : Takes ['\n'] p p :=
  ⟨0, by decide, fun steps rest => readLines_newline steps p rest⟩

/-- What is read as a line takes the reader over its end. -/
theorem Takes.line {c : Char} {more : List Char} (visible : Visible c)
    (read : ∀ rest, readLine p (c :: more ++ '\n' :: rest) = some (p', '\n' :: rest)) :
    Takes (c :: more ++ ['\n']) p p' := by
  refine ⟨1, by simp, fun steps rest => ?_⟩
  have whole : c :: more ++ ['\n'] ++ rest = c :: (more ++ '\n' :: rest) := by simp
  rw [whole, readLines, skipLines_of_visible visible]
  show (readLine p (c :: more ++ '\n' :: rest)).bind _ = _
  rw [read]
  rfl

/-! ### Keys -/

/-- A path is not shorter in letters than in names. -/
theorem length_le_writePath (path : List String) (name : String) :
    path.length ≤ (writePath (path ++ [name])).toList.length := by
  induction path with
  | nil => exact Nat.zero_le _
  | cons first path ih =>
    obtain ⟨next, more, behind⟩ := exists_cons path name
    rw [List.cons_append, behind, writePath_cons, ← behind, List.length_append, List.length_cons,
      List.length_cons]
    omega

/-- The line of a key, and what is behind it. -/
theorem readLine_key (p : Progress) (name : String) (plain : Plain v)
    (value : ∀ rest, Closed rest →
      readValue maxDepth ((writeValue v).toList ++ rest) = some (x, rest)) (rest : List Char) :
    readLine p ((writeKey name).toList ++ ' ' :: '=' :: ' ' :: ((writeValue v).toList ++
      '\n' :: rest)) = (p.assign [] name x).map (·, '\n' :: rest) := by
  obtain ⟨c, more, written, opens⟩ := writeKey_head name
    (' ' :: '=' :: ' ' :: ((writeValue v).toList ++ '\n' :: rest))
  have ended : Ended (' ' :: '=' :: ' ' :: ((writeValue v).toList ++ '\n' :: rest)) := by
    rintro _ ⟨⟩
    rfl
  have key := readKey_writeKey name ended (by rintro ⟨⟩) (c :: more).length
  rw [written] at key ⊢
  unfold readLine
  split
  · rename_i same
    exact absurd (List.cons.inj same).1 (opens.ne '[' (by decide))
  · rename_i same
    exact absurd (List.cons.inj same).1 (opens.ne '[' (by decide))
  · rw [key]
    show (readValue maxDepth (skipBlank ((writeValue v).toList ++ '\n' :: rest))).bind _ = _
    rw [plain.skipBlank_eq, value ('\n' :: rest) ⟨'\n', rest, rfl, .inl rfl⟩]
    rfl

/-- **A key gives a value** to the newest table. -/
theorem takes_key (clear : Clear frames) (fresh : Fresh name ms) (plain : Plain v) :
    ∃ x, x.toJson = some v ∧
      Takes ((writeKey name).toList ++ ' ' :: '=' :: ' ' :: (writeValue v).toList ++ ['\n'])
        ⟨(.declared, plug frames ms), pathOf frames⟩
        ⟨(.declared, plug frames (ms ++ [(name, x)])), pathOf frames⟩ := by
  obtain ⟨x, stands, value⟩ := plain.reads 79
  obtain ⟨c, more, written, opens⟩ :=
    writeKey_head name (' ' :: '=' :: ' ' :: (writeValue v).toList)
  refine ⟨x, stands, ?_⟩
  rw [written]
  refine Takes.line opens.visible fun rest => ?_
  have read := readLine_key ⟨(.declared, plug frames ms), pathOf frames⟩ name plain value rest
  rw [Progress.assign, Table.assignUnder?_plug clear fresh] at read
  rw [← written]
  simpa using read

/-- The line of a header, and what is behind it. -/
theorem readLine_header (p : Progress) (path : List String) (name : String) (rest : List Char) :
    readLine p ('[' :: (writePath (path ++ [name])).toList ++ ']' :: '\n' :: rest) =
      (p.enter false path name).map (·, '\n' :: rest) := by
  obtain ⟨c, more, written, opens⟩ := writePath_head path name (']' :: '\n' :: rest)
  have ended : Ended (']' :: '\n' :: rest) := by
    rintro _ ⟨⟩
    rfl
  have enough : path.length < (c :: more).length + 1 := by
    have long := length_le_writePath path name
    rw [← written, List.length_append]
    omega
  have key := readKey_writePath path name ended (by rintro ⟨⟩) enough
  rw [List.cons_append]
  rw [written] at key ⊢
  unfold readLine
  split
  · rename_i same
    exact absurd (List.cons.inj (List.cons.inj same).2).1 (opens.ne '[' (by decide))
  · rename_i same
    cases same
    rw [key]
    rfl
  · rename_i other
    exact absurd rfl (other (c :: more))

/-- **A header opens a table** behind the members of the newest one. -/
theorem takes_header (clear : Clear frames) (fresh : Fresh name ms) (header : List String) :
    Takes ('[' :: ((writePath (pathOf frames ++ [name])).toList ++ [']']) ++ ['\n'])
      ⟨(.declared, plug frames ms), header⟩
      ⟨(.declared, plug (frames ++ [(ms, name)]) []), pathOf (frames ++ [(ms, name)])⟩ := by
  refine Takes.line ⟨rfl, by decide⟩ fun rest => ?_
  have read := readLine_header ⟨(.declared, plug frames ms), header⟩ (pathOf frames) name rest
  rw [Progress.enter, if_neg Bool.false_ne_true, Table.declare?_plug clear fresh] at read
  rw [pathOf_concat]
  simpa using read

/-! ## Documents -/

/-- Tables as members of a document. -/
def objects (tables : List (String × List (String × Json))) : List (String × Json) :=
  tables.map fun m => (m.1, .obj m.2)

/-- Documents that can be written: no two members have one name, and the tables stand behind the
plain members, here and in every table. -/
inductive Arranged : List (String × Json) → Prop
  | intro (plain : List (String × Json)) (tables : List (String × List (String × Json)))
      (leaves : ∀ m ∈ plain, Plain m.2) (inner : ∀ m ∈ tables, Arranged m.2)
      (distinct : (plain.map Prod.fst ++ tables.map Prod.fst).Nodup) :
      Arranged (plain ++ objects tables)

variable {members plain : List (String × Json)} {tables : List (String × List (String × Json))}
  {path : List String}

/-! ### How they are written -/

/-- Blocks, each behind an empty line. -/
def below (blocks : List String) : List Char := blocks.flatMap fun b => '\n' :: b.toList

/-- The members of a table, without its header. -/
def body (path : List String) (members : List (String × Json)) : List Char :=
  (writePlain members).toList ++ below (writeTables path members)

/-- What is plain is no table. -/
theorem Plain.ne_obj (leaf : Plain v) (inner : List (String × Json)) : v ≠ .obj inner := by
  rintro rfl
  rcases leaf with ⟨⟨⟩⟩

theorem writePlain_cons (leaf : Plain v) (name : String) (members : List (String × Json)) :
    (writePlain ((name, v) :: members)).toList =
      (writeKey name).toList ++ ' ' :: '=' :: ' ' :: (writeValue v).toList ++ ['\n'] ++
        (writePlain members).toList := by
  rw [writePlain]
  · simp
  · exact leaf.ne_obj

theorem writePlain_objects (tables : List (String × List (String × Json))) :
    writePlain (objects tables) = "" := by
  induction tables with
  | nil => rfl
  | cons m tables ih => rw [objects, List.map_cons, writePlain]; exact ih

theorem writeTables_plain (leaves : ∀ m ∈ plain, Plain m.2) (path : List String) :
    writeTables path (plain ++ members) = writeTables path members := by
  induction plain with
  | nil => rfl
  | cons m plain ih =>
    obtain ⟨name, v⟩ := m
    rw [List.forall_mem_cons] at leaves
    rw [List.cons_append, writeTables, ih leaves.2]
    intro _ inner same
    exact leaves.1.ne_obj inner (Prod.ext_iff.mp same).2

/-- A table is written as an empty line, its header and its members, in front of the tables behind
it. -/
theorem below_writeTables_cons (path : List String) (name : String)
    (inner : List (String × Json)) (tables : List (String × List (String × Json))) :
    below (writeTables path (objects ((name, inner) :: tables))) =
      ['\n'] ++ ('[' :: ((writePath (path ++ [name])).toList ++ [']']) ++ ['\n']) ++
        body (path ++ [name]) inner ++ below (writeTables path (objects tables)) := by
  rw [objects, List.map_cons, writeTables]
  simp [below, body, objects]

/-! ### How they are read -/

/-- The plain members of a table are read back. -/
theorem takes_plain (clear : Clear frames) (leaves : ∀ m ∈ plain, Plain m.2)
    (tables : List (String × List (String × Json)))
    (distinct : (ms.map Prod.fst ++ plain.map Prod.fst).Nodup) :
    ∃ xs, membersToJson xs = some plain ∧ Takes (writePlain (plain ++ objects tables)).toList
      ⟨(.declared, plug frames ms), pathOf frames⟩
      ⟨(.declared, plug frames (ms ++ xs)), pathOf frames⟩ := by
  induction plain generalizing ms with
  | nil =>
    refine ⟨[], rfl, ?_⟩
    rw [List.nil_append, writePlain_objects, List.append_nil]
    exact Takes.refl _
  | cons m plain ih =>
    obtain ⟨name, v⟩ := m
    rw [List.forall_mem_cons] at leaves
    have fresh : Fresh name ms := fun mem =>
      (List.nodup_append.mp distinct).2.2 name mem name List.mem_cons_self rfl
    obtain ⟨x, stands, line⟩ := takes_key clear fresh leaves.1
    have distinct' : ((ms ++ [(name, x)]).map Prod.fst ++ plain.map Prod.fst).Nodup := by
      simpa using distinct
    obtain ⟨xs, others, lines⟩ := ih leaves.2 distinct'
    refine ⟨(name, x) :: xs, membersToJson_cons stands others, ?_⟩
    rw [List.cons_append, writePlain_cons leaves.1]
    have both := line.trans lines
    rwa [List.append_assoc ms, List.singleton_append] at both

/-- Tables are read back, if the members of each are. -/
theorem takes_tables (clear : Clear frames) (header : List String)
    (inner : ∀ m ∈ tables, ∀ frames, Clear frames → ∃ xs header',
      membersToJson xs = some m.2 ∧ Takes (body (pathOf frames) m.2)
        ⟨(.declared, plug frames []), pathOf frames⟩ ⟨(.declared, plug frames xs), header'⟩)
    (distinct : (ms.map Prod.fst ++ tables.map Prod.fst).Nodup) :
    ∃ xs header', membersToJson xs = some (objects tables) ∧
      Takes (below (writeTables (pathOf frames) (objects tables)))
        ⟨(.declared, plug frames ms), header⟩ ⟨(.declared, plug frames (ms ++ xs)), header'⟩ := by
  induction tables generalizing ms header with
  | nil =>
    refine ⟨[], header, rfl, ?_⟩
    have nothing : below (writeTables (pathOf frames) (objects [])) = [] := by
      simp [objects, writeTables, below]
    rw [List.append_nil, nothing]
    exact Takes.refl _
  | cons m tables ih =>
    obtain ⟨name, members⟩ := m
    rw [List.forall_mem_cons] at inner
    have fresh : Fresh name ms := fun mem =>
      (List.nodup_append.mp distinct).2.2 name mem name List.mem_cons_self rfl
    obtain ⟨xs, header', stands, table⟩ := inner.1 _ (clear.concat fresh)
    have distinct' : ((ms ++ [(name, Value.table .declared xs)]).map Prod.fst ++
        tables.map Prod.fst).Nodup := by simpa using distinct
    obtain ⟨ys, header'', others, rest⟩ := ih header' inner.2 distinct'
    have first : Value.toJson (.table .declared xs) = some (.obj members) := by
      rw [Value.toJson, stands]
      rfl
    refine ⟨(name, .table .declared xs) :: ys, header'', membersToJson_cons first others, ?_⟩
    rw [below_writeTables_cons]
    rw [plug_concat, plug_concat, pathOf_concat] at table
    have opened := (Takes.newline _).trans (takes_header clear fresh header)
    rw [plug_concat, pathOf_concat] at opened
    have all := (opened.trans table).trans rest
    rwa [List.append_assoc ms, List.singleton_append] at all

/-- **What is written for a table is read back**, and gives the newest table its members. -/
theorem Arranged.takes (arranged : Arranged members) : ∀ frames, Clear frames → ∃ xs header',
    membersToJson xs = some members ∧ Takes (body (pathOf frames) members)
      ⟨(.declared, plug frames []), pathOf frames⟩ ⟨(.declared, plug frames xs), header'⟩ := by
  induction arranged with
  | intro plain tables leaves inner distinct ih =>
    intro frames clear
    have own : (([] : Members).map Prod.fst ++ plain.map Prod.fst).Nodup :=
      (List.nodup_append.mp distinct).1
    obtain ⟨xs, stands, first⟩ := takes_plain clear leaves tables own
    rw [← names_of_membersToJson stands] at distinct
    obtain ⟨ys, header', others, second⟩ := takes_tables clear (pathOf frames) ih distinct
    refine ⟨xs ++ ys, header', membersToJson_append stands others, ?_⟩
    rw [body, writeTables_plain leaves]
    exact first.trans second

/-! ## Whole files -/

/-- Blocks with an empty line between them. -/
theorem intercalate_blocks (first : String) (blocks : List String) :
    ("\n".intercalate (first :: blocks)).toList = first.toList ++ below blocks := by
  induction blocks generalizing first with
  | nil => simp [below]
  | cons next blocks ih =>
    rw [String.intercalate_cons_cons, String.toList_append, ih]
    simp [below]

/-- A file without plain members begins with the first of its tables. -/
theorem write_objects (name : String) (inner : List (String × Json))
    (tables : List (String × List (String × Json))) :
    ∃ more, (write (objects ((name, inner) :: tables))).toList = '[' :: more ∧
      '\n' :: '[' :: more = body [] (objects ((name, inner) :: tables)) := by
  obtain ⟨first, blocks, shape, header⟩ : ∃ first blocks,
      writeTables [] (objects ((name, inner) :: tables)) = first :: blocks ∧
        ∃ more, first.toList = '[' :: more := by
    refine ⟨_, _, by rw [objects, List.map_cons, writeTables]; rfl, ?_⟩
    simp
  obtain ⟨more, header⟩ := header
  refine ⟨more ++ below blocks, ?_, ?_⟩
  · rw [write, writePlain_objects, if_pos rfl, shape, intercalate_blocks, header, List.cons_append]
  · rw [body, writePlain_objects, shape]
    simp [below, header]

/-- A file with plain members begins with the first of them. -/
theorem write_plain (leaf : Plain v) (name : String) (members : List (String × Json)) :
    (write ((name, v) :: members)).toList = body [] ((name, v) :: members) ∧
      ∃ c more, (write ((name, v) :: members)).toList = c :: more ∧ Opens c := by
  have line := writePlain_cons leaf name members
  have some_ : writePlain ((name, v) :: members) ≠ "" := by
    intro empty
    rw [empty] at line
    exact absurd (congrArg List.length line) (by simp)
  have whole : (write ((name, v) :: members)).toList = body [] ((name, v) :: members) := by
    rw [write, if_neg some_, intercalate_blocks, body]
  refine ⟨whole, ?_⟩
  rw [whole, body, line, List.append_assoc, List.append_assoc, List.append_assoc]
  exact writeKey_head name _

/-- There is no mark of the byte order in front of a file. -/
theorem dropMark_of_ne {c : Char} {more : List Char} (other : c ≠ '\ufeff') :
    dropMark (c :: more) = c :: more := by
  unfold dropMark
  split
  · rename_i same
    exact absurd (List.cons.inj same).1 other
  · rfl

/-- A file holds the members of its top, but for an empty line if there are no plain ones. -/
theorem write_eq (arranged : Arranged members) :
    dropMark (write members).toList = (write members).toList ∧
      ((write members).toList = body [] members ∨
        '\n' :: (write members).toList = body [] members) := by
  obtain ⟨plain, tables, leaves, inner, distinct⟩ := arranged
  rcases plain with _ | ⟨⟨name, v⟩, plain⟩
  · rcases tables with _ | ⟨⟨name, members⟩, tables⟩
    · have nothing : (write ([] ++ objects [])).toList = [] ∧ body [] ([] ++ objects []) = [] := by
        simp [write, body, below, objects, writePlain, writeTables]
      rw [nothing.1, nothing.2]
      exact ⟨rfl, .inl rfl⟩
    · obtain ⟨more, written, whole⟩ := write_objects name members tables
      rw [List.nil_append, written, ← whole]
      exact ⟨dropMark_of_ne (by decide), .inr rfl⟩
  · obtain ⟨whole, c, more, written, opens⟩ :=
      write_plain (leaves _ List.mem_cons_self) name (plain ++ objects tables)
    rw [List.cons_append]
    refine ⟨?_, .inl whole⟩
    rw [written]
    exact dropMark_of_ne (opens.ne '\ufeff' (by decide))

/-- **A file is read back.** -/
theorem documentOfText?_write (arranged : Arranged members) :
    documentOfText? (write members) = some (.obj members) := by
  obtain ⟨unmarked, whole⟩ := write_eq arranged
  obtain ⟨xs, header, stands, lines, long, read⟩ := arranged.takes [] (by rintro _ ⟨⟩)
  change 2 * lines ≤ (body [] members).length at long
  have enough : lines ≤ (write members).toList.length := by
    rcases whole with same | same
    · rw [← same] at long
      omega
    · rw [← same, List.length_cons] at long
      omega
  obtain ⟨more, fuel⟩ := Nat.exists_eq_add_of_le enough
  have done := read (more + 1) []
  have top : readLines (more + 1 + lines) .start (write members).toList =
      some ⟨(.declared, xs), header⟩ := by
    rw [List.append_nil] at done
    rcases whole with same | same
    · rw [same]
      exact done
    · rw [← readLines_newline, same]
      exact done
  have tree : ofText? (write members) = some (.declared, xs) := by
    rw [ofText?, unmarked, fuel, show lines + more + 1 = more + 1 + lines by omega, top]
    rfl
  rw [documentOfText?, tree]
  show Value.toJson (.table .declared xs) = _
  rw [Value.toJson, stands]
  rfl

end QuerySession.Toml
