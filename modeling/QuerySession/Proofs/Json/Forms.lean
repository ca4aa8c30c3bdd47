import QuerySession.Json.Forms
import QuerySession.Proofs.Json.Shapes

/-!
# Values are kept by their texts

Paths, credentials, options and policies are read back from the texts that stand for them.  The
content of an option carries no tag, and is of the kind in which it was written: truth values and
numbers stand without quotes, and texts between them, whatever they spell.

## Main Definitions

* `Codec.Returns` — the document of a value is read where it is written, and stands for the value

## Main Results

* `Codec.Returns.ofText` — such a value is read back from its text
* `StoragePath.returns`, `Credentials.returns`, `Policy.returns`, `OptionValue.returns_flag`,
  `OptionValue.returns_whole`, `OptionValue.returns_text` — this holds of the values
* `values_kept_by_texts` — values are kept by their texts, and so is who may act for whom
-/

namespace QuerySession

namespace Codec

variable {α : Type} {c : Codec α} {depth : Nat} {a : α}

/-- The document of a value is read where it is written, if it may be nested as deep, and stands for
the value. -/
structure Returns (c : Codec α) (depth : Nat) (a : α) : Prop where
  reads : c.shape.Reads depth (c.encode a)
  back : c.decode (c.encode a) = some a

/-- **A value is read back from its text.** -/
theorem Returns.ofText (returns : c.Returns Json.maxDepth a) :
    c.ofText (c.encode a).write = .ok a := by
  simp only [Codec.ofText, returns.reads.ofText, returns.back]

/-- A list of values is kept if all of them are. -/
theorem Returns.list {as : List α} (nested : 1 < depth)
    (returns : ∀ a ∈ as, c.Returns (depth - 1) a) : c.list.Returns depth as where
  reads := by
    refine .list nested fun v mem => ?_
    obtain ⟨a, known, rfl⟩ := List.mem_map.mp mem
    exact (returns a known).reads
  back := by
    show (as.map c.encode).mapM c.decode = some as
    induction as with
    | nil => rfl
    | cons a as ih =>
      rw [List.forall_mem_cons] at returns
      rw [List.map_cons, List.mapM_cons, returns.1.back, Option.bind_eq_bind, Option.bind_some,
        ih returns.2]
      rfl

/-- A value is found by its name, if no other has this name. -/
theorem decode_named [DecidableEq α] {values : List α} {name : α → String} (mem : a ∈ values)
    (apart : ∀ b ∈ values, name b = name a → b = a) :
    (named values name).decode (.str (name a)) = some a := by
  show values.find? (name · == name a) = some a
  cases found : values.find? (name · == name a) with
  | none => exact absurd (List.find?_eq_none.mp found a mem) (by simp)
  | some b =>
    have same := List.find?_some (p := (name · == name a)) found
    rw [apart b (List.mem_of_find?_eq_some found) (beq_iff_eq.mp same)]

/-- Values whose names differ are kept by their names. -/
theorem returns_named [DecidableEq α] {values : List α} {name : α → String} (mem : a ∈ values)
    (apart : ∀ b ∈ values, name b = name a → b = a) (depth : Nat) :
    (named values name).Returns depth a where
  reads := Shape.reads_choice (List.mem_map_of_mem mem) depth
  back := decode_named mem apart

theorem texts_ofTexts (ss : List String) : texts (ofTexts ss) = some ss := by
  show (ss.map Json.str).mapM Json.str? = some ss
  rw [List.mapM_map]
  exact List.mapM_pure.trans (congrArg some (List.map_id ss))

theorem reads_ofTexts (nested : 1 < depth) (ss : List String) :
    (Shape.list .anyText).Reads depth (ofTexts ss) := by
  refine .list nested fun v mem => ?_
  obtain ⟨s, -, rfl⟩ := List.mem_map.mp mem
  exact Shape.reads_text s (depth - 1)

end Codec

open Codec Shape

variable {depth : Nat}

/-! ## Paths and credentials -/

theorem StoragePath.returns (nested : 2 < depth) (p : StoragePath) : codec.Returns depth p where
  reads := .record (by omega) (by decide) <| .cons ⟨rfl, reads_text p.scheme _⟩ <|
    .cons ⟨rfl, reads_text p.root _⟩ <| .cons ⟨rfl, reads_ofTexts (by omega) p.segments⟩ .nil
  back := by simp [codec, member, Json.member?, Json.str?, texts_ofTexts]

theorem Credentials.returns (nested : 1 < depth) (c : Credentials) : codec.Returns depth c where
  reads := .record nested (by decide) <| .cons ⟨rfl, reads_text c.userName _⟩ .nil
  back := by simp [codec, member, Json.member?, Json.str?]

/-! ## Options -/

theorem OptionScope.returns (s : OptionScope) (depth : Nat) : codec.Returns depth s :=
  returns_named (by cases s <;> decide) (by cases s <;> decide) depth

/-- An option is kept if its content is. -/
theorem OptionValue.returns (nested : 1 < depth) {v : OptionValue}
    (reads : Shape.scalar.Reads (depth - 1) v.content.toScalar)
    (back : OptionContent.ofScalar v.content.toScalar = some v.content) :
    codec.Returns depth v where
  reads := .record nested (by decide) <| .cons ⟨rfl, (v.scope.returns _).reads⟩ <|
    .cons ⟨rfl, reads_text v.name _⟩ <| .cons ⟨rfl, reads⟩ .nil
  back := by simp [codec, member, Json.member?, Json.str?, (v.scope.returns depth).back, back]

theorem OptionValue.returns_flag (nested : 1 < depth) (scope : OptionScope) (name : String)
    (b : Bool) : codec.Returns depth ⟨scope, name, .flag b⟩ :=
  returns nested (reads_scalar_flag b _) rfl

theorem OptionValue.returns_text (nested : 1 < depth) (scope : OptionScope) (name s : String) :
    codec.Returns depth ⟨scope, name, .text s⟩ :=
  returns nested (reads_scalar_text s _) rfl

/-- Whole numbers of 64 bits with sign stay whole. -/
theorem OptionValue.returns_whole (nested : 1 < depth) (scope : OptionScope) (name : String)
    {n : Int} (isLong : OptionContent.isLong n = true) :
    codec.Returns depth ⟨scope, name, .whole n⟩ := by
  obtain ⟨low, high⟩ : -0x8000000000000000 ≤ n ∧ n < 0x8000000000000000 := by
    simpa [OptionContent.isLong] using isLong
  have small : n ≤ Json.greatestSignificand := by
    rw [Json.greatestSignificand]
    omega
  exact returns nested (reads_scalar_whole low small _) (if_pos isLong)

theorem isLong_toInt (n : Int64) : OptionContent.isLong n.toInt = true := by
  have low := n.le_toInt
  have high := n.toInt_lt
  simp only [OptionContent.isLong, Bool.and_eq_true, decide_eq_true_eq]
  omega

/-! ## Policies -/

theorem Principals.returns (nested : 2 < depth) (p : Principals) : codec.Returns depth p where
  reads := .record (by omega) (by decide) <| .cons ⟨rfl, reads_ofTexts (by omega) p.users⟩ .nil
  back := by simp [codec, memberD, Json.member?, texts_ofTexts]

theorem Policy.returns (nested : 3 < depth) (p : Policy) : codec.Returns depth p := by
  have proxies : Principals.codec.Returns (depth - 1) p.proxies := p.proxies.returns (by omega)
  have targets : Principals.codec.Returns (depth - 1) p.targets := p.targets.returns (by omega)
  refine ⟨.record (by omega) (by decide) <| .cons ⟨rfl, proxies.reads⟩ <|
    .cons ⟨rfl, targets.reads⟩ .nil, ?_⟩
  simp [codec, member, Json.member?, proxies.back, targets.back]

theorem Policy.returns_list (nested : 4 < depth) (ps : List Policy) :
    codec.list.Returns depth ps := .list (by omega) fun p _ => p.returns (by omega)

/-- An authority is made of the policies of its text. -/
theorem Authority.ofText_write (id : AuthorityId) (ps : List Policy) :
    ofText id (Policy.codec.list.encode ps).write = .ok ⟨id, ps⟩ := by
  have policies : Policy.codec.list.Returns Json.maxDepth ps := Policy.returns_list (by decide) ps
  rw [Authority.ofText, policies.ofText]

/-! ## Texts -/

/-- **Values are kept by their texts.**  So are paths, credentials, lists of policies, and options
that hold a truth value, a whole number of 64 bits with sign, or a text.  An authority that is made
from the text of a list of policies allows what one with this list allows. -/
theorem values_kept_by_texts :
    (∀ p : StoragePath, StoragePath.codec.ofText (StoragePath.codec.encode p).write = .ok p) ∧
    (∀ c : Credentials, Credentials.codec.ofText (Credentials.codec.encode c).write = .ok c) ∧
    (∀ ps : List Policy,
      Policy.codec.list.ofText (Policy.codec.list.encode ps).write = .ok ps ∧
      ∀ id own, ∃ a : Authority,
        Authority.ofText id (Policy.codec.list.encode ps).write = .ok a ∧
        ∀ proxy target, a.allows proxy target = (⟨own, ps⟩ : Authority).allows proxy target) ∧
    (∀ scope name,
      (∀ b : Bool, OptionValue.codec.ofText
        (OptionValue.codec.encode ⟨scope, name, .flag b⟩).write = .ok ⟨scope, name, .flag b⟩) ∧
      (∀ n : Int64, OptionValue.codec.ofText
        (OptionValue.codec.encode ⟨scope, name, .whole n.toInt⟩).write =
          .ok ⟨scope, name, .whole n.toInt⟩) ∧
      (∀ s : String, OptionValue.codec.ofText
        (OptionValue.codec.encode ⟨scope, name, .text s⟩).write = .ok ⟨scope, name, .text s⟩)) := by
  have deep : 4 < Json.maxDepth := by decide
  refine ⟨fun p => (p.returns (by omega)).ofText, fun c => (c.returns (by omega)).ofText,
    fun ps => ⟨(Policy.returns_list deep ps).ofText, fun id own => ?_⟩,
    fun scope name => ⟨fun b => ?_, fun n => ?_, fun s => ?_⟩⟩
  · exact ⟨_, Authority.ofText_write id ps, fun _ _ => rfl⟩
  · exact (OptionValue.returns_flag (by omega) scope name b).ofText
  · exact (OptionValue.returns_whole (by omega) scope name (isLong_toInt n)).ofText
  · exact (OptionValue.returns_text (by omega) scope name s).ofText

/-- A text that spells a number stands between quotes, and what stands in it is escaped. -/
example : (OptionValue.codec.encode ⟨.query, "a\"", .text "-0"⟩).write =
    "\x7b\"scope\":\"Query\",\"name\":\"a\\\"\",\"value\":\"-0\"\x7d" := by decide +kernel

end QuerySession
