import QuerySession.Proofs.Json.Forms
import QuerySession.Proofs.Keyed
import QuerySession.Proofs.Toml.Files
import QuerySession.Settings.Text

/-!
# Documents of settings

The document that stands for settings is in normal form already, and it stands for these settings:
no member is lost between what is written and what is looked for, and a path that is left out is no
path.  It is arranged as a settings file has to be, with the tables behind the plain members, so
that the file that is written stands for the settings too (`Settings.ofText?_toText`).

## Main Definitions

* `Shape.IsNormal` — trees in normal form
* `Shape.Fills` — members in the order of a record's fields
* `Codec.Keeps` — the document of a value stands for the value

## Main Results

* `Shape.Fills.isNormal` — members that fill a record are in normal form
* `Settings.keeps` — settings are kept by their documents
* `Settings.arranged` — their documents can be written
* `Settings.ofText?_toText` — settings are kept by their files
-/

namespace QuerySession

/-! ## Normal forms -/

namespace Shape

variable {fields : List (String × Presence × Shape)} {members front : List (String × Json)}

/-- A tree that is in normal form, whatever is allowed. -/
def IsNormal (shape : Shape) (v : Json) : Prop := ∀ allow, shape.conform allow v = some v

/-- The members of a record in normal form, in the order of its fields; those that may be absent may
be left out. -/
inductive Fills : List (String × Presence × Shape) → List (String × Json) → Prop
  | nil : Fills [] []
  | present {name : String} {presence : Presence} {shape : Shape} {v : Json}
      {fields : List (String × Presence × Shape)} {members : List (String × Json)}
      (normal : shape.IsNormal v) (rest : Fills fields members) :
      Fills ((name, presence, shape) :: fields) ((name, v) :: members)
  | absent {name : String} {presence : Presence} {shape : Shape}
      {fields : List (String × Presence × Shape)} {members : List (String × Json)}
      (optional : mayBeAbsent presence = true) (rest : Fills fields members) :
      Fills ((name, presence, shape) :: fields) members

/-- Members that fill a record are among its fields. -/
theorem Fills.names (fills : Fills fields members) :
    ∀ m ∈ members, m.1 ∈ fields.map Prod.fst := by
  induction fills with
  | nil => simp
  | present normal rest ih =>
    rintro m mem
    rcases List.mem_cons.mp mem with rfl | mem
    · exact List.mem_cons_self
    · exact List.mem_cons_of_mem _ (ih m mem)
  | absent optional rest ih => exact fun m mem => List.mem_cons_of_mem _ (ih m mem)

/-- The first member called `name`, behind members of other names. -/
theorem find?_append_of_apart {name : String} (apart : ∀ m ∈ front, m.1 ≠ name) :
    (front ++ members).find? (·.1 == name) = members.find? (·.1 == name) := by
  rw [List.find?_append, List.find?_eq_none.mpr (by simpa using apart)]
  rfl

/-- Members that fill a record are found by its fields. -/
theorem Fills.conformNamed (fills : Fills fields members) (allow : Allowance)
    (distinct : (fields.map Prod.fst).Nodup)
    (apart : ∀ m ∈ front, m.1 ∉ fields.map Prod.fst) :
    Shape.conformNamed allow fields (front ++ members) = some members := by
  induction fills generalizing front with
  | nil => rfl
  | @present name presence shape v fields members normal rest ih =>
    have here : ∀ m ∈ front, m.1 ≠ name := fun m mem => List.ne_of_not_mem_cons (apart m mem)
    have own := List.nodup_cons.mp distinct
    have others : Shape.conformNamed allow fields (front ++ (name, v) :: members) =
        some members := by
      rw [List.append_cons]
      refine ih own.2 fun m mem => ?_
      rcases List.mem_append.mp mem with mem | mem
      · exact List.not_mem_of_not_mem_cons (apart m mem)
      · rw [List.mem_singleton.mp mem]
        exact own.1
    rw [Shape.conformNamed, find?_append_of_apart here, List.find?_cons_of_pos (by simp)]
    simp only [normal allow, others]
    rfl
  | @absent name presence shape fields members optional rest ih =>
    have here : ∀ m ∈ front, m.1 ≠ name := fun m mem => List.ne_of_not_mem_cons (apart m mem)
    have own := List.nodup_cons.mp distinct
    have missing : members.find? (·.1 == name) = none := by
      refine List.find?_eq_none.mpr fun m mem same => own.1 ?_
      rw [← beq_iff_eq.mp same]
      exact rest.names m mem
    rw [Shape.conformNamed, find?_append_of_apart here, missing]
    simp only [optional, if_true]
    exact ih own.2 fun m mem => List.not_mem_of_not_mem_cons (apart m mem)

/-- **Members that fill a record are in normal form.** -/
theorem Fills.isNormal (fills : Fills fields members) (distinct : (fields.map Prod.fst).Nodup) :
    (Shape.record fields).IsNormal (.obj members) := by
  intro allow
  have nothing : ∀ m ∈ ([] : List (String × Json)), m.1 ∉ fields.map Prod.fst := by simp
  have found := fills.conformNamed allow distinct nothing
  rw [List.nil_append] at found
  rw [conform, found]
  rfl

theorem isNormal_text (s : String) : anyText.IsNormal (.str s) := fun _ => rfl

theorem isNormal_flag (b : Bool) : Shape.flag.IsNormal (.bool b) := fun _ => rfl

theorem isNormal_count {n : Nat} (fits : n < 0x10000000000000000) :
    Shape.count.IsNormal (.nat n) := by
  intro allow
  have small : isCountTree (.nat n) = true := by
    simp only [Json.nat, Json.int, isCountTree, isCount, Bool.and_eq_true, decide_eq_true_eq]
    omega
  rw [conform, if_pos small]

theorem isNormal_texts (ss : List String) : (Shape.list anyText).IsNormal (Codec.ofTexts ss) := by
  intro allow
  have each : (ss.map Json.str).mapM (conform allow anyText) = some (ss.map Json.str) := by
    rw [List.mapM_map]
    exact List.mapM_pure
  rw [Codec.ofTexts, conform]
  show Option.map _ ((ss.map Json.str).mapM (conform allow anyText)) = _
  rw [each]
  rfl

theorem isNormal_textsByName (m : Keyed String String) :
    (Shape.dict anyText).IsNormal (Codec.ofTextsByName m) := by
  intro allow
  have each : (m.entries.map fun e => (e.1, Json.str e.2)).mapM
      (fun e => (conform allow anyText e.2).map (e.1, ·)) =
        some (m.entries.map fun e => (e.1, Json.str e.2)) := by
    rw [List.mapM_map]
    exact List.mapM_pure
  rw [Codec.ofTextsByName, conform]
  show Option.map _ ((m.entries.map fun e => (e.1, Json.str e.2)).mapM
    (fun e => (conform allow anyText e.2).map (e.1, ·))) = _
  rw [each]
  rfl

end Shape

/-! ## Values and their documents -/

namespace Codec

variable {α : Type}

/-- The document of a value is in normal form, and stands for the value. -/
structure Keeps (c : Codec α) (a : α) : Prop where
  normal : c.shape.IsNormal (c.encode a)
  back : c.decode (c.encode a) = some a

/-- A value that is kept is found again in its document. -/
theorem Keeps.ofTreeWith {c : Codec α} {a : α} (keeps : c.Keeps a) (allow : Shape.Allowance) :
    c.ofTreeWith allow (c.encode a) = some a := by
  rw [Codec.ofTreeWith, keeps.normal allow]
  exact keeps.back

/-- Values whose names differ are kept by their names. -/
theorem keeps_named [DecidableEq α] {values : List α} {name : α → String} {a : α}
    (mem : a ∈ values) (apart : ∀ b ∈ values, name b = name a → b = a) :
    (named values name).Keeps a where
  normal := fun _ => if_pos (List.mem_map_of_mem mem)
  back := decode_named mem apart

theorem textsByName_ofTextsByName (m : Keyed String String) :
    textsByName (ofTextsByName m) = some m := by
  have each : (m.entries.map fun e => (e.1, Json.str e.2)).mapM
      (fun e => e.2.str?.map (e.1, ·)) = some m.entries := by
    rw [List.mapM_map]
    exact List.mapM_pure.trans (congrArg some (List.map_id _))
  show Option.map Keyed.ofList ((m.entries.map fun e => (e.1, Json.str e.2)).mapM
    (fun e => e.2.str?.map (e.1, ·))) = _
  rw [each, Option.map_some, Keyed.ofList_entries]

end Codec

open Codec Shape

theorem ContextLoadPolicy.keeps (p : ContextLoadPolicy) : codec.Keeps p :=
  keeps_named (by cases p <;> decide) (by cases p <;> decide)

theorem MissingTokenPolicy.keeps (p : MissingTokenPolicy) : codec.Keeps p :=
  keeps_named (by cases p <;> decide) (by cases p <;> decide)

theorem LogFormat.keeps (f : LogFormat) : codec.Keeps f :=
  keeps_named (by cases f <;> decide) (by cases f <;> decide)

theorem ExtensionSelection.keeps (s : ExtensionSelection) : codec.Keeps s where
  normal := (Fills.present (isNormal_text s.tag) .nil).isNormal (by decide)
  back := by simp [codec, memberD, Json.member?, Json.str?]

theorem TemporarySettings.keeps (s : TemporarySettings) : codec.Keeps s where
  normal := (Fills.present (isNormal_text s.workspace) .nil).isNormal (by decide)
  back := by simp [codec, memberD, Json.member?, Json.str?]

theorem EndpointSettings.keeps {s : EndpointSettings}
    (fits : s.timeoutSeconds < 0x10000000000000000) : codec.Keeps s where
  normal := (Fills.present (isNormal_text s.protocol) <|
    .present (isNormal_text s.url) <| .present (isNormal_text s.userHeader) <|
    .present (isNormal_text s.passwordHeader) <| .present (isNormal_text s.sessionIdHeader) <|
    .present (isNormal_count fits) .nil).isNormal (by decide)
  back := by
    simp [codec, memberD, Json.member?, Json.str?, countOf, Json.whole?, Json.nat, Json.int]

theorem SecuritySettings.keeps {s : SecuritySettings}
    (fits : s.endpoint.timeoutSeconds < 0x10000000000000000) : codec.Keeps s where
  normal := (Fills.present s.contextLoadPolicy.keeps.normal <|
    .present s.missingTokenPolicy.keeps.normal <| .present s.authenticator.keeps.normal <|
    .present s.contextHandler.keeps.normal <|
    .present (EndpointSettings.keeps fits).normal <|
    .present (isNormal_textsByName s.extra) .nil).isNormal (by decide)
  back := by
    simp [codec, memberD, Json.member?, s.contextLoadPolicy.keeps.back,
      s.missingTokenPolicy.keeps.back, s.authenticator.keeps.back, s.contextHandler.keeps.back,
      (EndpointSettings.keeps fits).back, textsByName_ofTextsByName]

/-- The member of a path that is set. -/
theorem LoggingSettings.fills_path (path : Option String)
    {fields : List (String × Presence × Shape)} {members : List (String × Json)}
    (rest : Fills fields members) :
    Fills (("log_file_path", .defaulted, .optional anyText) :: fields)
      ((match path with
        | some path => [("log_file_path", Json.str path)]
        | none => []) ++ members) := by
  cases path with
  | none => exact .absent rfl rest
  | some path => exact .present (fun _ => rfl) rest

theorem LoggingSettings.keeps (s : LoggingSettings) : codec.Keeps s where
  normal := (Fills.present (isNormal_text s.level) <| .present s.format.keeps.normal <|
    .present (isNormal_flag s.includeLocation) <| .present (isNormal_flag s.includeThread) <|
    .present (isNormal_flag s.logSpanClose) <| fills_path s.filePath <|
    .present (isNormal_texts s.directives) .nil).isNormal (by decide)
  back := by
    obtain ⟨level, format, location, thread, close, path, directives⟩ := s
    cases path <;>
      simp [codec, default, memberD, Json.member?, Json.str?, Json.bool?, format.keeps.back,
        textOrNull, texts_ofTexts]

theorem Settings.keeps {s : Settings}
    (fits : s.security.endpoint.timeoutSeconds < 0x10000000000000000) : codec.Keeps s where
  normal := (Fills.present (SecuritySettings.keeps fits).normal <|
    .present s.temporary.keeps.normal <| .present s.logging.keeps.normal .nil).isNormal (by decide)
  back := by
    simp [codec, memberD, Json.member?, (SecuritySettings.keeps fits).back, s.temporary.keeps.back,
      s.logging.keeps.back]

/-! ## Settings files -/

/-- The members of the document of a value. -/
def Codec.members {α : Type} (c : Codec α) (a : α) : List (String × Json) :=
  (c.encode a).members?.getD []

open Toml

/-- Plain members with names of their own. -/
theorem Toml.arranged_of_plain {plain : List (String × Json)} (leaves : ∀ m ∈ plain, Plain m.2)
    (distinct : (plain.map Prod.fst).Nodup) : Arranged plain := by
  have arranged := Arranged.intro plain [] leaves (by simp) (by simpa using distinct)
  rwa [objects, List.map_nil, List.append_nil] at arranged

theorem Toml.plain_text (s : String) : Plain (.str s) := .scalar (.text s)

theorem ExtensionSelection.arranged (s : ExtensionSelection) : Arranged (codec.members s) := by
  apply arranged_of_plain <;> simp [codec, members, Json.members?, plain_text]

theorem TemporarySettings.arranged (s : TemporarySettings) : Arranged (codec.members s) := by
  apply arranged_of_plain <;> simp [codec, members, Json.members?, plain_text]

theorem EndpointSettings.arranged {s : EndpointSettings}
    (fits : s.timeoutSeconds < 0x10000000000000000) : Arranged (codec.members s) := by
  have count : Plain (.nat s.timeoutSeconds) := .scalar (.count fits)
  apply arranged_of_plain <;> simp [codec, members, Json.members?, plain_text, count]

/-- Any names may stand among texts by name. -/
theorem arranged_textsByName (m : Keyed String String) :
    Arranged ((ofTextsByName m).members?.getD []) := by
  apply arranged_of_plain
  · intro m mem
    obtain ⟨e, -, rfl⟩ := List.mem_map.mp mem
    exact plain_text e.2
  · simpa [ofTextsByName, Json.members?, Function.comp_def] using m.distinct

theorem plain_texts (ss : List String) : Plain (ofTexts ss) := by
  refine .list fun v mem => ?_
  obtain ⟨s, -, rfl⟩ := List.mem_map.mp mem
  exact .text s

theorem LoggingSettings.arranged (s : LoggingSettings) : Arranged (codec.members s) := by
  obtain ⟨level, format, location, thread, close, path, directives⟩ := s
  have flag (b : Bool) : Plain (.bool b) := .scalar (.flag b)
  have name : Plain (LogFormat.codec.encode format) := plain_text _
  apply arranged_of_plain <;> cases path <;>
    simp [codec, members, Json.members?, plain_text, flag, name, plain_texts]

/-- The policies stand in front of the tables of the providers. -/
theorem SecuritySettings.arranged {s : SecuritySettings}
    (fits : s.endpoint.timeoutSeconds < 0x10000000000000000) : Arranged (codec.members s) := by
  refine .intro
    [("context_load_policy", ContextLoadPolicy.codec.encode s.contextLoadPolicy),
      ("missing_session_token_policy", MissingTokenPolicy.codec.encode s.missingTokenPolicy)]
    [("authenticator", ExtensionSelection.codec.members s.authenticator),
      ("context_handler", ExtensionSelection.codec.members s.contextHandler),
      ("custom_authenticator", EndpointSettings.codec.members s.endpoint),
      ("extra", (ofTextsByName s.extra).members?.getD [])] ?_ ?_ (by simp)
  · simp only [List.forall_mem_cons]
    exact ⟨plain_text _, plain_text _, by simp⟩
  · simp only [List.forall_mem_cons]
    exact ⟨s.authenticator.arranged, s.contextHandler.arranged, EndpointSettings.arranged fits,
      arranged_textsByName s.extra, by simp⟩

/-- **A document of settings can be written** as a settings file. -/
theorem Settings.arranged {s : Settings}
    (fits : s.security.endpoint.timeoutSeconds < 0x10000000000000000) :
    Arranged (codec.members s) := by
  refine .intro []
    [("security", SecuritySettings.codec.members s.security),
      ("temporary", TemporarySettings.codec.members s.temporary),
      ("logging", LoggingSettings.codec.members s.logging)] (by simp) ?_ (by simp)
  simp only [List.forall_mem_cons]
  exact ⟨SecuritySettings.arranged fits, s.temporary.arranged, s.logging.arranged, by simp⟩

/-- **A file of settings stands for the settings.** -/
theorem Settings.ofText?_toText {s : Settings}
    (fits : s.security.endpoint.timeoutSeconds < 0x10000000000000000) :
    ofText? s.toText = some s := by
  have document := documentOfText?_write (Settings.arranged fits)
  show (documentOfText? (write (codec.members s))).bind (codec.ofTreeWith .settings) = some s
  rw [document]
  exact (Settings.keeps fits).ofTreeWith .settings

end QuerySession
