import QuerySession.Proofs.SideBySide

/-!
# Sessions that differ in the password

Two clients send the same, except for their passwords.  The password is kept among the properties of
the session, and nothing that can be asked of the session depends on it, unless the property is
looked at by its name.

The two sessions are the same but for the value of one property (`Session.Alike`), and every
operation keeps it so.  The property is there for both or for neither, which is why not even the
number of properties tells.

## Main Definitions

* `SameBut` — pairs that differ in the values of secret names only
* `Properties.Alike`, `Session.Alike` — what differs in the password only

## Main Results

* `Session.look_alike` — the same is seen of sessions that differ in the password only
* `Session.serve_alike` — they answer the same, and still differ in the password only
* `Session.converse_alike` — so do they for any number of inquiries
-/

namespace QuerySession

/-! ## Pairs that differ in secrets -/

/-- Two lists of pairs with the same names, and the same values wherever the name is not secret. -/
def SameBut (secret : String → Prop) : List (String × String) → List (String × String) → Prop :=
  List.Forall₂ fun e e' => e.1 = e'.1 ∧ (¬ secret e.1 → e.2 = e'.2)

namespace SameBut

variable {secret : String → Prop} {l l' : List (String × String)} {k v v' : String}

/-- The value of a name that is not secret is the same. -/
theorem findIn (same : SameBut secret l l') (open_ : ¬ secret k) :
    Keyed.findIn k l = Keyed.findIn k l' := by
  induction same with
  | nil => rfl
  | cons first rest ih =>
    obtain ⟨name, value⟩ := first
    rw [Keyed.findIn, Keyed.findIn, ← name, ih]
    split
    · rename_i here
      rw [value (here ▸ open_)]
    · rfl

/-- Two lists stay the same when a value is written, which may be another one if the name is
secret. -/
theorem putIn (same : SameBut secret l l') (value : ¬ secret k → v = v') :
    SameBut secret (Keyed.putIn k v l) (Keyed.putIn k v' l') := by
  induction same with
  | nil => exact .cons ⟨rfl, value⟩ .nil
  | cons first rest ih =>
    rw [Keyed.putIn, Keyed.putIn, ← first.1]
    split
    · exact .cons ⟨rfl, value⟩ rest
    · exact .cons ⟨rfl, first.2⟩ ih

/-- What is left when the secrets are taken out is the same. -/
theorem filter_eq {p : String → Bool} (same : SameBut secret l l')
    (hides : ∀ name, p name = true → ¬ secret name) :
    (l.filter fun e => p e.1) = l'.filter fun e => p e.1 := by
  induction same with
  | nil => rfl
  | @cons e e' _ _ first rest ih =>
    obtain ⟨name, value⟩ := first
    rw [List.filter_cons, List.filter_cons, ← name, ih]
    split
    · rename_i shown
      rw [Prod.ext name (value (hides _ shown))]
    · rfl

end SameBut

/-! ## Properties -/

namespace Properties

variable {p p' : Properties} {name : String}

/-- A name of the password. -/
def IsPassword (name : String) : Prop := Text.lowerCase name = password

instance (name : String) : Decidable (IsPassword name) :=
  inferInstanceAs (Decidable (Text.lowerCase name = password))

/-- Two sets of properties that differ in the password only. -/
def Alike (p p' : Properties) : Prop := SameBut (· = password) p.values.entries p'.values.entries

/-- Properties other than the password are the same. -/
theorem Alike.find? (alike : p.Alike p') (other : ¬ IsPassword name) :
    p.find? name = p'.find? name := SameBut.findIn alike other

theorem Alike.findD (alike : p.Alike p') (other : ¬ IsPassword name) :
    p.findD name = p'.findD name := congrArg (·.getD "") (alike.find? other)

theorem Alike.set (alike : p.Alike p') {value value' : String}
    (same : ¬ IsPassword name → value = value') : (p.set name value).Alike (p'.set name value') :=
  SameBut.putIn alike same

/-- There are as many properties in both. -/
theorem Alike.size (alike : p.Alike p') : p.size = p'.size := List.Forall₂.length_eq alike

/-- The same properties are shown. -/
theorem Alike.snapshot (alike : p.Alike p') : p.snapshot = p'.snapshot := by
  have shown : p.snapshot.entries = p'.snapshot.entries :=
    SameBut.filter_eq (p := fun name => decide (name ≠ password)) alike fun _ => of_decide_eq_true
  rcases left : p.snapshot with ⟨entries, _⟩
  rcases right : p'.snapshot with ⟨entries', _⟩
  rw [left, right] at shown
  obtain rfl : entries = entries' := shown
  rfl

variable {σ : Type} {t : Tolerance σ} {pairs pairs' : List (String × String)}

theorem Alike.take (alike : p.Alike p') {e e' : String × String} (name : e.1 = e'.1)
    (value : ¬ IsPassword e.1 → e.2 = e'.2) : (p.take e).Alike (p'.take e') := by
  unfold Properties.take
  rw [← name]
  split
  · exact alike.set value
  · exact alike

/-- Clients that differ in the password have properties that do. -/
theorem ofPairs_alike (same : SameBut IsPassword pairs pairs') :
    (ofPairs pairs).Alike (ofPairs pairs') := by
  have more (p p' : Properties) (alike : p.Alike p') :
      (pairs.foldl take p).Alike (pairs'.foldl take p') := by
    induction same generalizing p p' with
    | nil => exact alike
    | cons first _ ih => exact ih _ _ (alike.take first.1 first.2)
  exact more empty empty .nil

/-- The same names are unknown. -/
theorem unrecognised_eq (same : SameBut IsPassword pairs pairs') :
    unrecognised pairs = unrecognised pairs' := by
  have unknown : (pairs.filter fun e => !isRecognised e.1) =
      pairs'.filter fun e => !isRecognised e.1 := by
    refine same.filter_eq (p := fun name => !isRecognised name) fun name dropped secret => ?_
    rw [isRecognised, secret] at dropped
    cases dropped
  unfold unrecognised
  rw [unknown]

theorem read_alike (same : SameBut IsPassword pairs pairs') :
    Action.Alike t Alike (read pairs) (read pairs') := by
  unfold read
  rw [unrecognised_eq same]
  apply (Action.Alike.forM (fun _ => .emit _ _ _) _).bind_same
  intro _
  exact .pure (ofPairs_alike same)

end Properties

/-! ## Sessions -/

namespace Session

variable {σ : Type} {t : Tolerance σ} {s s' : Session}

/-- Two sessions that differ in the password only. -/
def Alike (s s' : Session) : Prop :=
  ∃ p, s.properties.Alike p ∧ s' = { s with properties := p }

/-- The same answer, and two sessions that differ in the password only. -/
def AlikeWith {α : Type} (x y : α × Session) : Prop := x.1 = y.1 ∧ x.2.Alike y.2

/-- The default schema is a property of its own. -/
theorem Alike.defaultSchemaPath (alike : s.Alike s') :
    s.defaultSchemaPath = s'.defaultSchemaPath := by
  obtain ⟨p, properties, rfl⟩ := alike
  exact properties.findD (by decide)

theorem Alike.target? (alike : s.Alike s') : s.target? = s'.target? := by
  obtain ⟨p, properties, rfl⟩ := alike
  exact properties.find? (by decide)

/-- The description leaves the password out. -/
theorem Alike.describe (alike : s.Alike s') : s.describe = s'.describe := by
  obtain ⟨p, properties, rfl⟩ := alike
  unfold Session.describe
  rw [properties.snapshot]

/-! ### Looking -/

/-- Whoever looks does not look at the password by its name. -/
def Look.Discreet : Look → Prop
  | .property name => ¬ Properties.IsPassword name
  | _ => True

/-- **The same is seen** of two sessions that differ in the password only. -/
theorem look_alike (alike : s.Alike s') {l : Look} (discreet : l.Discreet) :
    s.look l = s'.look l := by
  have schema := alike.defaultSchemaPath
  have target := alike.target?
  have described := alike.describe
  obtain ⟨p, properties, rfl⟩ := alike
  cases l with
  | property name => exact congrArg Reply.text (properties.find? discreet)
  | properties => exact congrArg Reply.texts properties.snapshot
  | target => exact congrArg Reply.text target
  | defaultSchemaPath => exact congrArg (Reply.text ∘ some) schema
  | defaultSchema root =>
    unfold look defaultSchema?
    rw [schema]
  | description => exact congrArg (Reply.text ∘ some) described
  | _ => rfl

/-! ### Calling -/

variable {outside : Services σ}

theorem replaceCredentials_alike (alike : s.Alike s') (authority : AuthorityId)
    (credentials : Credentials) :
    Action.Alike t AlikeWith (s.replaceCredentials authority credentials)
      (s'.replaceCredentials authority credentials) := by
  obtain ⟨p, properties, rfl⟩ := alike
  unfold replaceCredentials
  split
  · exact ((Action.Alike.emit _ _ _).within _).bind_same fun _ => .pure ⟨rfl, p, properties, rfl⟩
  · split <;> exact .pure ⟨rfl, p, properties, rfl⟩

theorem actForTarget_alike (alike : s.Alike s') (authority : Authority) :
    Action.Alike t AlikeWith (s.actForTarget authority) (s'.actForTarget authority) := by
  have target := alike.target?
  have replaced := replaceCredentials_alike (t := t) alike authority.id ⟨s'.target?.getD ""⟩
  obtain ⟨p, properties, rfl⟩ := alike
  simp only [actForTarget, target]
  split
  · exact .pure ⟨rfl, p, properties, rfl⟩
  · split
    · exact .pure ⟨rfl, p, properties, rfl⟩
    · apply replaced.bind
      rintro ⟨result, left⟩ ⟨_, left'⟩ ⟨rfl, p, properties, rfl⟩
      rcases result with e | _
      · exact .pure ⟨rfl, p, properties, rfl⟩
      · exact (Action.Alike.emit _ _ _).bind_same fun _ => .pure ⟨rfl, p, properties, rfl⟩

theorem setDefaultSchema_alike (alike : s.Alike s') (path : String) (current : SchemaNode) :
    Action.Alike t AlikeWith (s.setDefaultSchema path current)
      (s'.setDefaultSchema path current) := by
  obtain ⟨p, properties, rfl⟩ := alike
  unfold setDefaultSchema
  split
  · exact .pure ⟨rfl, p, properties, rfl⟩
  · apply ((Action.Alike.emit _ _ _).within _).bind_same
    intro _
    exact .pure ⟨rfl, _, properties.set fun _ => rfl, rfl⟩

theorem submit_alike (alike : s.Alike s') (queryId : String) :
    Action.Alike t Alike (s.submit queryId) (s'.submit queryId) := by
  obtain ⟨p, properties, rfl⟩ := alike
  exact (Action.Alike.emit _ _ _).bind_same fun _ => .pure ⟨p, properties, rfl⟩

theorem registerTable_alike (respect : outside.Respect t) (alike : s.Alike s') (w : Workspace)
    (name token : String) :
    Action.Alike t AlikeWith (s.registerTable outside.storages w name token)
      (s'.registerTable outside.storages w name token) := by
  obtain ⟨p, properties, rfl⟩ := alike
  unfold registerTable
  apply (Locations.ensure_alike respect s.locations w).bind_same
  rintro ⟨e | path, locations⟩
  · exact .pure ⟨rfl, p, properties, rfl⟩
  · exact ((Action.Alike.emit _ _ _).within _).bind_same fun _ => .pure ⟨rfl, p, properties, rfl⟩

theorem isTemporaryTable_alike (respect : outside.Respect t) (alike : s.Alike s') (w : Workspace)
    (settings : TemporarySettings) (name : String) :
    Attempt.Alike t Eq (s.isTemporaryTable outside.workspaces w settings name)
      (s'.isTemporaryTable outside.workspaces w settings name) := by
  obtain ⟨p, properties, rfl⟩ := alike
  simp only [isTemporaryTable]
  split
  · exact .pure rfl
  · split
    · exact .pure rfl
    · exact ((respect.kindOf _ _).within _).bind_same fun _ => .pure rfl

theorem removeTable_alike (respect : outside.Respect t) (alike : s.Alike s') (w : Workspace)
    (name : String) : Action.Alike t AlikeWith (s.removeTable outside.workspaces w name)
      (s'.removeTable outside.workspaces w name) := by
  obtain ⟨p, properties, rfl⟩ := alike
  simp only [removeTable]
  split
  · exact .pure ⟨rfl, p, properties, rfl⟩
  · apply ((respect.drop _ _).outcome.within _).bind_same
    rintro (e | _)
    · exact .pure ⟨rfl, p, properties, rfl⟩
    · exact ((Action.Alike.emit _ _ _).within _).bind_same fun _ => .pure ⟨rfl, p, properties, rfl⟩

theorem close_alike (respect : outside.Respect t) (alike : s.Alike s') :
    Action.Alike t Alike (s.close outside.storages) (s'.close outside.storages) := by
  obtain ⟨p, properties, rfl⟩ := alike
  unfold close
  apply (Locations.cleanup_alike respect s.locations).bind_same
  intro _
  exact ((Action.Alike.emit _ _ _).within _).bind_same fun _ => .pure ⟨p, properties, rfl⟩

/-- Nothing is told when a session is let go. -/
theorem abandon_alike (alike : s.Alike s') : Action.Alike t Eq s.abandon s'.abandon := by
  obtain ⟨p, properties, rfl⟩ := alike
  unfold abandon
  split
  · exact .pure rfl
  · exact (Action.Alike.emit _ _ _).within _

/-- Changes of the outside between two calls keep what goes for the same. -/
def Call.Keeps (t : Tolerance σ) : Call σ → Prop
  | .outside change => ∀ a b, t.outside a b → t.outside (change a) (change b)
  | _ => True

/-- **The same is answered** by two sessions that differ in the password only, and afterwards they
still do. -/
theorem serve_alike (respect : outside.Respect t) (alike : s.Alike s') {call : Call σ}
    (keeps : call.Keeps t) :
    Action.Alike t AlikeWith (s.serve outside.storages outside.workspaces call)
      (s'.serve outside.storages outside.workspaces call) := by
  -- What an operation answers and leaves becomes the reply, with the session as it is left.
  have replying {α : Type} {x y : Action σ (α × Session)} (given : α → Reply)
      (h : Action.Alike t AlikeWith x y) : Action.Alike t AlikeWith
        (do let (a, s) ← x; pure (given a, s)) (do let (a, s) ← y; pure (given a, s)) := by
    apply h.bind
    rintro ⟨a, _⟩ ⟨_, _⟩ ⟨rfl, left⟩
    exact .pure ⟨rfl, left⟩
  cases call with
  | actForTarget authority => exact replying _ (actForTarget_alike alike authority)
  | replaceCredentials authority credentials =>
    exact replying _ (replaceCredentials_alike alike authority.id credentials)
  | setDefaultSchema path current => exact replying _ (setDefaultSchema_alike alike path current)
  | registerTable w name token => exact replying _ (registerTable_alike respect alike w name token)
  | removeTable w name => exact replying _ (removeTable_alike respect alike w name)
  | isTemporaryTable w settings name =>
    refine Action.Alike.bind (isTemporaryTable_alike respect alike w settings name) ?_
    intro result _ same
    obtain rfl := same.eq
    exact .pure ⟨rfl, alike⟩
  | close => exact (close_alike respect alike).bind fun _ _ left => .pure ⟨rfl, left⟩
  | setOption v =>
    obtain ⟨p, properties, rfl⟩ := alike
    exact .pure ⟨rfl, p, properties, rfl⟩
  | applyOptions vs =>
    obtain ⟨p, properties, rfl⟩ := alike
    exact .pure ⟨rfl, p, properties, rfl⟩
  | submit queryId => exact (submit_alike alike queryId).bind fun _ _ left => .pure ⟨rfl, left⟩
  | outside change => exact .consult keeps ⟨rfl, alike⟩

/-! ### Visits -/

/-- Nobody looks at the password by its name. -/
def Inquiry.Discreet : Inquiry σ → Prop
  | .call _ => True
  | .look l => l.Discreet

/-- Changes of the outside keep what goes for the same. -/
def Inquiry.Keeps (t : Tolerance σ) : Inquiry σ → Prop
  | .call c => c.Keeps t
  | .look _ => True

/-- Whatever changes, it keeps the same the same. -/
theorem Inquiry.keeps_none (i : Inquiry σ) : i.Keeps .none := by
  rcases i with call | _
  · cases call with
    | outside change => exact fun _ _ same => congrArg change same
    | _ => exact trivial
  · exact trivial

theorem inquire_alike (respect : outside.Respect t) (alike : s.Alike s') {i : Inquiry σ}
    (discreet : i.Discreet) (keeps : i.Keeps t) :
    Action.Alike t AlikeWith (s.inquire outside.storages outside.workspaces i)
      (s'.inquire outside.storages outside.workspaces i) := by
  rcases i with call | l
  · exact serve_alike respect alike keeps
  · exact .pure ⟨look_alike alike discreet, alike⟩

/-- Any number of inquiries are answered in the same way. -/
theorem converse_alike (respect : outside.Respect t) (alike : s.Alike s')
    {inquiries : List (Inquiry σ)} (discreet : ∀ i ∈ inquiries, i.Discreet)
    (keeps : ∀ i ∈ inquiries, i.Keeps t) :
    Action.Alike t AlikeWith (s.converse outside.storages outside.workspaces inquiries)
      (s'.converse outside.storages outside.workspaces inquiries) := by
  induction inquiries generalizing s s' with
  | nil => exact .pure ⟨rfl, alike⟩
  | cons i rest ih =>
    rw [List.forall_mem_cons] at discreet keeps
    apply (inquire_alike respect alike discreet.1 keeps.1).bind
    rintro ⟨reply, _⟩ ⟨_, _⟩ ⟨rfl, left⟩
    apply (ih left discreet.2 keeps.2).bind
    rintro ⟨replies, _⟩ ⟨_, _⟩ ⟨rfl, later⟩
    exact .pure ⟨rfl, later⟩

end Session

end QuerySession
