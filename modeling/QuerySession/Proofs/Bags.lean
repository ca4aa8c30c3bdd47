import Mathlib.Data.List.Induction
import QuerySession.Options.Basic
import QuerySession.Properties

/-!
# The last value counts

Options and connection properties arrive as lists in which a name may come more than once, in any
letter case.  What is looked up afterwards is the value that came last.

## Main Results

* `Properties.find?_ofPairs` — the connection property of a name
* `SessionOptions.find?_applyAll` — the option of a name, and what it falls back on
-/

namespace QuerySession

/-! ### Connection properties -/

namespace Properties

/-- The value that came last for a name, the name being given in lower case. -/
def last? (pairs : List (String × String)) (name : String) : Option String :=
  (pairs.filter fun pair => Text.lowerCase pair.1 = name).getLast?.map Prod.snd

/-- One more pair decides about its own name. -/
theorem last?_concat (pairs : List (String × String)) (pair : String × String) (name : String) :
    last? (pairs ++ [pair]) name =
      if Text.lowerCase pair.1 = name then some pair.2 else last? pairs name := by
  unfold last?
  by_cases same : Text.lowerCase pair.1 = name <;> simp [same]

/-- Pairs are taken one after the other. -/
theorem ofPairs_concat (pairs : List (String × String)) (pair : String × String) :
    ofPairs (pairs ++ [pair]) = (ofPairs pairs).take pair := List.foldl_append ..

/-- A look-up after one pair was taken. -/
theorem find?_take (p : Properties) (pair : String × String) {name : String}
    (known : isRecognised name = true) : (p.take pair).find? name =
      if Text.lowerCase pair.1 = Text.lowerCase name then some pair.2 else p.find? name := by
  unfold take
  split
  · exact p.find?_set pair.1 name pair.2
  · rename_i unknown
    -- Whoever has the same lower-casing as a recognised name is recognised.
    have other : Text.lowerCase pair.1 ≠ Text.lowerCase name := fun same =>
      unknown (by rw [isRecognised, same]; exact known)
    rw [if_neg other]

/-- **The last value of a recognised name counts.** -/
theorem find?_ofPairs (pairs : List (String × String)) {name : String}
    (known : isRecognised name = true) :
    (ofPairs pairs).find? name = last? pairs (Text.lowerCase name) := by
  induction pairs using List.reverseRecOn with
  | nil => rfl
  | append_singleton pairs pair ih => rw [ofPairs_concat, find?_take _ _ known, ih, last?_concat]

end Properties

/-! ### Options -/

namespace SessionOptions

/-- The option that came last for a name, in any letter case. -/
def last? (options : List OptionValue) (name : String) : Option OptionValue :=
  (options.filter fun v => Text.lowerCase v.name = Text.lowerCase name).getLast?

/-- One more option decides about its own name. -/
theorem last?_concat (options : List OptionValue) (v : OptionValue) (name : String) :
    last? (options ++ [v]) name =
      if Text.lowerCase v.name = Text.lowerCase name then some v else last? options name := by
  unfold last?
  by_cases same : Text.lowerCase v.name = Text.lowerCase name <;> simp [same]

/-- **The last option of a name counts**, at the scope of the session; the overlay answers as before
for names that did not come. -/
theorem find?_applyAll (system : SystemOptions) (o : SessionOptions) (options : List OptionValue)
    (name : String) : (o.applyAll options).find? system name =
      ((last? options name).map atSession).or (o.find? system name) := by
  induction options using List.reverseRecOn with
  | nil => rfl
  | append_singleton options v ih =>
    have one : o.applyAll (options ++ [v]) = (o.applyAll options).set v := List.foldl_append ..
    rw [one, find?_set, ih, last?_concat]
    split <;> rfl

end SessionOptions

end QuerySession
