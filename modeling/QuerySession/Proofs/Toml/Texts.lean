import Mathlib.Tactic.SplitIfs
import QuerySession.Toml.Token
import QuerySession.Toml.Writer

/-!
# Texts are read back

A text is read back from any of the four kinds of quotes, with whatever stands behind it left over,
as long as this is no further quote.  Between double quotes it is read a character at a time.  On
several lines this takes some care, since a quote may belong to the text or to its end, which only
shows three quotes later: the text is read back together with the quotes that stand in front of it
(`readLongBasic_written`).

## Main Definitions

* `Toml.Quotes.Holds` — the quotes hold a text, with escapes where necessary

## Main Results

* `Toml.readQuoted?_writeText` — a text is read back
* `Toml.readKeyPart_writeKey`, `Toml.readKey_writePath` — keys are read back
-/

namespace QuerySession.Toml

variable {c : Char} {cs tail text rest : List Char} {steps : Nat}

/-! ## Characters -/

theorem before_some : before c (some (text, rest)) = some (c :: text, rest) := rfl

/-- A code in four digits is read back, if it is that of a control. -/
theorem hexValue?_fourDigits :
    ∀ n < 128, (fourDigits n).length = 4 ∧ hexValue? (fourDigits n) = some n := by decide

/-- A character that has to be escaped is read back behind the backslash. -/
theorem readEscape_code (control : isControl c = true) (tail : List Char) :
    readEscape ('u' :: fourDigits c.toNat ++ tail) = some (c, tail) := by
  have small : c.toNat < 128 := by
    simp only [isControl, Bool.or_eq_true, Bool.and_eq_true, decide_eq_true_eq,
      beq_iff_eq] at control
    omega
  obtain ⟨four, value⟩ := hexValue?_fourDigits c.toNat small
  have char : charOf? c.toNat = some c := by
    rw [charOf?, if_pos (.inl (by omega)), Char.ofNat_toNat]
  show readCode 4 (fourDigits c.toNat ++ tail) = some (c, tail)
  rw [readCode, if_neg (by rw [List.length_append]; omega), List.take_left' four,
    List.drop_left' four, value, Option.bind_eq_bind, Option.bind_some, char]
  rfl

/-- All that is not written as an escape may be read, and so may line ends in long texts. -/
theorem isPlain_of_not_isControl (shown : isControl c = false) :
    isPlain c = true ∨ c = '\n' := by
  simp only [isControl, Bool.or_eq_false_iff, Bool.and_eq_false_iff, decide_eq_false_iff_not,
    bne_eq_false_iff_eq, beq_eq_false_iff_ne] at shown
  simp only [isPlain, Bool.or_eq_true, Bool.and_eq_true, decide_eq_true_eq, bne_iff_ne]
  obtain ⟨(visible | tab) | newline, notLast⟩ := shown
  · exact .inl (.inr ⟨by omega, notLast⟩)
  · exact .inl (.inl tab)
  · exact .inr newline

/-- Between double quotes a character stands for itself or is escaped. -/
theorem escaped_cases (long : Bool) (c : Char) :
    (escaped long c = [c] ∧ c ≠ '\\' ∧ c ≠ '\r' ∧ (isPlain c = true ∨ long = true ∧ c = '\n')) ∨
      ∃ code, escaped long c = '\\' :: code ∧
        ∀ tail, readEscape (code ++ tail) = some (c, tail) := by
  have named {n : Nat} (h : c.toNat = n) : c = Char.ofNat n := by rw [← h, Char.ofNat_toNat]
  unfold escaped
  split_ifs with backspace tab newline long_ feed ret backslash control
  · exact .inr ⟨_, rfl, fun _ => by rw [named backspace]; rfl⟩
  · exact .inr ⟨_, rfl, fun _ => by rw [tab]; rfl⟩
  · rw [newline]
    exact .inl ⟨rfl, by decide, by decide, .inr ⟨long_, rfl⟩⟩
  · exact .inr ⟨_, rfl, fun _ => by rw [newline]; rfl⟩
  · exact .inr ⟨_, rfl, fun _ => by rw [named feed]; rfl⟩
  · exact .inr ⟨_, rfl, fun _ => by rw [ret]; rfl⟩
  · exact .inr ⟨_, rfl, fun _ => by rw [backslash]; rfl⟩
  · exact .inr ⟨_, rfl, readEscape_code control⟩
  · have plain := isPlain_of_not_isControl (eq_false_of_ne_true control)
    exact .inl ⟨rfl, backslash, ret, .inl (plain.resolve_right newline)⟩

/-! ## Texts on one line -/

/-- One character between double quotes. -/
theorem readBasic_escaped (noQuote : c ≠ '"') (steps : Nat) (tail : List Char) :
    readBasic (steps + 1) (escaped false c ++ tail) = before c (readBasic steps tail) := by
  rcases escaped_cases false c with
    ⟨itself, noBackslash, -, plain | ⟨long, -⟩⟩ | ⟨code, escape, read⟩
  · rw [itself, List.singleton_append, readBasic, if_pos plain]
    · exact noQuote
    · exact noBackslash
  · cases long
  · rw [escape, List.cons_append, readBasic, read]
    rfl

/-- What a character other than a quote does to the text behind it. -/
theorem writeEscaped_cons (noQuote : c ≠ '"') (long : Bool) (limit quotes : Nat) :
    writeEscaped long limit quotes (c :: text) =
      escaped long c ++ writeEscaped long limit 0 text := by
  rw [writeEscaped]
  exact noQuote

/-- A text is read back between double quotes. -/
theorem readBasic_written (text rest : List Char) (quotes : Nat) {steps : Nat}
    (enough : text.length < steps) :
    readBasic steps (writeEscaped false 0 quotes text ++ '"' :: rest) = some (text, rest) := by
  induction text generalizing quotes steps with
  | nil =>
    obtain ⟨steps, rfl⟩ := Nat.exists_eq_add_of_lt enough
    rfl
  | cons c text ih =>
    obtain ⟨steps, rfl⟩ : ∃ n, steps = n + 1 := ⟨steps - 1, by omega⟩
    have later : text.length < steps := by simpa using enough
    by_cases quote : c = '"'
    · subst quote
      show readBasic (steps + 1) ('\\' :: '"' :: (writeEscaped false 0 0 text ++ '"' :: rest)) = _
      rw [readBasic]
      show before '"' (readBasic steps (writeEscaped false 0 0 text ++ '"' :: rest)) = _
      rw [ih 0 later, before_some]
    · rw [writeEscaped_cons quote, List.append_assoc, readBasic_escaped quote, ih 0 later,
        before_some]

/-- A text that can stand between single quotes is read back from there. -/
theorem readLiteral_written {text : List Char} (suits : Quotes.literal.suit text = true)
    (rest : List Char) : readLiteral (text ++ '\'' :: rest) = some (text, rest) := by
  induction text with
  | nil => rfl
  | cons c text ih =>
    simp only [Quotes.suit, List.any_cons, Bool.not_or, Bool.and_eq_true, Bool.not_eq_true',
      decide_eq_false_iff_not] at suits
    obtain ⟨⟨⟨shown, noQuote⟩, oneLine⟩, others⟩ := suits
    have plain := (isPlain_of_not_isControl shown).resolve_right oneLine
    have later : Quotes.literal.suit text = true := by
      simp only [Quotes.suit, others, Bool.not_false]
    rw [List.cons_append, readLiteral, if_pos plain, ih later, before_some]
    exact noQuote

/-! ## Texts on several lines -/

/-- Whether the text goes on with something else than a quote. -/
def Apart (quote : Char) (rest : List Char) : Prop := rest.head? ≠ some quote

/-- Up to two quotes in front of something else. -/
theorem closing_replicate {quote : Char} (apart : Apart quote rest) {quotes : Nat}
    (few : quotes ≤ 2) : closing quote (List.replicate quotes quote ++ rest) =
      (List.replicate quotes quote, rest) := by
  obtain rfl | rfl | rfl : quotes = 0 ∨ quotes = 1 ∨ quotes = 2 := by omega
  · rcases rest with _ | ⟨a, _ | ⟨b, rest⟩⟩
    · rfl
    · have other : a ≠ quote := by simpa [Apart] using apart
      simp [closing, other]
    · have other : a ≠ quote := by simpa [Apart] using apart
      simp [closing, other]
  · rcases rest with _ | ⟨a, rest⟩
    · simp [closing]
    · have other : a ≠ quote := by simpa [Apart] using apart
      simp [closing, other]
  · simp [closing]

/-- Quotes at the end of a text might as well be those that stand behind the three. -/
theorem replicate_three {quote : Char} {quotes : Nat} (few : quotes ≤ 2) :
    List.replicate quotes quote ++ quote :: quote :: quote :: rest =
      quote :: quote :: quote :: (List.replicate quotes quote ++ rest) := by
  obtain rfl | rfl | rfl : quotes = 0 ∨ quotes = 1 ∨ quotes = 2 := by omega
  all_goals rfl

/-- Put characters in front of the text that was read. -/
def ahead (front : List Char) : Option (List Char × List Char) → Option (List Char × List Char) :=
  Option.map fun (text, rest) => (front ++ text, rest)

/-- Less than two quotes in front of something else are not two. -/
theorem replicate_ne {quote : Char} (apart : Apart quote tail) {quotes : Nat} (few : quotes ≤ 1)
    (more : List Char) : List.replicate quotes quote ++ tail ≠ quote :: quote :: more := by
  intro two
  obtain rfl | rfl : quotes = 0 ∨ quotes = 1 := by omega
  · exact apart (congrArg List.head? two)
  · exact apart (congrArg List.head? (List.cons.inj two).2)

/-- Up to two quotes that belong to the text are read a character at a time, by whoever reads a
quote so unless two more follow. -/
theorem read_replicate {quote : Char} {f : Nat → List Char → Option (List Char × List Char)}
    (one : ∀ steps tail, (∀ more, tail ≠ quote :: quote :: more) →
      f (steps + 1) (quote :: tail) = before quote (f steps tail))
    (apart : Apart quote tail) {quotes : Nat} (few : quotes ≤ 2) (steps : Nat) :
    f (steps + quotes) (List.replicate quotes quote ++ tail) =
      ahead (List.replicate quotes quote) (f steps tail) := by
  induction quotes with
  | zero =>
    show f steps tail = ahead [] (f steps tail)
    cases f steps tail <;> rfl
  | succ quotes ih =>
    rw [List.replicate_succ, List.cons_append, ← Nat.add_assoc,
      one _ _ (replicate_ne apart (by omega)), ih (by omega)]
    cases f steps tail <;> rfl

/-- A quote that is not the first of three belongs to the text. -/
theorem readLongBasic_quote (steps : Nat) (tail : List Char)
    (notLast : ∀ more, tail ≠ '"' :: '"' :: more) :
    readLongBasic (steps + 1) ('"' :: tail) = before '"' (readLongBasic steps tail) := by
  rw [readLongBasic, if_pos (by decide)]
  · intro more _ three
    exact notLast more three
  · rintro ⟨⟩
  · rintro _ ⟨⟩

/-- One character between tripled double quotes. -/
theorem readLongBasic_escaped (noQuote : c ≠ '"') (steps : Nat) (tail : List Char) :
    readLongBasic (steps + 1) (escaped true c ++ tail) = before c (readLongBasic steps tail) := by
  rcases escaped_cases true c with ⟨itself, noBackslash, noReturn, shown⟩ | ⟨code, escape, read⟩
  · have allowed : (isPlain c || c = '\n') = true := by
      rcases shown with plain | ⟨-, newline⟩
      · rw [plain, Bool.true_or]
      · rw [newline]
        rfl
    rw [itself, List.singleton_append, readLongBasic, if_pos allowed]
    · intro _ quote
      exact absurd quote noQuote
    · exact noBackslash
    · intro _ ret
      exact absurd ret noReturn
  · rw [escape, List.cons_append, readLongBasic, read]

/-- What a character is written as does not begin with a quote, unless it is one. -/
theorem apart_escaped (noQuote : c ≠ '"') (long : Bool) (tail : List Char) :
    Apart '"' (escaped long c ++ tail) := by
  rcases escaped_cases long c with ⟨itself, -⟩ | ⟨code, escape, -⟩
  · rw [itself]
    simpa [Apart] using noQuote
  · rw [escape]
    simp [Apart]

/-- **A text is read back between tripled double quotes**, together with quotes in front of it that
belong to the text as well. -/
theorem readLongBasic_written (text : List Char) {rest : List Char} (apart : Apart '"' rest)
    {quotes : Nat} (few : quotes ≤ 2) {steps : Nat} (enough : quotes + text.length < steps) :
    readLongBasic steps (List.replicate quotes '"' ++ (writeEscaped true 2 quotes text ++
      '"' :: '"' :: '"' :: rest)) = some (List.replicate quotes '"' ++ text, rest) := by
  induction text generalizing quotes steps with
  | nil =>
    obtain ⟨steps, rfl⟩ : ∃ n, steps = n + 1 := ⟨steps - 1, by omega⟩
    show readLongBasic (steps + 1) (List.replicate quotes '"' ++ '"' :: '"' :: '"' :: rest) = _
    rw [replicate_three few, readLongBasic, closing_replicate apart few, List.append_nil]
  | cons c text ih =>
    rw [List.length_cons] at enough
    by_cases quote : c = '"'
    · subst quote
      by_cases full : 2 ≤ quotes
      · -- A third quote is escaped.
        obtain rfl : quotes = 2 := by omega
        obtain ⟨steps, rfl⟩ : ∃ n, steps = n + 1 + 2 := ⟨steps - 3, by omega⟩
        rw [writeEscaped, if_pos full, List.cons_append, List.cons_append,
          read_replicate readLongBasic_quote (by simp [Apart]) few, readLongBasic]
        have later : readLongBasic steps (writeEscaped true 2 0 text ++ '"' :: '"' :: '"' :: rest) =
            some (text, rest) := ih (Nat.zero_le 2) (by omega)
        show ahead _ (before '"' (readLongBasic steps _)) = _
        rw [later]
        rfl
      · have later := ih (show quotes + 1 ≤ 2 by omega)
          (show quotes + 1 + text.length < steps by omega)
        rw [List.replicate_succ', List.append_assoc, List.append_assoc] at later
        rw [writeEscaped, if_neg full]
        exact later
    · obtain ⟨steps, rfl⟩ : ∃ n, steps = n + 1 + quotes := ⟨steps - 1 - quotes, by omega⟩
      have later : readLongBasic steps (writeEscaped true 2 0 text ++ '"' :: '"' :: '"' :: rest) =
          some (text, rest) := ih (Nat.zero_le 2) (by omega)
      rw [writeEscaped_cons quote, List.append_assoc,
        read_replicate readLongBasic_quote (apart_escaped quote true _) few,
        readLongBasic_escaped quote, later]
      rfl

/-! ### Between single quotes -/

theorem le_longestRun (quote : Char) (run : Nat) (text : List Char) :
    run ≤ longestRun quote run text := by
  induction text generalizing run with
  | nil => exact Nat.le_refl run
  | cons c text ih =>
    rw [longestRun]
    split
    · exact Nat.le_trans (Nat.le_succ run) (ih (run + 1))
    · exact Nat.le_max_left ..

/-- A quote that is not the first of three belongs to the text. -/
theorem readLongLiteral_quote (tail : List Char) (notLast : ∀ more, tail ≠ '\'' :: '\'' :: more) :
    readLongLiteral ('\'' :: tail) = before '\'' (readLongLiteral tail) := by
  rw [readLongLiteral, if_pos (by decide)]
  · intro more _ three
    exact notLast more three
  · rintro _ ⟨⟩

/-- **A text is read back between tripled single quotes**, together with quotes in front of it that
belong to the text as well. -/
theorem readLongLiteral_written {text : List Char} (shown : text.any isControl = false)
    {rest : List Char} (apart : Apart '\'' rest) {quotes : Nat}
    (few : longestRun '\'' quotes text ≤ 2) :
    readLongLiteral (List.replicate quotes '\'' ++ (text ++ '\'' :: '\'' :: '\'' :: rest)) =
      some (List.replicate quotes '\'' ++ text, rest) := by
  induction text generalizing quotes with
  | nil =>
    show readLongLiteral (List.replicate quotes '\'' ++ '\'' :: '\'' :: '\'' :: rest) = _
    rw [replicate_three (Nat.le_trans (le_longestRun ..) few), readLongLiteral,
      closing_replicate apart (Nat.le_trans (le_longestRun ..) few), List.append_nil]
  | cons c text ih =>
    rw [List.any_cons, Bool.or_eq_false_iff] at shown
    by_cases quote : c = '\''
    · subst quote
      rw [longestRun, if_pos rfl] at few
      have later := ih shown.2 few
      rw [List.replicate_succ', List.append_assoc, List.append_assoc] at later
      exact later
    · rw [longestRun, if_neg quote, Nat.max_le] at few
      have later : readLongLiteral (text ++ '\'' :: '\'' :: '\'' :: rest) = some (text, rest) :=
        ih shown.2 few.2
      have noReturn : c ≠ '\r' := by
        rintro rfl
        cases shown.1
      have allowed : (isPlain c || c = '\n') = true := by
        simpa using isPlain_of_not_isControl shown.1
      have first : readLongLiteral (c :: (text ++ '\'' :: '\'' :: '\'' :: rest)) =
          some (c :: text, rest) := by
        rw [readLongLiteral, if_pos allowed, later, before_some]
        · intro _ here
          exact absurd here quote
        · intro _ here
          exact absurd here noReturn
      have apart_ : Apart '\'' (c :: (text ++ '\'' :: '\'' :: '\'' :: rest)) := by
        simpa [Apart] using quote
      rw [List.cons_append, read_replicate (f := fun _ => readLongLiteral)
        (fun _ => readLongLiteral_quote) apart_ few.1 0, first]
      rfl

/-! ## Texts in quotes -/

/-- The quotes hold a text: double ones hold any, with escapes, single ones what they show. -/
def Quotes.Holds (text : List Char) (quotes : Quotes) : Prop :=
  quotes = basic ∨ quotes = longBasic ∨ quotes.suit text = true

/-- The quotes that are chosen for a text hold it. -/
theorem Quotes.holds_choose (text : List Char) : (choose text).Holds text := by
  unfold choose
  split
  · rename_i quotes found
    exact .inr (.inr (List.find?_some found))
  · split
    · exact .inr (.inl rfl)
    · exact .inl rfl

/-- Whether no quote follows. -/
def Unquoted (rest : List Char) : Prop := Apart '"' rest ∧ Apart '\'' rest

theorem length_le_writeEscaped (long : Bool) (limit quotes : Nat) (text : List Char) :
    text.length ≤ (writeEscaped long limit quotes text).length := by
  induction text generalizing quotes with
  | nil => exact Nat.le_refl 0
  | cons c text ih =>
    by_cases quote : c = '"'
    · subst quote
      have later := ih 0
      have later' := ih (quotes + 1)
      rw [writeEscaped]
      split <;> simp only [List.length_cons] <;> omega
    · have one : 1 ≤ (escaped long c).length := by
        rcases escaped_cases long c with ⟨itself, -⟩ | ⟨code, escape, -⟩
        · rw [itself]
          exact Nat.le_refl 1
        · rw [escape]
          exact Nat.le_add_left ..
      have later := ih 0
      rw [writeEscaped_cons quote, List.length_append, List.length_cons]
      omega

/-- There are steps enough to read what is written between double quotes. -/
theorem length_lt_writeEscaped (long : Bool) (limit : Nat) (text behind : List Char) :
    text.length < (writeEscaped long limit 0 text ++ behind).length + 1 := by
  have written := length_le_writeEscaped long limit 0 text
  rw [List.length_append]
  omega

/-- Behind an opening quote, a text and its closing quote are no two more. -/
theorem written_ne {quote : Char} (first : Apart quote text) (apart : Apart quote rest)
    (more : List Char) : text ++ quote :: rest ≠ quote :: quote :: more := by
  intro two
  rcases text with _ | ⟨c, text⟩
  · exact apart (congrArg List.head? (List.cons.inj two).2)
  · exact first (congrArg some (List.cons.inj two).1)

/-- What is written between double quotes does not begin with a quote. -/
theorem apart_writeEscaped (text : List Char) : Apart '"' (writeEscaped false 0 0 text) := by
  rcases text with _ | ⟨c, text⟩
  · rintro ⟨⟩
  · by_cases quote : c = '"'
    · subst quote
      rintro ⟨⟩
    · rw [writeEscaped_cons quote]
      exact apart_escaped quote false _

/-- A text that can stand between single quotes does not begin with one. -/
theorem apart_of_suit (suits : Quotes.literal.suit text = true) : Apart '\'' text := by
  rcases text with _ | ⟨c, text⟩
  · rintro ⟨⟩
  · rintro ⟨⟩
    cases suits

/-- **A text is read back from quotes that hold it.** -/
theorem readQuoted?_write {quotes : Quotes} (holds : quotes.Holds text) (apart : Unquoted rest) :
    readQuoted? (quotes.write text ++ rest) = some (some (text, rest)) := by
  rcases quotes with _ | _ | _ | _
  · rw [Quotes.write, List.append_assoc, List.cons_append, List.singleton_append, readQuoted?,
      readBasic_written text rest 0 (length_lt_writeEscaped ..)]
    exact written_ne (apart_writeEscaped text) apart.1
  · have suits : Quotes.literal.suit text = true := by simpa [Quotes.Holds] using holds
    rw [Quotes.write, List.append_assoc, List.cons_append, List.singleton_append, readQuoted?,
      readLiteral_written suits]
    exact written_ne (apart_of_suit suits) apart.2
  · have long : Quotes.longBasic.write text ++ rest = '"' :: '"' :: '"' :: '\n' ::
        (writeEscaped true 2 0 text ++ '"' :: '"' :: '"' :: rest) := by simp [Quotes.write]
    rw [long, readQuoted?]
    refine congrArg some (readLongBasic_written text apart.1 (Nat.zero_le 2) ?_)
    rw [Nat.zero_add]
    exact Nat.lt_succ_of_lt (length_lt_writeEscaped ..)
  · have suits : Quotes.longLiteral.suit text = true := by simpa [Quotes.Holds] using holds
    simp only [Quotes.suit, Bool.and_eq_true, Bool.not_eq_true', decide_eq_true_eq] at suits
    have long : Quotes.longLiteral.write text ++ rest = '\'' :: '\'' :: '\'' :: '\n' ::
        (text ++ '\'' :: '\'' :: '\'' :: rest) := by simp [Quotes.write]
    rw [long, readQuoted?]
    exact congrArg some (readLongLiteral_written suits.1 apart.2 suits.2)

/-- **A text is read back.** -/
theorem readQuoted?_writeText (s : String) (apart : Unquoted rest) :
    readQuoted? ((writeText s).toList ++ rest) = some (some (s.toList, rest)) := by
  rw [writeText, String.toList_ofList]
  exact readQuoted?_write (Quotes.holds_choose s.toList) apart

/-- A text begins with a quote. -/
theorem writeText_head (s : String) (rest : List Char) : ∃ quote more,
    (writeText s).toList ++ rest = quote :: more ∧ (quote = '"' ∨ quote = '\'') := by
  rw [writeText, String.toList_ofList]
  cases Quotes.choose s.toList with
  | basic => exact ⟨'"', _, rfl, .inl rfl⟩
  | literal => exact ⟨'\'', _, rfl, .inr rfl⟩
  | longBasic => exact ⟨'"', _, rfl, .inl rfl⟩
  | longLiteral => exact ⟨'\'', _, rfl, .inr rfl⟩

/-! ## Keys -/

/-- Whether no part of a key without quotes goes on. -/
def Ended (rest : List Char) : Prop := ∀ c, rest.head? = some c → isBare c = false

/-- A key is written bare, or in quotes on one line that hold it. -/
theorem writeKey_cases (name : String) :
    (name.toList ≠ [] ∧ (∀ c ∈ name.toList, isBare c = true) ∧ writeKey name = name) ∨
      ∃ quotes : Quotes, (quotes = .basic ∨ quotes = .literal) ∧ quotes.Holds name.toList ∧
        (writeKey name).toList = quotes.write name.toList := by
  simp only [writeKey]
  split
  · rename_i bare
    exact .inl ⟨bare.1, List.all_eq_true.mp bare.2, rfl⟩
  · refine .inr ?_
    split
    · exact ⟨.basic, .inl rfl, .inl rfl, String.toList_ofList⟩
    · split
      · rename_i suits
        exact ⟨.literal, .inr rfl, .inr (.inr suits), String.toList_ofList⟩
      · exact ⟨.basic, .inl rfl, .inl rfl, String.toList_ofList⟩

/-- A key without quotes ends where it has to. -/
theorem takeWhile_isBare {name : List Char} (bare : ∀ c ∈ name, isBare c = true)
    (ended : Ended rest) :
    (name ++ rest).takeWhile isBare = name ∧ (name ++ rest).dropWhile isBare = rest := by
  have nothing : rest.takeWhile isBare = [] ∧ rest.dropWhile isBare = rest := by
    rcases rest with _ | ⟨c, rest⟩
    · exact ⟨rfl, rfl⟩
    · have last := ended c rfl
      rw [List.takeWhile_cons, List.dropWhile_cons, last]
      exact ⟨rfl, rfl⟩
  rw [List.takeWhile_append_of_pos bare, List.dropWhile_append_of_pos bare, nothing.1, nothing.2,
    List.append_nil]
  exact ⟨rfl, rfl⟩

/-- **A part of a key is read back.** -/
theorem readKeyPart_writeKey (name : String) (ended : Ended rest) :
    readKeyPart ((writeKey name).toList ++ rest) = some (name, rest) := by
  rcases writeKey_cases name with ⟨some_, bare, written⟩ | ⟨quotes, rfl | rfl, holds, written⟩
  · obtain ⟨taken, left⟩ := takeWhile_isBare bare ended
    rw [written]
    rcases chars : name.toList with _ | ⟨c, more⟩
    · exact absurd chars some_
    · rw [chars] at bare taken left
      have first := bare c List.mem_cons_self
      rw [List.cons_append] at taken left ⊢
      rw [readKeyPart, taken, left]
      · show some (String.ofList (c :: more), rest) = some (name, rest)
        rw [← chars, String.ofList_toList]
      · intro _ quote
        rw [(List.cons.inj quote).1] at first
        cases first
      · intro _ quote
        rw [(List.cons.inj quote).1] at first
        cases first
  · rw [written, Quotes.write, List.append_assoc, List.cons_append, List.singleton_append,
      readKeyPart, readBasic_written name.toList rest 0 (length_lt_writeEscaped ..)]
    exact congrArg (fun s => some (s, rest)) String.ofList_toList
  · have suits : Quotes.literal.suit name.toList = true := by simpa [Quotes.Holds] using holds
    rw [written, Quotes.write, List.append_assoc, List.cons_append, List.singleton_append,
      readKeyPart, readLiteral_written suits]
    exact congrArg (fun s => some (s, rest)) String.ofList_toList

/-- How keys and words begin: with a letter, a digit, a low line, a dash or a quote. -/
def Opens (c : Char) : Prop := isBare c = true ∨ c = '"' ∨ c = '\''

theorem Opens.ne (opens : Opens c) (other : Char)
    (closed : isBare other = false ∧ other ≠ '"' ∧ other ≠ '\'') : c ≠ other := by
  rintro rfl
  rcases opens with bare | quote | quote
  · rw [bare] at closed
    cases closed.1
  · exact closed.2.1 quote
  · exact closed.2.2 quote

theorem writeKey_head (name : String) (rest : List Char) : ∃ c more,
    (writeKey name).toList ++ rest = c :: more ∧ Opens c := by
  rcases writeKey_cases name with ⟨some_, bare, written⟩ | ⟨quotes, rfl | rfl, -, written⟩
  · rw [written]
    rcases chars : name.toList with _ | ⟨c, more⟩
    · exact absurd chars some_
    · rw [chars] at bare
      exact ⟨c, more ++ rest, rfl, .inl (bare c List.mem_cons_self)⟩
  · rw [written]
    exact ⟨'"', _, rfl, .inr (.inl rfl)⟩
  · rw [written]
    exact ⟨'\'', _, rfl, .inr (.inr rfl)⟩

/-- There is no space in front of a key. -/
theorem skipBlank_writeKey (name : String) (rest : List Char) :
    skipBlank ((writeKey name).toList ++ rest) = (writeKey name).toList ++ rest := by
  obtain ⟨c, more, written, opens⟩ := writeKey_head name rest
  have blank : isBlank c = false := by
    simp [isBlank, opens.ne ' ' (by decide), opens.ne '\t' (by decide)]
  rw [written, skipBlank, List.dropWhile_cons, blank]
  rfl

/-- **A key without dots is read back**, with the space behind it. -/
theorem readKey_writeKey (name : String) (ended : Ended rest) (last : Apart '.' (skipBlank rest))
    (steps : Nat) : readKey (steps + 1) ((writeKey name).toList ++ rest) =
      some (([], name), skipBlank rest) := by
  rw [readKey, skipBlank_writeKey, readKeyPart_writeKey name ended, Option.bind_eq_bind,
    Option.bind_some]
  dsimp only
  split
  · rename_i dot
    rw [dot] at last
    exact absurd rfl last
  · rfl

/-- A path of one name is a key. -/
theorem writePath_singleton (name : String) : writePath [name] = writeKey name := by
  simp [writePath]

/-- There is always a name. -/
theorem exists_cons (path : List String) (name : String) :
    ∃ next more, path ++ [name] = next :: more := by
  cases path with
  | nil => exact ⟨_, _, rfl⟩
  | cons next more => exact ⟨_, _, rfl⟩

/-- A dotted path is written a key at a time. -/
theorem writePath_cons (name next : String) (path : List String) :
    (writePath (name :: next :: path)).toList =
      (writeKey name).toList ++ '.' :: (writePath (next :: path)).toList := by
  simp [writePath, String.intercalate_cons_cons]

/-- A path begins like a key. -/
theorem writePath_head (path : List String) (name : String) (rest : List Char) : ∃ c more,
    (writePath (path ++ [name])).toList ++ rest = c :: more ∧ Opens c := by
  rcases path with _ | ⟨first, path⟩
  · rw [List.nil_append, writePath_singleton]
    exact writeKey_head name rest
  · obtain ⟨next, more, behind⟩ := exists_cons path name
    rw [List.cons_append, behind, writePath_cons, List.append_assoc]
    exact writeKey_head first _

/-- **A dotted key is read back**, with the space behind it. -/
theorem readKey_writePath (path : List String) (name : String) (ended : Ended rest)
    (last : Apart '.' (skipBlank rest)) {steps : Nat} (enough : path.length < steps) :
    readKey steps ((writePath (path ++ [name])).toList ++ rest) =
      some ((path, name), skipBlank rest) := by
  obtain ⟨steps, rfl⟩ : ∃ n, steps = n + 1 := ⟨steps - 1, by omega⟩
  induction path generalizing steps with
  | nil =>
    rw [List.nil_append, writePath_singleton]
    exact readKey_writeKey name ended last steps
  | cons first path ih =>
    obtain ⟨steps, rfl⟩ : ∃ n, steps = n + 1 :=
      ⟨steps - 1, by rw [List.length_cons] at enough; omega⟩
    obtain ⟨next, more, behind⟩ := exists_cons path name
    have later := ih steps (Nat.lt_of_succ_lt_succ enough)
    have dot : Ended ('.' :: ((writePath (path ++ [name])).toList ++ rest)) := by
      rintro _ ⟨⟩
      rfl
    have whole : (writePath (first :: path ++ [name])).toList ++ rest =
        (writeKey first).toList ++ '.' :: ((writePath (path ++ [name])).toList ++ rest) := by
      rw [List.cons_append, behind, writePath_cons, List.append_assoc, List.cons_append]
    rw [whole, readKey, skipBlank_writeKey, readKeyPart_writeKey first dot]
    show (readKey (steps + 1) ((writePath (path ++ [name])).toList ++ rest)).bind
      (fun x => some ((first :: x.1.1, x.1.2), x.2)) = _
    rw [later]
    rfl

end QuerySession.Toml
