import QuerySession.Proofs.Settings.Form
import QuerySession.Proofs.Storage.Files
import QuerySession.Settings.File

/-!
# Settings are kept by their files

Settings that are saved to a file are loaded from it again, whatever stands in their texts, if they
can be used; if they cannot be, it is the settings that are at fault and not the file.

## Main Results

* `Settings.load_of_save` — what is loaded from a file that settings were saved to
* `Settings.saved_settings_load` — settings are kept by their files
-/

namespace QuerySession

/-! ## Texts as bytes -/

theorem toList_loop_eq (bytes : ByteArray) (i : Nat) (before : List UInt8) :
    ByteArray.toList.loop bytes i before = before.reverse ++ bytes.data.toList.drop i := by
  induction i, before using ByteArray.toList.loop.induct bytes with
  | case1 i before inside ih =>
    have next : i < bytes.data.toList.length := by simpa using inside
    rw [ByteArray.toList.loop, if_pos inside, ih, List.drop_eq_getElem_cons next]
    simp [ByteArray.get!, inside]
  | case2 i before outside =>
    rw [ByteArray.toList.loop, if_neg outside, List.drop_eq_nil_of_le (by simpa using outside),
      List.append_nil]

/-- The text that some bytes stand for is the one whose bytes they are. -/
theorem fromUTF8?_toUTF8 (s : String) : String.fromUTF8? ⟨s.toUTF8.toList.toArray⟩ = some s := by
  have same : (⟨s.toUTF8.toList.toArray⟩ : ByteArray) = s.toUTF8 := by
    rw [ByteArray.toList, toList_loop_eq]
    rfl
  rw [same]
  exact dif_pos s.isValidUTF8

namespace Settings

variable {s : Settings} {d d' : Disk} {names : List String}

/-! ## Saving and loading -/

/-- Settings are saved wherever a file can be written. -/
theorem save_of_writable (writable : d.Writable names) (s : Settings) :
    ∃ d', s.save d names = .ok d' := by
  obtain ⟨d', stored⟩ := writable.store s.toText.toUTF8.toList
  exact ⟨d', by rw [save, stored]⟩

/-- What is saved is the text of the settings. -/
theorem readText_of_save (saved : s.save d names = .ok d') : readText d' names = .ok s.toText := by
  unfold save at saved
  split at saved
  · rename_i stored
    cases saved
    rw [readText, Disk.contents_of_store stored]
    simp only [fromUTF8?_toUTF8]
  · cases saved

/-- What is loaded are the settings that were saved, once they have been validated. -/
theorem load_of_save (fits : s.security.endpoint.timeoutSeconds < 0x10000000000000000)
    (saved : s.save d names = .ok d') : load d' names = s.validate.map fun _ => s := by
  simp only [load, readText_of_save saved, ofText, ofText?_toText fits]
  cases s.validate <;> rfl

/-- Settings that cannot be used are refused as settings. -/
theorem validate_reason {e : Error} (refused : s.validate = .error e) :
    ∃ message, e.reason? = some (.settings message) := by
  unfold validate at refused
  split at refused
  · cases refused
    exact ⟨_, rfl⟩
  · split at refused
    · cases refused
      exact ⟨_, rfl⟩
    · cases refused

/-- **Settings are kept by their files.**  Wherever a file can be written settings can be saved.
They are loaded from this file as they are if they can be used, and refused as settings if not. -/
theorem saved_settings_load (fits : s.security.endpoint.timeoutSeconds < 0x10000000000000000)
    (writable : d.Writable names) : ∃ d', s.save d names = .ok d' ∧
      (s.validate = .ok () → load d' names = .ok s) ∧
      (s.validate ≠ .ok () →
        ∃ e message, load d' names = .error e ∧ e.reason? = some (.settings message)) := by
  obtain ⟨d', saved⟩ := save_of_writable writable s
  have loaded := load_of_save fits saved
  refine ⟨d', saved, fun usable => ?_, fun unusable => ?_⟩
  · rw [loaded, usable]
    rfl
  · cases checked : s.validate with
    | ok _ => exact absurd checked unusable
    | error e =>
      obtain ⟨message, reason⟩ := validate_reason checked
      rw [checked] at loaded
      exact ⟨e, message, loaded, reason⟩

/-- Settings with texts and names that need quotes and escapes. -/
def oddlyNamed : Settings :=
  { Settings.default with
    security := { SecuritySettings.default with
      contextLoadPolicy := .warn
      authenticator := ⟨"a\"b'c\\d\n\x00é"⟩
      endpoint := { EndpointSettings.default with timeoutSeconds := 0x7fffffffffffffff }
      extra := ⟨[("a.b \"c\"", "'''"), ("", "\"\"\"\n"), ("\x7f\t", "]\n[x]"), ("é", "")],
        by decide⟩ }
    logging := { LoggingSettings.default with
      format := .pretty
      filePath := some "log\r\n"
      directives := [] } }

/-- Such settings in a file of a disk that was empty. -/
theorem saved_settings_load_oddlyNamed : ∃ d',
    oddlyNamed.save .empty ["settings"] = .ok d' ∧ load d' ["settings"] = .ok oddlyNamed := by
  have writable : Disk.empty.Writable ["settings"] := ⟨[], _, rfl⟩
  obtain ⟨d', saved, kept, -⟩ := saved_settings_load (s := oddlyNamed) (by decide) writable
  exact ⟨d', saved, kept rfl⟩

end Settings

end QuerySession
