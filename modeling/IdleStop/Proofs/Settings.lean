import IdleStop.Settings
/-!
# Where settings come from

Settings are loaded from one file or from none. A file that is named is the one,
there or not; else the standard file is, if the system shows it. The defaults take
the place of a file nobody named that is not shown, and of nothing else: a file that
is shown and cannot be used leaves no settings at all. But a file may be there and
not be shown.
-/

namespace IdleStop

theorem File.readText_eq_ok_iff {file : File} {text : String} :
    file.readText = .ok text ↔
      ∃ content, file = .bytes content ∧ Utf8.decode? content = some text := by
  cases file with
  | bytes content =>
    cases hdecode : Utf8.decode? content <;> simp [readText, hdecode]
  | missing | directory | blocked | overlong | looped | unnameable | locked | concealed _ =>
    simp [readText]

namespace Settings

variable {path : String} {file : File} {s : Settings} {fault : SettingsFault}
variable {files : String → File} {named standardPath : Option String}

/-- A file holds settings: its bytes are text, the text is TOML, and no key that
counts has a value of the wrong kind. -/
def Holds (file : File) (s : Settings) : Prop :=
  ∃ content text members, file = .bytes content ∧ Utf8.decode? content = some text ∧
    Toml.Document.parse? text = some members ∧ ofMembers? members = some s

theorem ofFile_eq_ok_iff : ofFile path file = .ok s ↔ Holds file s := by
  rw [ofFile]
  cases hread : file.readText with
  | error fault =>
    refine iff_of_false nofun ?_
    rintro ⟨content, text, -, rfl, hdecode, -⟩
    cases hread.symm.trans (File.readText_eq_ok_iff.2 ⟨content, rfl, hdecode⟩)
  | ok text =>
    obtain ⟨content, rfl, hdecode⟩ := File.readText_eq_ok_iff.1 hread
    have hholds : Holds (.bytes content) s ↔
        (Toml.Document.parse? text).bind ofMembers? = some s := by
      rw [Option.bind_eq_some_iff]
      simp [Holds, hdecode]
    rw [hholds]
    dsimp only
    cases (Toml.Document.parse? text).bind ofMembers? <;> simp

end Settings

end IdleStop
