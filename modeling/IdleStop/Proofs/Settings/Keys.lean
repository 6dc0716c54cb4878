import IdleStop.Proofs.Toml.Members
import IdleStop.Settings
/-!
# The keys that count

A document holds settings just if each of the six keys has no value or one that fits it
(`Settings.ofMembers?_eq_some_iff`). Putting a value that fits where there is none sets
that field and leaves the others (`Settings.ofMembers?_of_put`); a key that holds anything
else leaves no settings at all (`Settings.fits_of_ofMembers?`).
-/

namespace IdleStop

open Toml (Members Value)

/-- One of the six keys, and a value that fits it. -/
inductive Setting
  | port (n : UInt16)
  | ignoreConnections (b : Bool)
  | metadataPath (text : String)
  | cliPath (text : String)
  | region (text : String)
  | profile (text : String)
  deriving DecidableEq, Repr

namespace Setting

/-- The key in a file. -/
def key : Setting → String
  | port _ => "port"
  | ignoreConnections _ => "ignore_connections"
  | metadataPath _ => "metadata_path"
  | cliPath _ => "aws_cli_path"
  | region _ => "aws_region"
  | profile _ => "aws_profile"

/-- The value in a file. -/
def scalar : Setting → Toml.Scalar
  | port n => .integer n.toNat
  | ignoreConnections b => .bool b
  | metadataPath text | cliPath text | region text | profile text => .string text

/-- Settings with this one in place of what there was for its key. -/
def set (s : Settings) : Setting → Settings
  | port n => { s with port := n }
  | ignoreConnections b => { s with ignoreConnections := b }
  | metadataPath text => { s with metadataPath := text }
  | cliPath text => { s with control := { s.control with path := some text } }
  | region text => { s with control := { s.control with region := some text } }
  | profile text => { s with control := { s.control with profile := some text } }

/-- All six keys. -/
def keys : List String :=
  ["port", "ignore_connections", "metadata_path", "aws_cli_path", "aws_region", "aws_profile"]

theorem key_mem_keys (a : Setting) : a.key ∈ keys := by
  cases a <;> simp [key, keys]

end Setting

namespace Settings

/-- What one of the keys is set to, if to anything. -/
def value? (s : Settings) (key : String) : Option Toml.Scalar :=
  if key = "port" then some (.integer s.port.toNat)
  else if key = "ignore_connections" then some (.bool s.ignoreConnections)
  else if key = "metadata_path" then some (.string s.metadataPath)
  else if key = "aws_cli_path" then s.control.path.map .string
  else if key = "aws_region" then s.control.region.map .string
  else if key = "aws_profile" then s.control.profile.map .string
  else none

variable {ms ms' : Members} {s : Settings} {a : Setting} {key : String} {v : Value}
variable {α : Type} {default : α} {read : Toml.Scalar → Option α} {x : α}

theorem field?_of_scalar {scalar : Toml.Scalar} (h : ms.lookup? key = some (.scalar scalar)) :
    field? ms key default read = read scalar := by
  rw [field?, h]

theorem field?_congr (h : ms'.lookup? key = ms.lookup? key) :
    field? ms' key default read = field? ms key default read := by
  rw [field?, field?, h]

/-- A key that is read has no value, or one that is read. -/
theorem exists_of_field? (h : field? ms key default read = some x) (hv : ms.lookup? key = some v) :
    ∃ scalar, v = .scalar scalar ∧ read scalar = some x := by
  rw [field?, hv] at h
  cases v with
  | scalar scalar => exact ⟨scalar, rfl, h⟩
  | array items | table origin members | tables earlier last => cases h

/-- **What it takes for a document to hold settings**, key by key. -/
theorem ofMembers?_eq_some_iff :
    ofMembers? ms = some s ↔
      field? ms "port" standard.port port? = some s.port ∧
      field? ms "ignore_connections" standard.ignoreConnections bool? =
        some s.ignoreConnections ∧
      field? ms "metadata_path" standard.metadataPath text? = some s.metadataPath ∧
      field? ms "aws_cli_path" none (fun s => (text? s).map some) = some s.control.path ∧
      field? ms "aws_region" none (fun s => (text? s).map some) = some s.control.region ∧
      field? ms "aws_profile" none (fun s => (text? s).map some) = some s.control.profile := by
  obtain ⟨port, ignoreConnections, metadataPath, path, region, profile⟩ := s
  simp only [ofMembers?, Option.bind_eq_bind, Option.bind_eq_some_iff, Option.pure_def,
    Option.some.injEq, mk.injEq, ControlSettings.mk.injEq]
  constructor
  · rintro ⟨_, h₁, _, h₂, _, h₃, _, h₄, _, h₅, _, h₆, rfl, rfl, rfl, rfl, rfl, rfl⟩
    exact ⟨h₁, h₂, h₃, h₄, h₅, h₆⟩
  · rintro ⟨h₁, h₂, h₃, h₄, h₅, h₆⟩
    exact ⟨_, h₁, _, h₂, _, h₃, _, h₄, _, h₅, _, h₆, rfl, rfl, rfl, rfl, rfl, rfl⟩

/-- Other keys do not count. -/
theorem ofMembers?_congr (h : ∀ key ∈ Setting.keys, ms'.lookup? key = ms.lookup? key) :
    ofMembers? ms' = ofMembers? ms := by
  simp only [ofMembers?, field?_congr (h "port" (by decide)),
    field?_congr (h "ignore_connections" (by decide)), field?_congr (h "metadata_path" (by decide)),
    field?_congr (h "aws_cli_path" (by decide)), field?_congr (h "aws_region" (by decide)),
    field?_congr (h "aws_profile" (by decide))]

/-- A port is read as it is. -/
theorem port?_toNat (n : UInt16) : port? (.integer n.toNat) = some n := by
  have hn : n.toNat < 65536 := n.toNat_lt
  rw [port?, if_pos (by omega), Int.toNat_natCast, UInt16.ofNat_toNat]

/-- And nothing else is read as one. -/
theorem eq_of_port? {scalar : Toml.Scalar} {n : UInt16} (h : port? scalar = some n) :
    scalar = .integer n.toNat := by
  cases scalar with
  | integer i =>
    rw [port?] at h
    split at h
    · next hi =>
      obtain ⟨hlow, hhigh⟩ := hi
      have htoNat : (UInt16.ofNat i.toNat).toNat = i.toNat :=
        UInt16.toNat_ofNat_of_lt (show i.toNat < 65536 by omega)
      rw [← Option.some.inj h, htoNat]
      congr
      omega
    · cases h
  | bool b | real x | moment text | string text => cases h

theorem eq_of_bool? {scalar : Toml.Scalar} {b : Bool} (h : bool? scalar = some b) :
    scalar = .bool b := by
  cases scalar with
  | bool b' => exact congrArg _ (Option.some.inj h)
  | integer i | real x | moment text | string text => cases h

theorem eq_of_text? {scalar : Toml.Scalar} {text : String} (h : text? scalar = some text) :
    scalar = .string text := by
  cases scalar with
  | string text' => exact congrArg _ (Option.some.inj h)
  | bool b | integer i | real x | moment text => cases h

/-- **What one of the keys holds, where there are settings, is one of its settings.** -/
theorem fits_of_ofMembers? (h : ofMembers? ms = some s) (hkey : key ∈ Setting.keys)
    (hv : ms.lookup? key = some v) : ∃ a : Setting, a.key = key ∧ v = .scalar a.scalar := by
  obtain ⟨hport, hignore, hmetadata, hpath, hregion, hprofile⟩ := ofMembers?_eq_some_iff.1 h
  have htext : ∀ {key x}, field? ms key none (fun s => (text? s).map some) = some x →
      ms.lookup? key = some v → ∃ text, v = .scalar (.string text) := by
    intro key x hfield hv
    obtain ⟨scalar, rfl, hread⟩ := exists_of_field? hfield hv
    obtain ⟨text, hread, -⟩ := Option.map_eq_some_iff.1 hread
    exact ⟨text, congrArg _ (eq_of_text? hread)⟩
  simp only [Setting.keys, List.mem_cons, List.not_mem_nil, or_false] at hkey
  rcases hkey with rfl | rfl | rfl | rfl | rfl | rfl
  · obtain ⟨scalar, rfl, hread⟩ := exists_of_field? hport hv
    exact ⟨.port s.port, rfl, congrArg _ (eq_of_port? hread)⟩
  · obtain ⟨scalar, rfl, hread⟩ := exists_of_field? hignore hv
    exact ⟨.ignoreConnections s.ignoreConnections, rfl, congrArg _ (eq_of_bool? hread)⟩
  · obtain ⟨scalar, rfl, hread⟩ := exists_of_field? hmetadata hv
    exact ⟨.metadataPath s.metadataPath, rfl, congrArg _ (eq_of_text? hread)⟩
  · obtain ⟨text, rfl⟩ := htext hpath hv
    exact ⟨.cliPath text, rfl, rfl⟩
  · obtain ⟨text, rfl⟩ := htext hregion hv
    exact ⟨.region text, rfl, rfl⟩
  · obtain ⟨text, rfl⟩ := htext hprofile hv
    exact ⟨.profile text, rfl, rfl⟩

/-- **Putting a setting where its key has no value sets its field and no other.** -/
theorem ofMembers?_of_put (h : ofMembers? ms = some s) (hnone : ms.lookup? a.key = none)
    (hput : ms.alter? a.key (Members.fresh (.scalar a.scalar)) = some ms') :
    ofMembers? ms' = some (a.set s) := by
  have hkey : ms'.lookup? a.key = some (.scalar a.scalar) := by
    obtain ⟨v, hv, hlookup⟩ := Members.lookup?_of_alter? hput
    rw [hnone] at hv
    cases hv
    exact hlookup
  have hkept : ∀ {α : Type} {key : String} {default : α} {read : Toml.Scalar → Option α} {x : α},
      field? ms key default read = some x → key ≠ a.key →
        field? ms' key default read = some x := fun hfield hne =>
    (field?_congr (Members.lookup?_of_alter?_of_ne hput hne)).trans hfield
  obtain ⟨hport, hignore, hmetadata, hpath, hregion, hprofile⟩ := ofMembers?_eq_some_iff.1 h
  -- one field at a time: the setting is the one of the field, or of another key
  refine ofMembers?_eq_some_iff.2 ⟨?_, ?_, ?_, ?_, ?_, ?_⟩
  · cases a with
    | port n => exact (field?_of_scalar hkey).trans (port?_toNat n)
    | _ => exact hkept hport (by simp [Setting.key])
  · cases a with
    | ignoreConnections b => exact field?_of_scalar hkey
    | _ => exact hkept hignore (by simp [Setting.key])
  · cases a with
    | metadataPath text => exact field?_of_scalar hkey
    | _ => exact hkept hmetadata (by simp [Setting.key])
  · cases a with
    | cliPath text => exact field?_of_scalar hkey
    | _ => exact hkept hpath (by simp [Setting.key])
  · cases a with
    | region text => exact field?_of_scalar hkey
    | _ => exact hkept hregion (by simp [Setting.key])
  · cases a with
    | profile text => exact field?_of_scalar hkey
    | _ => exact hkept hprofile (by simp [Setting.key])

/-! ## Settings one after the other -/

theorem value?_set (s : Settings) (a : Setting) : (a.set s).value? a.key = some a.scalar := by
  cases a <;> rfl

theorem value?_set_of_ne (s : Settings) (h : key ≠ a.key) :
    (a.set s).value? key = s.value? key := by
  cases a <;> simp only [Setting.key] at h <;> simp [value?, Setting.set, h]

/-- What other keys are set to stays. -/
theorem value?_foldl_set {as : List Setting} (s : Settings) (h : key ∉ as.map Setting.key) :
    (as.foldl Setting.set s).value? key = s.value? key := by
  induction as generalizing s with
  | nil => rfl
  | cons a as ih =>
    rw [List.map_cons, List.mem_cons, not_or] at h
    rw [List.foldl_cons, ih _ h.2, value?_set_of_ne s h.1]

/-- **Settings for different keys are all there in the end.** -/
theorem value?_foldl_set_of_mem {as : List Setting} (s : Settings)
    (hdistinct : (as.map Setting.key).Nodup) (ha : a ∈ as) :
    (as.foldl Setting.set s).value? a.key = some a.scalar := by
  induction as generalizing s with
  | nil => cases ha
  | cons a' as ih =>
    obtain ⟨hfirst, hdistinct⟩ := List.nodup_cons.1 hdistinct
    rw [List.foldl_cons]
    rcases List.mem_cons.1 ha with rfl | ha
    · rw [value?_foldl_set _ hfirst, value?_set]
    · exact ih _ hdistinct ha

end Settings

end IdleStop
