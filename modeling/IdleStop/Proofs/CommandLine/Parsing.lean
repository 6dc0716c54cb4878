import IdleStop.Proofs.CommandLine.Scanning
import Mathlib.Data.List.Induction
/-!
# What command lines ask for

Items are taken without fault just if they give what is given
(`Given.foldlM_take_eq_ok_iff`), so a command line is parsed as what it asks for and as
nothing else (`parse_eq_ok_iff`).
-/

namespace IdleStop

namespace CommandLine

variable {items : List Item} {item : Item} {g g' : Given} {q : Parameter} {value : String}
variable {arguments : List String}

namespace Given

/-! ## Values -/

theorem portOf_eq_ok_iff {port : UInt16} :
    portOf value = .ok port ↔ Numeral.SpellsInteger port.toNat value.toList := by
  have hport : port.toNat < 65536 := port.toNat_lt
  have hlimit : 65536 ≤ Numeral.maxSigned := by decide
  rw [portOf]
  constructor
  · intro h
    cases hread : Numeral.integer Numeral.maxSigned value.toList with
    | error fault => simp [hread] at h
    | ok i =>
      obtain ⟨hspells, -⟩ := Numeral.integer_eq_ok_iff.1 hread
      simp only [hread] at h
      split at h
      · next hrange =>
        obtain rfl : UInt16.ofNat i.toNat = port := Except.ok.inj h
        have hi : ((UInt16.ofNat i.toNat).toNat : Int) = i := by
          rw [UInt16.toNat_ofNat']
          omega
        rwa [hi]
      · cases h
  · intro h
    have hread : Numeral.integer Numeral.maxSigned value.toList = .ok (port.toNat : Int) :=
      Numeral.integer_eq_ok_iff.2 ⟨h, by omega, by omega⟩
    simp only [hread]
    rw [if_pos (by omega)]
    simp

/-! ## One item -/

/-- Whether a flag is given. -/
def hasFlag (g : Given) : Flag → Bool
  | .parameter p => g.has p
  | .switch .ignoreConnections => g.ignoreConnections
  | .switch _ => false

/-- An item is given. -/
def HoldsItem (g : Given) : Item → Prop
  | .parameter p value => g.Holds p value
  | .switch .ignoreConnections => g.ignoreConnections = true
  | .switch _ => False

/-- The same is given but for a flag. -/
def Differs (g g' : Given) : Flag → Prop
  | .parameter .time => g' = { g with minutes := g'.minutes }
  | .parameter .port => g' = { g with port := g'.port }
  | .parameter .config => g' = { g with config := g'.config }
  | .parameter .logLevel => g' = { g with logLevel := g'.logLevel }
  | .switch .ignoreConnections => g' = { g with ignoreConnections := g'.ignoreConnections }
  | .switch _ => g' = g

theorem hasFlag_of_holdsItem (h : g.HoldsItem item) : g.hasFlag item.flag = true := by
  cases item with
  | switch s =>
    cases s with
    | ignoreConnections => exact h
    | help | version => exact h.elim
  | parameter p value =>
    cases p with
    | time | port =>
      obtain ⟨n, hn, -⟩ := h
      exact Option.isSome_of_mem hn
    | config => exact Option.isSome_of_mem h.1
    | logLevel => exact Option.isSome_of_mem h

namespace Differs

variable {f f' : Flag}

theorem hasFlag_eq (h : g.Differs g' f) (hne : f' ≠ f) : g'.hasFlag f' = g.hasFlag f' := by
  rcases f with (_ | _ | _ | _) | (_ | _ | _) <;>
    rcases f' with (_ | _ | _ | _) | (_ | _ | _) <;>
      first | exact absurd rfl hne | exact h ▸ rfl

theorem holdsItem_iff (h : g.Differs g' f) (hne : item.flag ≠ f) :
    g'.HoldsItem item ↔ g.HoldsItem item := by
  rcases f with (_ | _ | _ | _) | (_ | _ | _) <;>
    rcases item with (_ | _ | _) | ⟨_ | _ | _ | _, value⟩ <;>
      first | exact absurd rfl hne | exact h ▸ Iff.rfl

end Differs

/-- What is given can do without a flag. -/
theorem exists_differs (g : Given) (f : Flag) :
    ∃ g₀ : Given, g₀.hasFlag f = false ∧ g₀.Differs g f := by
  cases f with
  | switch s =>
    cases s with
    | ignoreConnections => exact ⟨{ g with ignoreConnections := false }, rfl, rfl⟩
    | help | version => exact ⟨g, rfl, rfl⟩
  | parameter p =>
    cases p with
    | time => exact ⟨{ g with minutes := none }, rfl, rfl⟩
    | port => exact ⟨{ g with port := none }, rfl, rfl⟩
    | config => exact ⟨{ g with config := none }, rfl, rfl⟩
    | logLevel => exact ⟨{ g with logLevel := none }, rfl, rfl⟩

/-- A parameter is assigned if it has no value yet and this is one, and nothing else
changes. -/
theorem assign_eq_ok_iff :
    g.assign q value = .ok g' ↔
      g.has q = false ∧ g'.Holds q value ∧ g.Differs g' (.parameter q) := by
  unfold assign
  cases hhas : g.has q with
  | true => simp
  | false =>
    simp only [true_and, Bool.false_eq_true, if_false]
    cases q with
    | time =>
      constructor
      · intro h
        cases hread : Numeral.natural Numeral.maxUnsigned value.toList with
        | error fault => simp [hread] at h
        | ok n =>
          rw [hread] at h
          cases h
          exact ⟨⟨n, rfl, Numeral.natural_eq_ok_iff.1 hread⟩, rfl⟩
      · rintro ⟨⟨n, hn, hspells⟩, hdiffers⟩
        simp only [Numeral.natural_eq_ok_iff.2 hspells]
        rw [← hn, ← show g' = _ from hdiffers]
    | port =>
      constructor
      · intro h
        cases hread : portOf value with
        | error fault => simp [hread] at h
        | ok port =>
          rw [hread] at h
          cases h
          exact ⟨⟨port, rfl, portOf_eq_ok_iff.1 hread⟩, rfl⟩
      · rintro ⟨⟨port, hport, hspells⟩, hdiffers⟩
        simp only [portOf_eq_ok_iff.2 hspells]
        rw [← hport, ← show g' = _ from hdiffers]
    | config =>
      by_cases hempty : value = ""
      · subst hempty
        refine iff_of_false nofun ?_
        rintro ⟨⟨-, hne⟩, -⟩
        exact hne rfl
      · have hne : ¬ value.isEmpty = true := by simpa using hempty
        simp only [if_neg hne]
        constructor
        · rintro ⟨⟩
          exact ⟨⟨rfl, hempty⟩, rfl⟩
        · rintro ⟨⟨hconfig, -⟩, hdiffers⟩
          rw [← hconfig, ← show g' = _ from hdiffers]
    | logLevel =>
      constructor
      · rintro ⟨⟩
        exact ⟨rfl, rfl⟩
      · rintro ⟨hlevel, hdiffers⟩
        rw [← show g'.logLevel = _ from hlevel, ← show g' = _ from hdiffers]

/-- An item is taken if its flag is not given yet and the item can be, and nothing else
changes. -/
theorem take_eq_ok_iff : g.take item = .ok g' ↔
    g.hasFlag item.flag = false ∧ g'.HoldsItem item ∧ g.Differs g' item.flag := by
  cases item with
  | parameter q value =>
    refine Iff.trans ?_ assign_eq_ok_iff
    rw [take]
    cases g.assign q value <;> simp [Except.mapError]
  | switch s =>
    cases s with
    | help | version =>
      refine iff_of_false ?_ fun h => h.2.1
      rintro ⟨⟩
    | ignoreConnections =>
      obtain ⟨minutes, port, ignoreConnections, config, logLevel⟩ := g
      cases ignoreConnections with
      | true =>
        refine iff_of_false ?_ ?_
        · rintro ⟨⟩
        · rintro ⟨⟨⟩, -⟩
      | false =>
        constructor
        · rintro ⟨⟩
          exact ⟨rfl, rfl, rfl⟩
        · rintro ⟨-, hg', hdiffers⟩
          rw [show g' = _ from hdiffers, show g'.ignoreConnections = true from hg']
          rfl

end Given

/-! ## One item more -/

theorem nodup_concat_iff : ((items ++ [item]).map Item.flag).Nodup ↔
    (items.map Item.flag).Nodup ∧ item.flag ∉ items.map Item.flag := by
  rw [List.map_append, List.map_singleton, List.nodup_append]
  refine and_congr_right fun _ => ⟨fun h hflag => ?_, fun h => ⟨by simp, ?_⟩⟩
  · exact h.2 _ hflag _ List.mem_cons_self rfl
  · rintro f hf f' hf' rfl
    exact h (List.mem_singleton.1 hf' ▸ hf)

theorem switch_flag_mem_iff {s : Switch} :
    .switch s ∈ items.map Item.flag ↔ .switch s ∈ items := by
  constructor
  · intro h
    obtain ⟨item, hitem, hflag⟩ := List.mem_map.1 h
    cases item with
    | switch s' =>
      cases hflag
      exact hitem
    | parameter q value => cases hflag
  · exact List.mem_map_of_mem (f := Item.flag)

/-- The same said of parameters and switches alike: no flag twice, each item is given, and no
other flag is. -/
theorem gives_iff : Gives items g ↔ (items.map Item.flag).Nodup ∧
    (∀ item ∈ items, g.HoldsItem item) ∧ ∀ f ∉ items.map Item.flag, g.hasFlag f = false := by
  constructor
  · rintro ⟨hdistinct, hcheck, hholds, hlacks, hswitch⟩
    refine ⟨hdistinct, fun item hitem => ?_, fun f hf => ?_⟩
    · cases item with
      | parameter q value => exact hholds q value hitem
      | switch s =>
        obtain rfl := hcheck s hitem
        exact hswitch.2 hitem
    · rcases f with q | (_ | _ | _)
      · exact hlacks q hf
      · exact Bool.eq_false_iff.2 fun hg => hf (switch_flag_mem_iff.2 (hswitch.1 hg))
      · rfl
      · rfl
  · rintro ⟨hdistinct, hholds, hlacks⟩
    refine ⟨hdistinct, fun s hs => ?_, fun q value => hholds (.parameter q value),
      fun q => hlacks (.parameter q), fun hg => ?_, hholds (.switch .ignoreConnections)⟩
    · cases s with
      | ignoreConnections => rfl
      | help | version => exact (hholds _ hs).elim
    · by_contra hitem
      have hnot : g.ignoreConnections = false := hlacks _ (mt switch_flag_mem_iff.1 hitem)
      rw [hnot] at hg
      cases hg

/-- An item more is one that is given and was not before. -/
theorem gives_concat_iff (hlacks : g.hasFlag item.flag = false)
    (hdiffers : g.Differs g' item.flag) :
    Gives (items ++ [item]) g' ↔ Gives items g ∧ g'.HoldsItem item := by
  rw [gives_iff, gives_iff, nodup_concat_iff]
  have hmem : ∀ f ≠ item.flag, f ∈ (items ++ [item]).map Item.flag ↔ f ∈ items.map Item.flag := by
    intro f hne
    rw [List.map_append, List.mem_append, List.map_singleton, List.mem_singleton]
    exact or_iff_left hne
  constructor
  · rintro ⟨⟨hdistinct, hfresh⟩, hholds, hother⟩
    refine ⟨⟨hdistinct, fun i hi => ?_, fun f hf => ?_⟩,
      hholds item (List.mem_append_right _ List.mem_cons_self)⟩
    · have hne : i.flag ≠ item.flag := fun h => hfresh (h ▸ List.mem_map_of_mem hi)
      exact (hdiffers.holdsItem_iff hne).1 (hholds i (List.mem_append_left _ hi))
    · by_cases hne : f = item.flag
      · rw [hne]
        exact hlacks
      · rw [← hdiffers.hasFlag_eq hne]
        exact hother f (mt (hmem f hne).1 hf)
  · rintro ⟨⟨hdistinct, hholds, hother⟩, hitem⟩
    have hfresh : item.flag ∉ items.map Item.flag := by
      intro h
      obtain ⟨i, hi, hflag⟩ := List.mem_map.1 h
      have hhas := Given.hasFlag_of_holdsItem (hholds i hi)
      rw [hflag, hlacks] at hhas
      cases hhas
    refine ⟨⟨hdistinct, hfresh⟩, fun i hi => ?_, fun f hf => ?_⟩
    · rcases List.mem_append.1 hi with hi | hi
      · have hne : i.flag ≠ item.flag := fun h => hfresh (h ▸ List.mem_map_of_mem hi)
        exact (hdiffers.holdsItem_iff hne).2 (hholds i hi)
      · rw [List.mem_singleton.1 hi]
        exact hitem
    · have hne : f ≠ item.flag := by
        rintro rfl
        exact hf (List.mem_map_of_mem (List.mem_append_right _ List.mem_cons_self))
      rw [hdiffers.hasFlag_eq hne]
      exact hother f (mt (hmem f hne).2 hf)

/-- Nothing is given where there are no items. -/
theorem gives_nil_iff : Gives [] g ↔ g = .nothing := by
  constructor
  · rintro ⟨-, -, -, hlacks, hswitch⟩
    obtain ⟨minutes, port, ignoreConnections, config, logLevel⟩ := g
    obtain rfl : minutes = none := by simpa [Given.has] using hlacks .time List.not_mem_nil
    obtain rfl : port = none := by simpa [Given.has] using hlacks .port List.not_mem_nil
    obtain rfl : config = none := by simpa [Given.has] using hlacks .config List.not_mem_nil
    obtain rfl : logLevel = none := by simpa [Given.has] using hlacks .logLevel List.not_mem_nil
    obtain rfl : ignoreConnections = false := by simpa using hswitch
    rfl
  · rintro rfl
    refine ⟨List.nodup_nil, isCheck_nil, nofun, fun q _ => ?_, iff_of_false nofun nofun⟩
    cases q <;> rfl

/-! ## All items -/

/-- An item is taken after items that are taken. -/
theorem Given.foldlM_take_concat_eq_ok_iff :
    (items ++ [item]).foldlM Given.take .nothing = .ok g ↔
      ∃ g₀, items.foldlM Given.take .nothing = .ok g₀ ∧ g₀.take item = .ok g := by
  rw [List.foldlM_append]
  cases items.foldlM Given.take .nothing with
  | error halt => exact iff_of_false nofun fun ⟨_, h, _⟩ => nomatch h
  | ok g₀ =>
    change ([item].foldlM Given.take g₀ = .ok g) ↔ _
    simp

/-- **Items are taken just if they give what is given.** -/
theorem Given.foldlM_take_eq_ok_iff :
    items.foldlM Given.take .nothing = .ok g ↔ Gives items g := by
  -- from the end: an item is taken if it may follow those in front of it
  induction items using List.reverseRecOn generalizing g with
  | nil =>
    rw [gives_nil_iff]
    exact ⟨fun h => (Except.ok.inj h).symm, fun h => congrArg _ h.symm⟩
  | append_singleton items item ih =>
    rw [foldlM_take_concat_eq_ok_iff]
    simp only [ih, take_eq_ok_iff]
    constructor
    · rintro ⟨g₀, hitems, hlacks, hitem, hdiffers⟩
      exact (gives_concat_iff hlacks hdiffers).2 ⟨hitems, hitem⟩
    · intro h
      obtain ⟨g₀, hlacks, hdiffers⟩ := g.exists_differs item.flag
      obtain ⟨hitems, hitem⟩ := (gives_concat_iff hlacks hdiffers).1 h
      exact ⟨g₀, hitems, hlacks, hitem, hdiffers⟩

/-! ## Command lines -/

/-- What is spelled is parsed as its items. -/
theorem parse_of_spells (h : Spells items arguments) :
    parse arguments =
      match items.foldlM Given.take .nothing with
      | .error (.fault f) => .error f
      | .error (.request request) => .ok request
      | .ok g => g.request := by
  have htake : Progress.takeAll ⟨.nothing, none⟩ arguments = items.foldlM Given.take .nothing :=
    Progress.takeAll_of_spells h ⟨.nothing, none⟩
  rw [← htake]
  rfl

/-- What is parsed is spelled. -/
theorem exists_spells {request : Request} (h : parse arguments = .ok request) :
    ∃ items, Spells items arguments := by
  refine Progress.completes_of_takeAll (p := ⟨.nothing, none⟩) fun f hfault => ?_
  rw [parse, hfault] at h
  cases h

/-- Items that end the reading end it with help or the version, and nothing in front of
these is wrong. -/
theorem exists_of_foldlM_take_request {request : Request} (h : Spells items arguments)
    (htake : items.foldlM Given.take .nothing = .error (.request request)) :
    ∃ front g, Gives front g ∧
      (items = front ++ [.switch .help] ∧ request = .help ∨
        items = front ++ [.switch .version] ∧ request = .version) := by
  rcases h.follows with hcheck | ⟨front, s, rfl, -, hfront⟩
  · exact absurd htake (Given.foldlM_take_ne_request hcheck _ _)
  · rw [List.foldlM_append] at htake
    cases hread : front.foldlM Given.take .nothing with
    | error halt =>
      rw [hread] at htake
      cases htake
      exact absurd hread (Given.foldlM_take_ne_request hfront _ _)
    | ok g =>
      rw [hread] at htake
      refine ⟨front, g, Given.foldlM_take_eq_ok_iff.1 hread, ?_⟩
      change [Item.switch s].foldlM Given.take g = _ at htake
      cases s with
      | help =>
        cases htake
        exact Or.inl ⟨rfl, rfl⟩
      | version =>
        cases htake
        exact Or.inr ⟨rfl, rfl⟩
      | ignoreConnections =>
        exact absurd htake (Given.foldlM_take_ne_request (isCheck_cons rfl isCheck_nil) _ _)

/-- **A command line is parsed as what it asks for**, and as nothing else. -/
theorem parse_eq_ok_iff {request : Request} :
    parse arguments = .ok request ↔ Asks arguments request := by
  constructor
  · intro h
    obtain ⟨items, hitems⟩ := exists_spells h
    rw [parse_of_spells hitems] at h
    cases htake : items.foldlM Given.take .nothing with
    | error halt =>
      rw [htake] at h
      cases halt with
      | fault f => cases h
      | request request =>
        cases h
        obtain ⟨front, g, hfront, ⟨rfl, rfl⟩ | ⟨rfl, rfl⟩⟩ :=
          exists_of_foldlM_take_request hitems htake
        · exact .help hitems hfront
        · exact .version hitems hfront
    | ok g =>
      rw [htake] at h
      have hgives := Given.foldlM_take_eq_ok_iff.1 htake
      obtain ⟨_ | minutes, port, ignoreConnections, config, logLevel⟩ := g
      · cases h
      · cases h
        exact .check hitems hgives
  · intro h
    cases h with
    | help h hitems | version h hitems =>
      rw [parse_of_spells h, List.foldlM_append, Given.foldlM_take_eq_ok_iff.2 hitems]
      rfl
    | check h hitems =>
      rw [parse_of_spells h, Given.foldlM_take_eq_ok_iff.2 hitems]
      rfl

end CommandLine

end IdleStop
