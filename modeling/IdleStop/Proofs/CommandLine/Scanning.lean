import IdleStop.Proofs.CommandLine.Spelling
/-!
# How command lines are scanned

Arguments that spell items are scanned as these items, one after the other
(`Progress.takeAll_of_spells`): that a value which follows its flag is judged only later
makes no difference. Arguments that spell nothing are at fault
(`Progress.completes_of_takeAll`).
-/

namespace IdleStop

namespace CommandLine

variable {items : List Item} {sequel : Sequel} {f : Flag} {p : Progress} {g : Given}
variable {argument : String} {arguments : List String} {c : Char} {cs : List Char}

/-! ## Names and letters -/

theorem Flag.ofLetter?_eq_some_iff : Flag.ofLetter? c = some f ↔ f.letter? = some c := by
  constructor
  · intro h
    unfold ofLetter? at h
    have hfound := List.find?_some h
    exact of_decide_eq_true hfound
  · intro h
    rcases f with (_ | _ | _ | _) | (_ | _ | _) <;> cases h <;> rfl

theorem Flag.ofName?_name (f : Flag) : Flag.ofName? f.name.toList = some f := by
  rcases f with (_ | _ | _ | _) | (_ | _ | _) <;> rfl

theorem Flag.name_of_ofName? (h : Flag.ofName? cs = some f) : f.name.toList = cs := by
  unfold ofName? at h
  have hfound := List.find?_some h
  exact of_decide_eq_true hfound

/-- There is no equals sign in a name. -/
theorem Flag.ne_equals (f : Flag) : ∀ c ∈ f.name.toList, (c != '=') = true := by
  rcases f with (_ | _ | _ | _) | (_ | _ | _) <;> exact List.all_eq_true.1 rfl

theorem Flag.name_ne_nil (f : Flag) : f.name.toList ≠ [] := by
  rcases f with (_ | _ | _ | _) | (_ | _ | _) <;> simp [name, Parameter.name, Switch.name]

theorem Flag.letter_ne_hyphen (h : f.letter? = some c) : c ≠ '-' := by
  rcases f with (_ | _ | _ | _) | (_ | _ | _) <;> cases h <;> decide

/-- The first letter is no hyphen, so letters are not taken for a long name. -/
theorem SpellsLetters.ne_hyphen (h : SpellsLetters items sequel (c :: cs)) : c ≠ '-' := by
  cases h with
  | switch _ hletter | request _ hletter | awaiting hletter | equals hletter
  | attached hletter => exact Flag.letter_ne_hyphen hletter

/-- Two hyphens alone give nothing. -/
theorem SpellsArgument.ne_hyphens (h : SpellsArgument items sequel argument.toList) :
    argument ≠ "--" := by
  rintro rfl
  generalize hcs : "--".toList = cs at h
  cases h with
  | letters h =>
    cases hcs
    exact h.ne_hyphen rfl
  | switch s => exact Flag.name_ne_nil (.switch s) (List.cons.inj (List.cons.inj hcs).2).2.symm
  | awaiting p => exact Flag.name_ne_nil (.parameter p) (List.cons.inj (List.cons.inj hcs).2).2.symm
  | equals p value => exact absurd (List.cons.inj (List.cons.inj hcs).2).2.symm (by simp)

/-! ## Items -/

theorem isCheck_nil : IsCheck [] :=
  fun _ h => absurd h List.not_mem_nil

theorem isCheck_parameter (q : Parameter) (value : String) : IsCheck [.parameter q value] :=
  fun _ h => by simp at h

theorem isCheck_cons {s : Switch} (hs : s.sequel = .further) (h : IsCheck items) :
    IsCheck (.switch s :: items) := by
  intro s' hs'
  rcases List.mem_cons.1 hs' with heq | hs'
  · cases heq
    cases s with
    | ignoreConnections => rfl
    | help | version => cases hs
  · exact h s' hs'

theorem IsCheck.append {more : List Item} (h : IsCheck items) (h' : IsCheck more) :
    IsCheck (items ++ more) :=
  fun s hs => (List.mem_append.1 hs).elim (h s) (h' s)

/-- Help or the version are the last item wherever anything may come after them, and
nowhere else are they among the items. -/
def Sequel.Follows : Sequel → List Item → Prop
  | anything, items => ∃ front s, items = front ++ [.switch s] ∧ s.sequel = .anything ∧
      IsCheck front
  | _, items => IsCheck items

theorem SpellsLetters.follows (h : SpellsLetters items sequel cs) : sequel.Follows items := by
  induction h with
  | none | awaiting => exact isCheck_nil
  | @switch s letter items sequel cs hs _ _ ih =>
    cases sequel with
    | further | value q => exact isCheck_cons hs ih
    | anything =>
      obtain ⟨front, s', rfl, hs', hfront⟩ := ih
      exact ⟨.switch s :: front, s', rfl, hs', isCheck_cons hs hfront⟩
  | @request s _ hs => exact ⟨[], s, rfl, hs, isCheck_nil⟩
  | equals | attached => exact isCheck_parameter _ _

theorem SpellsArgument.follows (h : SpellsArgument items sequel cs) : sequel.Follows items := by
  cases h with
  | letters h => exact h.follows
  | switch s =>
    cases s with
    | ignoreConnections => exact isCheck_cons rfl isCheck_nil
    | help | version => exact ⟨[], _, rfl, rfl, isCheck_nil⟩
  | awaiting => exact isCheck_nil
  | equals => exact isCheck_parameter _ _

/-- Help or the version come last, and once, or not at all. -/
theorem Spells.follows (h : Spells items arguments) :
    IsCheck items ∨ Sequel.anything.Follows items := by
  induction h with
  | none | hyphens => exact Or.inl isCheck_nil
  | further h _ ih =>
    rcases ih with hmore | ⟨front, s, rfl, hs, hfront⟩
    · exact Or.inl (IsCheck.append h.follows hmore)
    · exact Or.inr ⟨_, s, (List.append_assoc _ _ _).symm, hs, IsCheck.append h.follows hfront⟩
  | @value items more q argument value arguments h _ _ ih =>
    have hitems : IsCheck (items ++ [.parameter q value]) :=
      IsCheck.append h.follows (isCheck_parameter q value)
    rw [List.append_cons]
    rcases ih with hmore | ⟨front, s, rfl, hs, hfront⟩
    · exact Or.inl (hitems.append hmore)
    · exact Or.inr ⟨_, s, (List.append_assoc _ _ _).symm, hs, hitems.append hfront⟩
  | anything h => exact Or.inr h.follows

/-- Takes an item. -/
def Given.take (g : Given) : Item → Except Halt Given
  | .switch s => g.turnOn s
  | .parameter p value => (g.assign p value).mapError .fault

/-- Taking help or the version ends the reading. -/
theorem Given.foldlM_take_request {s : Switch} (hs : s.sequel = .anything) (g : Given) :
    ∃ r, [Item.switch s].foldlM Given.take g = .error (.request r) := by
  cases s with
  | ignoreConnections => cases hs
  | help | version => exact ⟨_, rfl⟩

/-- Nothing else does, unless it is wrong. -/
theorem Given.foldlM_take_ne_request (h : IsCheck items) (g : Given) (r : Request) :
    items.foldlM Given.take g ≠ .error (.request r) := by
  induction items generalizing g with
  | nil => nofun
  | cons item items ih =>
    have hitems : IsCheck items := fun s hs => h s (List.mem_cons_of_mem item hs)
    rw [List.foldlM_cons]
    cases item with
    | switch s =>
      obtain rfl := h s List.mem_cons_self
      rw [take, turnOn]
      split
      · nofun
      · exact ih hitems _
    | parameter q value =>
      rw [take]
      cases g.assign q value with
      | error f => nofun
      | ok g => exact ih hitems g

/-- What is pending where something is to come. -/
def Sequel.pending : Sequel → Option (Parameter × Option String)
  | value p => some (p, none)
  | _ => none

namespace Progress

/-- Takes items after what is pending, and then waits for what is to come. -/
def takeItems (p : Progress) (items : List Item) (sequel : Sequel) : Except Halt Progress := do
  let given ← p.settle
  return ⟨← items.foldlM Given.take given, sequel.pending⟩

theorem takeItems_bind {α : Type} (p : Progress) (items : List Item) (sequel : Sequel)
    (k : Progress → Except Halt α) :
    p.takeItems items sequel >>= k =
      p.settle >>= fun g => items.foldlM Given.take g >>= fun g => k ⟨g, sequel.pending⟩ := by
  simp [takeItems]

theorem await_eq (p : Progress) (q : Parameter) : p.await q = p.takeItems [] (.value q) := by
  simp [await, takeItems, Sequel.pending]

theorem supply_eq (p : Progress) (q : Parameter) (value : List Char) :
    p.supply q value = p.takeItems [.parameter q (String.ofList value)] .further := by
  simp [supply, takeItems, Given.take, Sequel.pending]

theorem turnOn_eq (p : Progress) (s : Switch) : p.turnOn s = p.takeItems [.switch s] s.sequel := by
  have hpending : s.sequel.pending = none := by cases s <;> rfl
  simp [turnOn, takeItems, Given.take, hpending]

/-! ## What is spelled is taken -/

/-- The name of a flag, with nothing behind it. -/
theorem takeName_name (p : Progress) (f : Flag) :
    p.takeName f.name.toList =
      match f with
      | .parameter q => p.takeItems [] (.value q)
      | .switch s => p.takeItems [.switch s] s.sequel := by
  have htake : (f.name.toList ++ []).takeWhile (· != '=') = f.name.toList ++ [] :=
    List.takeWhile_append_of_pos f.ne_equals
  have hdrop : (f.name.toList ++ []).dropWhile (· != '=') = [] :=
    List.dropWhile_append_of_pos f.ne_equals
  rw [List.append_nil] at htake hdrop
  simp only [takeName, htake, hdrop, f.ofName?_name]
  cases f with
  | parameter q => exact p.await_eq q
  | switch s => exact p.turnOn_eq s

/-- The name of a parameter, with an equals sign and a value behind it. -/
theorem takeName_equals (p : Progress) (q : Parameter) (value : List Char) :
    p.takeName (q.name.toList ++ '=' :: value) =
      p.takeItems [.parameter q (String.ofList value)] .further := by
  have hname : ∀ c ∈ q.name.toList, (c != '=') = true := (Flag.parameter q).ne_equals
  have htake : (q.name.toList ++ '=' :: value).takeWhile (· != '=') = q.name.toList := by
    rw [List.takeWhile_append_of_pos hname]
    simp
  have hdrop : (q.name.toList ++ '=' :: value).dropWhile (· != '=') = '=' :: value := by
    rw [List.dropWhile_append_of_pos hname]
    simp
  have hflag : Flag.ofName? q.name.toList = some (.parameter q) :=
    Flag.ofName?_name (.parameter q)
  simp only [takeName, htake, hdrop, hflag]
  exact p.supply_eq q value

theorem takeLetters_switch {s : Switch} (hletter : (Flag.switch s).letter? = some c)
    (p : Progress) (cs : List Char) :
    p.takeLetters (c :: cs) = p.turnOn s >>= fun p => p.takeLetters cs := by
  rw [takeLetters.eq_def]
  simp only [Flag.ofLetter?_eq_some_iff.2 hletter]

/-- Letters are taken as what they spell. Where there are none, nothing may be pending. -/
theorem takeLetters_of_spells (h : SpellsLetters items sequel cs) (p : Progress)
    (hp : cs ≠ [] ∨ p.pending = none) : p.takeLetters cs = p.takeItems items sequel := by
  induction h generalizing p with
  | none =>
    obtain ⟨g, pending⟩ := p
    obtain rfl : pending = .none := by simpa using hp
    rfl
  | @switch s letter items sequel cs hs hletter h ih =>
    rw [takeLetters_switch hletter, turnOn_eq, hs]
    simp only [takeItems, List.foldlM_cons, List.foldlM_nil, bind_assoc, pure_bind]
    refine bind_congr fun g => bind_congr fun g' => ?_
    exact ih ⟨g', .none⟩ (Or.inr rfl)
  | @request s letter hs hletter cs =>
    rw [takeLetters_switch hletter, turnOn_eq, hs, takeItems_bind, takeItems]
    refine bind_congr fun g => ?_
    obtain ⟨r, hr⟩ := Given.foldlM_take_request hs g
    rw [hr]
    rfl
  | awaiting hletter =>
    rw [takeLetters.eq_def]
    simp only [Flag.ofLetter?_eq_some_iff.2 hletter]
    exact p.await_eq _
  | equals hletter value =>
    rw [takeLetters.eq_def]
    simp only [Flag.ofLetter?_eq_some_iff.2 hletter]
    exact p.supply_eq _ value
  | attached hletter hc value =>
    rw [takeLetters.eq_def]
    simp only [Flag.ofLetter?_eq_some_iff.2 hletter]
    rw [← p.supply_eq]
    split <;> simp_all

/-- An argument is taken as what it spells. -/
theorem take_of_spells (h : SpellsArgument items sequel argument.toList) (p : Progress) :
    p.take argument = p.takeItems items sequel := by
  rw [take]
  generalize argument.toList = cs at h
  cases h with
  | letters h =>
    have hne := h.ne_hyphen
    split
    · next heq =>
      cases heq
      exact absurd rfl hne
    · next heq =>
      cases heq
      exact takeLetters_of_spells h p (Or.inl (List.cons_ne_nil _ _))
    · next hletters => exact absurd rfl (hletters _ _)
  | switch s => exact p.takeName_name (.switch s)
  | awaiting q => exact p.takeName_name (.parameter q)
  | equals q value => exact p.takeName_equals q value

theorem take_of_isOperand (h : IsOperand argument) (p : Progress) :
    p.take argument = p.takeOperand argument := by
  have hne : ∀ c cs, argument.toList ≠ '-' :: c :: cs := by
    intro c cs hcs
    rcases h with rfl | h
    · cases hcs
    · simp [hcs] at h
  rw [take]
  split
  · next hcs => exact absurd hcs (hne _ _)
  · next hcs => exact absurd hcs (hne _ _)
  · rfl

theorem takeAll_cons (h : argument ≠ "--") (p : Progress) (arguments : List String) :
    p.takeAll (argument :: arguments) = p.take argument >>= fun p => p.takeAll arguments := by
  rw [takeAll.eq_def]
  exact if_neg h

/-- **What is spelled is scanned**: first what is pending is judged, and then the items are
taken, one after the other. -/
theorem takeAll_of_spells (h : Spells items arguments) (p : Progress) :
    p.takeAll arguments = p.settle >>= fun g => items.foldlM Given.take g := by
  -- for whatever is pending: a value that follows its flag is pending for the arguments behind it
  induction h generalizing p with
  | none => simp [takeAll]
  | hyphens => simp [takeAll]
  | further h _ ih =>
    rw [takeAll_cons h.ne_hyphens, take_of_spells h, takeItems_bind]
    refine bind_congr fun g => ?_
    rw [List.foldlM_append]
    exact bind_congr fun g => ih ⟨g, .none⟩
  | @value items more q argument value arguments h hvalue _ ih =>
    have hne : value ≠ "--" := by
      rintro rfl
      rcases hvalue with hvalue | hvalue <;> simp at hvalue
    rw [takeAll_cons h.ne_hyphens, take_of_spells h, takeItems_bind]
    refine bind_congr fun g => ?_
    rw [List.foldlM_append]
    refine bind_congr fun g => ?_
    rw [Sequel.pending, takeAll_cons hne, take_of_isOperand hvalue, List.foldlM_cons]
    exact ih ⟨g, some (q, some value)⟩
  | anything h arguments =>
    rw [takeAll_cons h.ne_hyphens, take_of_spells h, takeItems_bind]
    refine bind_congr fun g => ?_
    -- the arguments behind are not read: the last item is an error in either reading
    obtain ⟨front, s, rfl, hs, -⟩ := h.follows
    rw [List.foldlM_append, bind_assoc]
    refine bind_congr fun g => ?_
    obtain ⟨r, hr⟩ := Given.foldlM_take_request hs g
    rw [hr]
    rfl

/-! ## Nothing else is taken -/

theorem settle_ne_request (p : Progress) (r : Request) : p.settle ≠ .error (.request r) := by
  rw [settle]
  split
  · nofun
  · nofun
  · next q value _ => cases p.given.assign q value <;> nofun

/-- Items that are taken without fault leave what is to come. -/
theorem exists_taken {α : Type} (hitems : IsCheck items) {k : Progress → Except Halt α}
    (h : ∀ f, (p.takeItems items sequel >>= k) ≠ .error (.fault f)) :
    ∃ g, ∀ f, k ⟨g, sequel.pending⟩ ≠ .error (.fault f) := by
  rw [takeItems_bind] at h
  cases hsettle : p.settle with
  | error halt =>
    rw [hsettle] at h
    cases halt with
    | fault f => exact absurd rfl (h f)
    | request r => exact absurd hsettle (settle_ne_request p r)
  | ok g =>
    rw [hsettle] at h
    change ∀ f, (items.foldlM Given.take g >>= fun g => k ⟨g, sequel.pending⟩) ≠ _ at h
    cases htake : items.foldlM Given.take g with
    | error halt =>
      rw [htake] at h
      cases halt with
      | fault f => exact absurd rfl (h f)
      | request r => exact absurd htake (Given.foldlM_take_ne_request hitems g r)
    | ok g =>
      rw [htake] at h
      exact ⟨g, h⟩

/-- Letters that are not at fault spell something. -/
theorem exists_spellsLetters (h : ∀ f, p.takeLetters cs ≠ .error (.fault f)) :
    ∃ items sequel, SpellsLetters items sequel cs := by
  induction cs generalizing p with
  | nil => exact ⟨_, _, .none⟩
  | cons letter cs ih =>
    cases hflag : Flag.ofLetter? letter with
    | none =>
      refine absurd ?_ (h (.unexpected (String.ofList ['-', letter])))
      rw [takeLetters.eq_def]
      simp only [hflag]
      rfl
    | some f =>
      have hletter := Flag.ofLetter?_eq_some_iff.1 hflag
      cases f with
      | parameter q =>
        cases cs with
        | nil => exact ⟨_, _, .awaiting hletter⟩
        | cons c value =>
          by_cases hc : c = '='
          · subst hc
            exact ⟨_, _, .equals hletter value⟩
          · exact ⟨_, _, .attached hletter hc value⟩
      | switch s =>
        cases hs : s.sequel with
        | anything => exact ⟨_, _, .request hs hletter cs⟩
        | value q => cases s <;> cases hs
        | further =>
          rw [takeLetters_switch hletter, turnOn_eq, hs] at h
          obtain ⟨g, hg⟩ := exists_taken (isCheck_cons hs isCheck_nil) h
          obtain ⟨items, sequel, hitems⟩ := ih hg
          exact ⟨_, _, .switch hs hletter hitems⟩

/-- A long name that is not at fault spells something. -/
theorem exists_spellsName (h : ∀ f, p.takeName cs ≠ .error (.fault f)) :
    ∃ items sequel, SpellsArgument items sequel ('-' :: '-' :: cs) := by
  have hparts := List.takeWhile_append_dropWhile (p := (· != '=')) (l := cs)
  rw [takeName] at h
  cases hflag : Flag.ofName? (cs.takeWhile (· != '=')) with
  | none => exact absurd (by rw [hflag]; rfl) (h (.unexpected _))
  | some f =>
    rw [hflag] at h
    have hname := Flag.name_of_ofName? hflag
    cases hvalue : cs.dropWhile (· != '=') with
    | nil =>
      rw [hvalue, List.append_nil, ← hname] at hparts
      subst hparts
      cases f with
      | switch s => exact ⟨_, _, .switch s⟩
      | parameter q => exact ⟨_, _, .awaiting q⟩
    | cons c value =>
      rw [hvalue] at h hparts
      cases f with
      | switch s => exact absurd rfl (h _)
      | parameter q =>
        have hhead := List.head?_dropWhile_not (· != '=') cs
        rw [hvalue] at hhead
        obtain rfl : c = '=' := by simpa using hhead
        rw [← hname] at hparts
        subst hparts
        exact ⟨_, _, .equals q value⟩

/-- An argument that is no operand and not at fault spells something. -/
theorem exists_spellsArgument (hoperand : ¬ IsOperand argument)
    (h : ∀ f, p.take argument ≠ .error (.fault f)) :
    ∃ items sequel, SpellsArgument items sequel argument.toList := by
  rw [take] at h
  split at h
  · next cs hcs =>
    rw [hcs]
    exact exists_spellsName h
  · next c cs _ hcs =>
    rw [hcs]
    obtain ⟨items, sequel, hitems⟩ := exists_spellsLetters h
    exact ⟨items, sequel, .letters hitems⟩
  · next hnames hletters =>
    refine absurd ?_ hoperand
    cases hcs : argument.toList with
    | nil =>
      refine Or.inr ?_
      rw [hcs]
      nofun
    | cons c cs =>
      by_cases hc : c = '-'
      · subst hc
        cases cs with
        | nil => exact Or.inl (String.toList_injective hcs)
        | cons c cs => exact absurd hcs (hletters c cs)
      · refine Or.inr ?_
        rw [hcs]
        simpa using hc

/-- What is pending and the arguments that are left spell something. -/
def Completes : Option (Parameter × Option String) → List String → Prop
  | some (_, none), arguments => ∃ value rest items, arguments = value :: rest ∧
      IsOperand value ∧ Spells items rest
  | _, arguments => ∃ items, Spells items arguments

/-- Nothing is missing where what is pending is not at fault. -/
theorem completes_of_settle (h : Spells items arguments)
    (hsettle : ∀ f, p.settle ≠ .error (.fault f)) : Completes p.pending arguments := by
  obtain ⟨g, _ | ⟨q, _ | value⟩⟩ := p
  · exact ⟨items, h⟩
  · exact absurd rfl (hsettle (.valueMissing q))
  · exact ⟨items, h⟩

/-- **Arguments that are not at fault spell something**, together with what is pending. -/
theorem completes_of_takeAll (h : ∀ f, p.takeAll arguments ≠ .error (.fault f)) :
    Completes p.pending arguments := by
  -- along the arguments; the flag of an argument and its value are two steps
  induction arguments generalizing p with
  | nil => exact completes_of_settle .none h
  | cons argument arguments ih =>
    by_cases hhyphens : argument = "--"
    · subst hhyphens
      cases arguments with
      | nil => exact completes_of_settle .hyphens h
      | cons operand arguments => exact absurd rfl (h (.unexpected operand))
    · rw [takeAll_cons hhyphens] at h
      by_cases hoperand : IsOperand argument
      · rw [take_of_isOperand hoperand] at h
        obtain ⟨g, _ | ⟨q, _ | value⟩⟩ := p
        · exact absurd rfl (h (.unexpected argument))
        · obtain ⟨items, hitems⟩ := ih h
          exact ⟨argument, arguments, items, rfl, hoperand, hitems⟩
        · exact absurd rfl (h (.unexpected argument))
      · have htake : ∀ f, p.take argument ≠ .error (.fault f) := by
          intro f hf
          rw [hf] at h
          exact h f rfl
        obtain ⟨items, sequel, hitems⟩ := exists_spellsArgument hoperand htake
        rw [take_of_spells hitems] at h
        have hsettle : ∀ f, p.settle ≠ .error (.fault f) := by
          intro f hf
          rw [takeItems_bind, hf] at h
          exact h f rfl
        cases sequel with
        | anything => exact completes_of_settle (.anything hitems arguments) hsettle
        | further =>
          obtain ⟨g, hg⟩ := exists_taken hitems.follows h
          obtain ⟨more, hmore⟩ := ih hg
          exact completes_of_settle (.further hitems hmore) hsettle
        | value q =>
          obtain ⟨g, hg⟩ := exists_taken hitems.follows h
          obtain ⟨value, rest, more, rfl, hvalue, hmore⟩ := ih hg
          exact completes_of_settle (.value hitems hvalue hmore) hsettle

end Progress

end CommandLine

end IdleStop
