import CliGen.Proofs.Tree.Reading
import Mathlib.Data.List.Nodup

/-!
# Parameters that are read

What holds of one parameter that is read (`Param.Sound`), of the arguments of a command
(`Param.ArgumentsSound`) and of a list of options (`Param.OptionsSound`). A reading is told by its
steps (`Param.read_eq_ok_iff`, `parts_of_readArgument`, `parts_of_readOption`). A list is read one
entry after the other against those before it, so the facts on lists are kept by every step:
`concat` states the step, and `readArguments_ok` and `readOptions_ok` follow by induction.
-/

namespace CliGen

open CliGen.Field Outcome Build

/-- The values of a type. The values of a choice are those that its parameter lists. -/
inductive ParamType.Has : ParamType → Value → Prop where
  | string (s : String) : Has .string (.str s)
  | path (s : String) : Has .path (.str s)
  | boolean (b : Bool) : Has .boolean (.bool b)
  | integer (n : Int) : Has .integer (.int n)
  | whole (n : Int) : Has .float (.int n)
  | float (x : Binary64) : Has .float (.float x)

/-- Scalars are compared either way round. -/
theorem Value.scalarEq_comm (v w : Value) : v.scalarEq w = w.scalarEq v := by
  cases v <;> cases w <;> try rfl
  case float.float x y => simp only [scalarEq, Binary64.sameValue, Bool.and_comm, eq_comm]
  all_goals exact Bool.beq_comm

namespace Param

/-- What holds of every parameter that is read. -/
structure Sound (p : Param) : Prop where
  choices_ne_nil : ∀ vs ∈ p.choices, vs ≠ []
  choices_scalar : ∀ vs ∈ p.choices, ∀ v ∈ vs, v.isScalar = true
  choices_differ : ∀ vs ∈ p.choices, vs.Pairwise fun v w => ¬ v.scalarEq w
  default_mem : ∀ vs ∈ p.choices, ∀ d ∈ p.default, ∃ v ∈ vs, d.scalarEq v
  flag_choices : p.type = .boolean → p.choices = none
  default_type : p.choices = none → ∀ d ∈ p.default, p.type.Has d

/-! ## Choices and defaults -/

/-- A value that is not among some equals none of them. -/
theorem not_isAmong {v : Value} {vs : List Value} (h : ¬ isAmong v vs) :
    ∀ w ∈ vs, ¬ w.scalarEq v := by
  intro w hw heq
  refine h (List.any_eq_true.2 ⟨w, hw, ?_⟩)
  rwa [Value.scalarEq_comm]

/-- Dropping repeated choices keeps the first one of each. -/
theorem distinct_from {kept : List Value} (hkept : kept.Pairwise fun v w => ¬ v.scalarEq w)
    (vs : List Value) :
    let all := vs.foldl (fun kept v => if isAmong v kept then kept else kept ++ [v]) kept
    (all.Pairwise fun v w => ¬ v.scalarEq w) ∧ kept <+: all ∧ all ⊆ kept ++ vs := by
  induction vs generalizing kept with
  | nil => exact ⟨hkept, List.prefix_rfl, by simp⟩
  | cons v vs ih =>
    rw [List.foldl_cons]
    by_cases hv : isAmong v kept
    · rw [if_pos hv]
      obtain ⟨hdiffer, hpre, hsub⟩ := ih hkept
      refine ⟨hdiffer, hpre, fun w hw => ?_⟩
      rcases List.mem_append.1 (hsub hw) with hw | hw
      · exact List.mem_append_left _ hw
      · exact List.mem_append_right _ (List.mem_cons_of_mem _ hw)
    · rw [if_neg hv]
      have hnext : (kept ++ [v]).Pairwise fun v w => ¬ v.scalarEq w := by
        refine List.pairwise_append.2 ⟨hkept, List.pairwise_singleton _ _, ?_⟩
        intro w hw u hu
        rw [List.mem_singleton.1 hu]
        exact not_isAmong hv w hw
      obtain ⟨hdiffer, hpre, hsub⟩ := ih hnext
      rw [List.append_assoc, List.singleton_append] at hsub
      exact ⟨hdiffer, (List.prefix_append kept [v]).trans hpre, hsub⟩

/-- A list that is not empty is not so without repetitions. -/
theorem distinct_ne_nil {vs : List Value} (h : vs ≠ []) : distinct vs ≠ [] := by
  obtain ⟨v, rest, rfl⟩ := List.exists_cons_of_ne_nil h
  have hpre : [v] <+: distinct (v :: rest) :=
    (distinct_from (List.pairwise_singleton (fun v w => ¬ v.scalarEq w) v) rest).2.1
  intro hnil
  rw [hnil] at hpre
  simp at hpre

variable {fields : Fields} {label role name : String} {path : List String}

/-- Nothing is kept that is not listed. -/
theorem distinct_subset (items : List Value) : distinct items ⊆ items := by
  have hnone : ([] : List Value).Pairwise fun v w => ¬ v.scalarEq w := .nil
  exact (distinct_from hnone items).2.2

/-- Choices that are read stand in a list of scalars that is not empty, and each is kept once. -/
theorem listed_of_readChoices {vs : List Value}
    (h : readChoices fields label path = .ok (some vs)) :
    ∃ items, fields.present? "choices" = some (.list items) ∧ vs = distinct items ∧
      items ≠ [] ∧ ∀ v ∈ items, v.isScalar = true := by
  unfold readChoices at h
  split at h
  · cases h
  · simp [refuse] at h
  next items hne hitems =>
    split at h
    next => simp [refuse] at h
    next hscalar =>
      cases h
      refine ⟨items, hitems, rfl, hne, fun v hv => ?_⟩
      simpa using List.find?_eq_none.1 hscalar v hv
  · simp [refuse] at h

/-- Choices that are read are scalars, at least one, and each once. -/
theorem readChoices_ok {choices : Option (List Value)}
    (h : readChoices fields label path = .ok choices) : ∀ vs ∈ choices,
      vs ≠ [] ∧ (∀ v ∈ vs, v.isScalar = true) ∧ vs.Pairwise fun v w => ¬ v.scalarEq w := by
  rintro vs ⟨⟩
  obtain ⟨items, -, rfl, hne, hscalar⟩ := listed_of_readChoices h
  exact ⟨distinct_ne_nil hne, fun v hv => hscalar v (distinct_subset items hv),
    (distinct_from .nil items).1⟩

/-- A default that passes fits the type and is one of the choices. -/
theorem checkDefault_ok {type : ParamType} {choices : Option (List Value)} {default : Option Value}
    (h : checkDefault label path type choices default = .ok ()) : ∀ d ∈ default,
      fits type d = true ∧ ∀ vs ∈ choices, isAmong d vs = true := by
  rintro d ⟨⟩
  dsimp only [checkDefault] at h
  split at h
  next hfits =>
    refine ⟨hfits, ?_⟩
    rintro vs ⟨⟩
    dsimp only at h
    split at h
    next hamong => exact hamong
    next => simp [refuse] at h
  next => simp at h

/-- What fits a type other than a choice is one of its values. -/
theorem has_of_fits {type : ParamType} {v : Value} (htype : type ≠ .choice)
    (h : fits type v = true) : type.Has v := by
  cases type <;> cases v <;> first | exact absurd rfl htype | constructor | cases h

/-- What the steps of a reading find in an entry. `label` is how messages call the parameter. -/
structure Steps (fields : Fields) (label : String) (path : List String) (p : Param) : Prop where
  choices_eq : readChoices fields label path = .ok p.choices
  default_eq : fields.present? "default" = p.default
  type_eq : readType fields label path p.choices p.default = .ok p.type
  choice_listed : p.type = .choice → p.choices ≠ none
  flag_choices : p.type = .boolean → p.choices = none
  default_checked : checkDefault label path p.type p.choices p.default = .ok ()
  description_eq : ∃ text, description? fields path = .ok text ∧
    p.description = Text.trim (text.getD "")

/-- A parameter is what is read exactly if each step finds it. -/
theorem read_eq_ok_iff {required : Bool} {p : Param} : read fields role name path required = .ok p ↔
    p.name = name ∧ p.required = required ∧ Steps fields s!"{role} '{name}'" path p := by
  constructor
  · intro h
    unfold read at h
    simp only [bind_eq_ok] at h
    obtain ⟨choices, hchoices, type, htype, h⟩ := h
    -- A type of choices needs them, and a flag cannot have any.
    split at h
    next => simp at h
    next hlisted =>
    split at h
    next => simp at h
    next hflag =>
    simp only [pure_eq_ok, bind_eq_ok] at h
    obtain ⟨⟨⟩, hdefault, text, htext, h⟩ := h
    cases h
    exact ⟨rfl, rfl, hchoices, rfl, htype, by simpa using hlisted, by simpa using hflag, hdefault,
      text, htext, rfl⟩
  · rintro ⟨rfl, rfl, hchoices, hdefault, htype, hlisted, hflag, hchecked, text, htext,
      hdescription⟩
    have hlisted : ¬ (decide (p.type = .choice) && p.choices.isNone) = true := by
      simpa using hlisted
    have hflag : ¬ (decide (p.type = .boolean) && p.choices.isSome) = true := by simpa using hflag
    simp only [read, hchoices, ok_bind, hdefault, htype, if_neg hlisted, if_neg hflag, pure_eq_ok,
      hchecked, htext, ← hdescription]

/-- What a reading says of a parameter: it is sound, and name and need are those asked for. -/
theorem read_ok {required : Bool} {p : Param} (h : read fields role name path required = .ok p) :
    p.Sound ∧ p.name = name ∧ p.required = required := by
  obtain ⟨hname, hrequired, hsteps⟩ := read_eq_ok_iff.1 h
  have hlisted := readChoices_ok hsteps.choices_eq
  have hfits := checkDefault_ok hsteps.default_checked
  refine ⟨⟨?_, ?_, ?_, ?_, hsteps.flag_choices, ?_⟩, hname, hrequired⟩
  · exact fun vs hvs => (hlisted vs hvs).1
  · exact fun vs hvs => (hlisted vs hvs).2.1
  · exact fun vs hvs => (hlisted vs hvs).2.2
  · intro vs hvs d hd
    exact List.any_eq_true.1 ((hfits d hd).2 vs hvs)
  · intro hnone d hd
    exact has_of_fits (fun htype => hsteps.choice_listed htype hnone) (hfits d hd).1

/-- What is read as the name of a parameter is one. -/
theorem isName_of_readName (h : readName fields role path = .ok name) : isName name = true := by
  obtain ⟨text, -, h⟩ := bind_eq_ok.1 h
  cases text with
  | none => cases h
  | some raw =>
    dsimp only at h
    split at h
    next hname =>
      cases h
      exact hname
    next => cases h

/-! ## Lists of arguments -/

/-- A name is taken if a parameter has its identifier. -/
theorem isTaken_iff {ps : List Param} :
    isTaken name ps = true ↔ Naming.identifier name ∈ ps.map (Naming.identifier ·.name) := by
  simp [isTaken]

/-- What holds of the arguments of a command. -/
structure ArgumentsSound (as : List Argument) : Prop where
  each : ∀ a ∈ as, a.Sound
  required_default : ∀ a ∈ as, a.required = true → a.default = none
  required_first : as.Pairwise fun a b => b.required = true → a.required = true
  identifiers : (as.map (Naming.identifier ·.name)).Nodup

/-- What one more argument may be. -/
structure ArgumentAfter (before : List Argument) (a : Argument) : Prop where
  isName : isName a.name = true
  sound : a.Sound
  required_default : a.required = true → a.default = none
  required_first : a.required = true → ∀ b ∈ before, b.required = true
  identifier_new : Naming.identifier a.name ∉ before.map (Naming.identifier ·.name)

/-- One more sound argument behind sound arguments. -/
theorem ArgumentsSound.concat {before : List Argument} {a : Argument}
    (h : ArgumentsSound before) (ha : ArgumentAfter before a) : ArgumentsSound (before ++ [a]) where
  each := List.forall_mem_append.2 ⟨h.each, List.forall_mem_singleton.2 ha.sound⟩
  required_default :=
    List.forall_mem_append.2 ⟨h.required_default, List.forall_mem_singleton.2 ha.required_default⟩
  required_first := by
    refine List.pairwise_append.2 ⟨h.required_first, List.pairwise_singleton _ _, ?_⟩
    intro b hb c hc
    rw [List.mem_singleton.1 hc]
    exact fun hrequired => ha.required_first hrequired b hb
  identifiers := by
    rw [List.map_append, List.map_singleton]
    exact List.nodup_append.2 ⟨h.identifiers, List.nodup_singleton _, by
      intro i hi j hj heq
      rw [List.mem_singleton.1 hj] at heq
      exact ha.identifier_new (heq ▸ hi)⟩

/-- A parameter is as sound as before when only its need changes. -/
theorem Sound.with_required {p : Param} (h : p.Sound) (required : Bool) :
    ({ p with required } : Param).Sound := by
  obtain ⟨hne, hscalar, hdiffer, hmem, hflag, htype⟩ := h
  exact ⟨hne, hscalar, hdiffer, hmem, hflag, htype⟩

/-- The last check on an argument: a needed one does not follow one that is not. -/
theorem eq_of_check {before : List Argument} {argument a : Argument} {reason : String}
    (needed : Bool) (h : (do
      if needed && before.any (!·.required) then refuse path reason
      return { argument with required := needed }) = (.ok a : Outcome Argument)) :
    a = { argument with required := needed } ∧
      (needed = true → ∀ b ∈ before, b.required = true) := by
  split at h
  next => simp at h
  next hfirst =>
    cases h
    refine ⟨rfl, fun hneeded b hb => ?_⟩
    simp only [hneeded, Bool.true_and, List.any_eq_true, not_exists, not_and] at hfirst
    simpa using hfirst b hb

/-- What an argument is made of: it is read, and then it is settled whether it is needed. Whether or
not a description tells that, a needed one has no default. -/
theorem parts_of_readArgument {before : List Argument} {a : Argument}
    (h : readArgument path before fields = .ok a) : ∃ name argument needed,
      isName name = true ∧ ¬ isTaken name before = true ∧
      read fields "argument" name path true = .ok argument ∧
      (needed = true → argument.default = none) ∧ a = { argument with required := needed } ∧
      (needed = true → ∀ b ∈ before, b.required = true) := by
  unfold readArgument at h
  simp only [bind_eq_ok] at h
  obtain ⟨name, hname, h⟩ := h
  split at h
  next => simp at h
  next hnew =>
  simp only [bind_eq_ok] at h
  obtain ⟨argument, hread, flag, -, h⟩ := h
  obtain ⟨needed, hsettled⟩ : ∃ needed, (needed = true → argument.default = none) ∧
      a = { argument with required := needed } ∧
      (needed = true → ∀ b ∈ before, b.required = true) := by
    split at h
    · split at h
      next => simp at h
      next hnone => exact ⟨true, fun _ => by simpa using hnone, eq_of_check true h⟩
    · rw [pure_bind] at h
      exact ⟨false, by simp, eq_of_check false h⟩
    · rw [pure_bind] at h
      exact ⟨argument.default.isNone, Option.isNone_iff_eq_none.1, eq_of_check _ h⟩
  exact ⟨name, argument, needed, isName_of_readName hname, hnew, hread, hsettled⟩

/-- An argument that is read is sound behind those before it. -/
theorem readArgument_ok {before : List Argument} {a : Argument}
    (h : readArgument path before fields = .ok a) : ArgumentAfter before a := by
  obtain ⟨name, argument, needed, hname, hnew, hread, hdefault, rfl, hfirst⟩ :=
    parts_of_readArgument h
  obtain ⟨hsound, rfl, -⟩ := read_ok hread
  rw [isTaken_iff] at hnew
  exact ⟨hname, hsound.with_required needed, hdefault, hfirst, hnew⟩

/-- The arguments that are read for a command. -/
theorem readArguments_ok {as : List Argument} (h : readArguments fields path = .ok as) :
    ArgumentsSound as := by
  obtain ⟨entries, -, h⟩ := bind_eq_ok.1 h
  refine foldlM_concat_induction ⟨by simp, by simp, by simp, by simp⟩ ?_ h
  exact fun before entry a hbefore ha => hbefore.concat (readArgument_ok ha)

/-- Every argument that is read has a name. -/
theorem isName_of_readArguments {as : List Argument} (h : readArguments fields path = .ok as) :
    ∀ a ∈ as, isName a.name = true := by
  obtain ⟨entries, -, h⟩ := bind_eq_ok.1 h
  refine foldlM_concat_induction (motive := fun as => ∀ a ∈ as, isName a.name = true) (by simp) ?_ h
  intro before entry a hbefore ha
  exact List.forall_mem_append.2
    ⟨hbefore, List.forall_mem_singleton.2 (readArgument_ok ha).isName⟩

/-! ## Lists of options -/

/-- What holds of the options of a command, and of those of the whole command line. -/
structure OptionsSound (os : List NamedOption) : Prop where
  each : ∀ o ∈ os, o.toParam.Sound
  name_ne_help : ∀ o ∈ os, o.name ≠ "help"
  short_ne_h : ∀ o ∈ os, o.short ≠ some 'h'
  shorts : (os.filterMap (·.short)).Nodup
  identifiers : (os.map (Naming.identifier ·.name)).Nodup

/-- What one more option may be. -/
structure OptionAfter (before : List NamedOption) (o : NamedOption) : Prop where
  isName : isName o.name = true
  sound : o.toParam.Sound
  name_ne_help : o.name ≠ "help"
  short_ne_h : o.short ≠ some 'h'
  short_new : ∀ c ∈ o.short, c ∉ before.filterMap (·.short)
  identifier_new : Naming.identifier o.name ∉ before.map (Naming.identifier ·.name)

/-- One more sound option behind sound options. -/
theorem OptionsSound.concat {before : List NamedOption} {o : NamedOption}
    (h : OptionsSound before) (ho : OptionAfter before o) : OptionsSound (before ++ [o]) where
  each := List.forall_mem_append.2 ⟨h.each, List.forall_mem_singleton.2 ho.sound⟩
  name_ne_help :=
    List.forall_mem_append.2 ⟨h.name_ne_help, List.forall_mem_singleton.2 ho.name_ne_help⟩
  short_ne_h :=
    List.forall_mem_append.2 ⟨h.short_ne_h, List.forall_mem_singleton.2 ho.short_ne_h⟩
  shorts := by
    rw [List.filterMap_append]
    refine List.nodup_append.2 ⟨h.shorts, ?_, ?_⟩
    · cases hshort : o.short <;> simp [hshort]
    · intro c hc d hd heq
      have hown : o.short = some d := by simpa using hd
      exact ho.short_new d hown (heq ▸ hc)
  identifiers := by
    rw [List.map_append, List.map_singleton]
    exact List.nodup_append.2 ⟨h.identifiers, List.nodup_singleton _, by
      intro i hi j hj heq
      rw [List.mem_singleton.1 hj] at heq
      exact ho.identifier_new (heq ▸ hi)⟩

/-- What an option is made of: it is read, under a name and with a short form that are free. -/
theorem parts_of_readOption {before : List NamedOption} {o : NamedOption}
    (h : readOption path before fields = .ok o) : ∃ name short env required param,
      isName name = true ∧ name ≠ "help" ∧ ¬ isTaken name (before.map (·.toParam)) = true ∧
      short ≠ some 'h' ∧ (∀ c ∈ short, c ∉ before.filterMap (·.short)) ∧
      read fields "option" name path required = .ok param ∧ o = { param with short, env } := by
  -- What is read behind the short name is the same with one and without.
  have hrest {name : String} {short : Option Char}
      (h : (do
        let env ← text? fields "env" path
        let required ← bool? fields "required" path
        let param ← read fields "option" name path (required.getD false)
        return { param with short, env }) = (.ok o : Outcome NamedOption)) :
      ∃ env required param, read fields "option" name path required = .ok param ∧
        o = { param with short, env } := by
    simp only [bind_eq_ok] at h
    obtain ⟨env, -, required, -, param, hread, h⟩ := h
    cases h
    exact ⟨env, _, param, hread, rfl⟩
  unfold readOption at h
  simp only [bind_eq_ok] at h
  obtain ⟨name, hname, h⟩ := h
  replace hname := isName_of_readName hname
  -- The name is not reserved, and no option before has it.
  split at h
  next => simp at h
  next hhelp =>
  split at h
  next => simp at h
  next hnew =>
  replace hhelp : name ≠ "help" := by simpa using hhelp
  obtain ⟨short, -, h⟩ := bind_eq_ok.1 h
  cases short with
  | none =>
    obtain ⟨env, required, param, hread, ho⟩ := hrest h
    exact ⟨name, none, env, required, param, hname, hhelp, hnew, by simp, by simp, hread, ho⟩
  | some c =>
    dsimp only at h
    -- The short name is not reserved, and no option before has it.
    split at h
    next => simp at h
    next hh =>
    split at h
    next => simp at h
    next hshort =>
    obtain ⟨env, required, param, hread, ho⟩ := hrest h
    refine ⟨name, some c, env, required, param, hname, hhelp, hnew, by simpa using hh, ?_, hread,
      ho⟩
    rintro _ ⟨⟩ hmem
    obtain ⟨o, ho, hc⟩ := List.mem_filterMap.1 hmem
    exact hshort (List.any_eq_true.2 ⟨o, ho, by simp [hc]⟩)

/-- An option that is read is sound behind those before it. -/
theorem readOption_ok {before : List NamedOption} {o : NamedOption}
    (h : readOption path before fields = .ok o) : OptionAfter before o := by
  obtain ⟨name, short, env, required, param, hname, hhelp, hnew, hh, hshort, hread, rfl⟩ :=
    parts_of_readOption h
  obtain ⟨hsound, rfl, -⟩ := read_ok hread
  rw [isTaken_iff, List.map_map] at hnew
  exact ⟨hname, hsound, hhelp, hh, hshort, hnew⟩

/-- The options that are read, for a command or for the whole command line. -/
theorem readOptions_ok {os : List NamedOption} (h : readOptions fields path = .ok os) :
    OptionsSound os := by
  obtain ⟨entries, -, h⟩ := bind_eq_ok.1 h
  refine foldlM_concat_induction ⟨by simp, by simp, by simp, by simp, by simp⟩ ?_ h
  exact fun before entry o hbefore ho => hbefore.concat (readOption_ok ho)

/-- Every option that is read has a name. -/
theorem isName_of_readOptions {os : List NamedOption} (h : readOptions fields path = .ok os) :
    ∀ o ∈ os, isName o.name = true := by
  obtain ⟨entries, -, h⟩ := bind_eq_ok.1 h
  refine foldlM_concat_induction (motive := fun os => ∀ o ∈ os, isName o.name = true) (by simp) ?_ h
  intro before entry o hbefore ho
  exact List.forall_mem_append.2
    ⟨hbefore, List.forall_mem_singleton.2 (readOption_ok ho).isName⟩

end Param

end CliGen
