import CliGen.Proofs.Tree.Entries

/-!
# Choices and the declared type

A parameter may list the only values that it takes. A default has to be a value of the type and one
of the choices; the choices themselves are read as they are listed. So they are values of the type
exactly where the document lists only such values (`CommandTree.choices_admitted_iff`), and an entry
may list values that it could not give as its default.
-/

namespace CliGen

open CliGen.Field Outcome

/-- What a type asks of a value: that it is one of its values. The type that only lists values takes
any scalar. -/
def ParamType.Admits (type : ParamType) (v : Value) : Prop :=
  type.Has v ∨ type = .choice ∧ v.isScalar = true

/-- Scalars that are equal are values of the same types. -/
theorem ParamType.Has.of_scalarEq {type : ParamType} {v w : Value} (hv : type.Has v)
    (h : v.scalarEq w = true) : type.Has w := by
  cases hv <;> cases w <;> first | constructor | cases h

/-- What is equal to a scalar is one. -/
theorem Value.isScalar_of_scalarEq {v w : Value} (h : v.scalarEq w = true)
    (hw : w.isScalar = true) : v.isScalar = true := by
  cases w with
  | null | list | object => cases hw
  | bool | int | float | str => cases v <;> first | rfl | cases h

/-- Equal scalars are admitted alike. -/
theorem ParamType.Admits.of_scalarEq {type : ParamType} {v w : Value} (hv : type.Admits v)
    (h : v.scalarEq w = true) (hw : w.isScalar = true) : type.Admits w :=
  hv.imp (·.of_scalarEq h) fun hchoice => ⟨hchoice.1, hw⟩

/-- Every scalar equals itself. -/
theorem Value.scalarEq_self {v : Value} (h : v.isScalar = true) : v.scalarEq v = true := by
  cases v with
  | null | list | object => cases h
  | bool | int | str => exact beq_self_eq_true _
  | float x => simp [scalarEq, Binary64.sameValue]

/-- Putting a field leaves the others. -/
theorem Fields.present?_put_of_ne {fields : Fields} {key other : String} (h : key ≠ other)
    (v : Value) : (fields.put key v).present? other = fields.present? other := by
  rw [present?, present?, get?_put, if_neg h]

/-- A field that is put is present, unless it is null. -/
theorem Fields.present?_put_self {fields : Fields} {key : String} {v : Value} (hv : v ≠ .null) :
    (fields.put key v).present? key = some v := by
  rw [present?, get?_put, if_pos rfl]
  cases v <;> first | rfl | exact absurd rfl hv

namespace Param

/-- A default has to pass the test of the type, and for scalars that asks what the type asks. -/
theorem fits_iff_admits {type : ParamType} {v : Value} (hv : v.isScalar = true) :
    fits type v = true ↔ type.Admits v := by
  constructor
  · intro h
    by_cases htype : type = .choice
    · exact .inr ⟨htype, hv⟩
    · exact .inl (has_of_fits htype h)
  · rintro (h | ⟨rfl, -⟩)
    · cases h <;> rfl
    · cases v <;> first | rfl | cases hv

/-! ## Choices without repetition -/

/-- Every value that is listed is kept, or one that is equal to it. -/
theorem exists_mem_distinct {items : List Value} (hscalar : ∀ v ∈ items, v.isScalar = true) :
    ∀ v ∈ items, ∃ w ∈ distinct items, v.scalarEq w = true := by
  -- The values that are kept so far matter, so the statement is one for all of them.
  suffices hfrom : ∀ (kept : List Value) (v : Value),
      (v ∈ items ∨ ∃ w ∈ kept, v.scalarEq w = true) →
        ∃ w ∈ items.foldl (fun kept v => if isAmong v kept then kept else kept ++ [v]) kept,
          v.scalarEq w = true from
    fun v hv => hfrom [] v (.inl hv)
  induction items with
  | nil => exact fun kept v h => h.resolve_left List.not_mem_nil
  | cons u us ih =>
    rw [List.forall_mem_cons] at hscalar
    intro kept v h
    rw [List.foldl_cons]
    by_cases hu : isAmong u kept
    · rw [if_pos hu]
      refine ih hscalar.2 kept v ?_
      rcases h with h | h
      · rcases List.mem_cons.1 h with rfl | h
        · exact .inr (List.any_eq_true.1 hu)
        · exact .inl h
      · exact .inr h
    · rw [if_neg hu]
      refine ih hscalar.2 (kept ++ [u]) v ?_
      rcases h with h | ⟨w, hw, heq⟩
      · rcases List.mem_cons.1 h with rfl | h
        · exact .inr ⟨v, by simp, Value.scalarEq_self hscalar.1⟩
        · exact .inl h
      · exact .inr ⟨w, List.mem_append_left _ hw, heq⟩

/-- A type admits all choices exactly if it is the one that only lists values, or all that is listed
are values of the type. -/
theorem admits_distinct_iff {type : ParamType} {items : List Value}
    (hscalar : ∀ v ∈ items, v.isScalar = true) :
    (∀ v ∈ distinct items, type.Admits v) ↔ type = .choice ∨ ∀ v ∈ items, type.Has v := by
  constructor
  · intro h
    by_cases htype : type = .choice
    · exact .inl htype
    · refine .inr fun v hv => ?_
      obtain ⟨w, hw, heq⟩ := exists_mem_distinct hscalar v hv
      have hhas : type.Has w := (h w hw).resolve_right fun hchoice => htype hchoice.1
      exact hhas.of_scalarEq (Value.scalarEq_comm v w ▸ heq)
  · rintro (rfl | h) v hv
    · exact .inr ⟨rfl, hscalar v (distinct_subset items hv)⟩
    · exact .inl (h v (distinct_subset items hv))

/-! ## What an entry says of choices -/

variable {fields : Fields} {label : String} {path : List String} {p : Param} {vs : List Value}
  {v : Value}

/-- Beside choices, the type is the one that the entry declares, or the one that only lists
values. -/
theorem declared_of_readType {default : Option Value} {type : ParamType}
    (h : readType fields label path (some vs) default = .ok type) :
    (∃ word, fields.present? "type" = some (.str word) ∧ ParamType.parse? word = some type) ∨
      fields.present? "type" = none ∧ type = .choice := by
  unfold readType text? at h
  cases hfound : fields.present? "type" with
  | none =>
    rw [hfound] at h
    cases h
    exact .inr ⟨rfl, rfl⟩
  | some found =>
    rw [hfound] at h
    cases found with
    | str word =>
      rw [ok_bind] at h
      dsimp only at h
      split at h
      next type hparse =>
        cases h
        exact .inl ⟨word, rfl, hparse⟩
      next => cases h
    | _ => cases h

/-- Beside choices, the type does not depend on the default. -/
theorem readType_congr {fields' : Fields} (h : fields'.present? "type" = fields.present? "type")
    (default' default : Option Value) :
    readType fields' label path (some vs) default' =
      readType fields label path (some vs) default := by
  unfold readType
  simp only [text?_congr h, Option.isSome_some, if_true]

/-- One of the choices passes as a default exactly if it passes the test of the type. -/
theorem checkDefault_eq_ok_iff {type : ParamType} (hv : isAmong v vs = true) :
    checkDefault label path type (some vs) (some v) = .ok () ↔ fits type v = true := by
  constructor
  · exact fun h => (checkDefault_ok h v rfl).1
  · intro h
    simp only [checkDefault, h, hv, if_true]
    rfl

/-- An entry that is given another default is read as before, if the default passes. -/
theorem Steps.put_default (h : Steps fields label path p) (hvs : p.choices = some vs)
    (hv : v ≠ .null) (hpasses : checkDefault label path p.type p.choices (some v) = .ok ()) :
    Steps (fields.put "default" v) label path { p with default := some v } where
  choices_eq := by
    rw [readChoices, Fields.present?_put_of_ne (by decide)]
    exact h.choices_eq
  default_eq := Fields.present?_put_self hv
  type_eq := by
    have hsame : (fields.put "default" v).present? "type" = fields.present? "type" :=
      Fields.present?_put_of_ne (by decide) v
    have htype := h.type_eq
    rw [hvs] at htype ⊢
    exact (readType_congr hsame (some v) p.default).trans htype
  choice_listed := h.choice_listed
  flag_choices := h.flag_choices
  default_checked := hpasses
  description_eq := by
    have hkeys : ∀ key ∈ ["desc", "description"],
        (fields.put "default" v).present? key = fields.present? key := by
      intro key hkey
      refine Fields.present?_put_of_ne ?_ v
      rintro rfl
      simp at hkey
    rw [description?_congr hkeys]
    exact h.description_eq

/-- A choice can be the default of its parameter exactly if the type admits it. -/
theorem readFrom_put_default_iff (h : ReadFrom fields p) (hvs : p.choices = some vs)
    (hv : v ∈ vs) (hscalar : v.isScalar = true) :
    ReadFrom (fields.put "default" v) { p with default := some v } ↔ p.type.Admits v := by
  have hamong : isAmong v vs = true := List.any_eq_true.2 ⟨v, hv, Value.scalarEq_self hscalar⟩
  rw [← fits_iff_admits hscalar]
  constructor
  · intro hput
    obtain ⟨role, path, hsteps⟩ := readFrom_iff.1 hput
    exact (checkDefault_ok hsteps.default_checked v rfl).1
  · intro hfits
    obtain ⟨role, path, hsteps⟩ := readFrom_iff.1 h
    have hnull : v ≠ .null := by
      rintro rfl
      cases hscalar
    refine readFrom_iff.2 ⟨role, path, hsteps.put_default hvs hnull ?_⟩
    rw [hvs]
    exact (checkDefault_eq_ok_iff hamong).2 hfits

end Param

namespace CommandTree

/-- **Which choices are values of the declared type.** Every parameter of a tree that has choices is
read from an entry that lists them, and that declares the type unless it is the one that only lists
values. The type admits a choice exactly if the entry can give it as the default: it is then read as
the same parameter with that default. The type admits all choices exactly if it is the one that only
lists values, or all that the entry lists are values of the type. If there is a default, the type
admits it, and with it a choice that is equal. -/
theorem choices_admitted_iff {maxDepth : Nat} {document : Value} {t : CommandTree}
    (h : build maxDepth document = .ok t) :
    List.Forall₂ (fun fields p => ∀ vs ∈ p.choices, ∃ items,
        fields.present? "choices" = some (.list items) ∧ vs = Param.distinct items ∧
        ((∃ word, fields.present? "type" = some (.str word) ∧
            ParamType.parse? word = some p.type) ∨
          fields.present? "type" = none ∧ p.type = .choice) ∧
        (∀ v ∈ vs, p.type.Admits v ↔
          Param.ReadFrom (fields.put "default" v) { p with default := some v }) ∧
        ((∀ v ∈ vs, p.type.Admits v) ↔ p.type = .choice ∨ ∀ v ∈ items, p.type.Has v) ∧
        ∀ d ∈ p.default, p.type.Admits d ∧ ∃ v ∈ vs, d.scalarEq v = true ∧ p.type.Admits v)
      document.parameterEntries t.parameters := by
  refine (readFrom_of_build h).imp fun fields p hread vs hvs => ?_
  obtain ⟨role, path, hsteps⟩ := Param.readFrom_iff.1 hread
  have hchoices := hsteps.choices_eq
  have htype := hsteps.type_eq
  have hdefault := hsteps.default_checked
  rw [hvs] at hchoices htype hdefault
  obtain ⟨items, hitems, rfl, -, hlisted⟩ := Param.listed_of_readChoices hchoices
  have hscalar : ∀ v ∈ Param.distinct items, v.isScalar = true :=
    fun v hv => hlisted v (Param.distinct_subset items hv)
  refine ⟨items, hitems, rfl, Param.declared_of_readType htype, fun v hv => ?_,
    Param.admits_distinct_iff hlisted, fun d hd => ?_⟩
  · exact (Param.readFrom_put_default_iff hread hvs hv (hscalar v hv)).symm
  · obtain ⟨hfits, hamong⟩ := Param.checkDefault_ok hdefault d hd
    obtain ⟨v, hv, heq⟩ := List.any_eq_true.1 (hamong _ rfl)
    have hadmits : p.type.Admits d :=
      (Param.fits_iff_admits (Value.isScalar_of_scalarEq heq (hscalar v hv))).1 hfits
    exact ⟨hadmits, v, hv, heq, hadmits.of_scalarEq heq (hscalar v hv)⟩

/-- An option that takes any of some scalars, an argument that takes one of two numbers, and an
option that takes a number or a word. -/
def gradedEntries : List Fields := [
  [("name", .str "color"), ("type", .str "Enum"),
    ("choices", .list [.str "auto", .int 256, .bool false])],
  [("name", .str "level"), ("type", .str "int"), ("default", .int 2),
    ("choices", .list [.int 1, .int 2, .int 1])],
  [("name", .str "ratio"), ("type", .str "number"),
    ("choices", .list [.int 1, .str "max"])]]

/-- A description with these three parameters, the first for the whole command line. -/
def graded : Value := .object [
  ("name", .str "tool"),
  ("options", .list ((gradedEntries.take 1).map .object)),
  ("commands", .object [
    ("run", .object [("desc", .str "Run it"),
      ("args", .list (((gradedEntries.drop 1).take 1).map .object)),
      ("options", .list ((gradedEntries.drop 2).map .object))])])]

/-- Choices of three types, of which only the last do not fit their type. -/
theorem choices_admitted_iff_graded : ∃ t color level ratio, build 16 graded = .ok t ∧
    t.parameters = [color, level, ratio] ∧
    (color.type = .choice ∧ ∃ vs ∈ color.choices, ∀ v ∈ vs, color.type.Admits v) ∧
    (level.type = .integer ∧ ∃ vs ∈ level.choices, ∀ v ∈ vs, level.type.Admits v) ∧
    ratio.type = .float ∧ ∃ vs ∈ ratio.choices, ¬ ∀ v ∈ vs, ratio.type.Admits v := by
  have hbuilt : (build 16 graded).toOption.any (fun t =>
      t.parameters.map (fun p => (p.type, p.choices.isSome)) =
        [(.choice, true), (.integer, true), (.float, true)]) = true := by
    decide +kernel
  simp only [Option.any_eq_true, Outcome.toOption_eq_some, decide_eq_true_eq] at hbuilt
  obtain ⟨t, ht, htypes⟩ := hbuilt
  have hentries : graded.parameterEntries = gradedEntries := by cbv
  have hall := choices_admitted_iff ht
  rw [hentries] at hall
  obtain ⟨color, _, hcolor, hbelow, hparameters⟩ := List.forall₂_cons_left_iff.1 hall
  obtain ⟨level, _, hlevel, hoptions, rfl⟩ := List.forall₂_cons_left_iff.1 hbelow
  obtain ⟨ratio, _, hratio, hnone, rfl⟩ := List.forall₂_cons_left_iff.1 hoptions
  rw [List.forall₂_nil_left_iff.1 hnone] at hparameters
  rw [hparameters] at htypes
  simp only [List.map_cons, List.map_nil, List.cons.injEq, Prod.mk.injEq, and_true,
    Option.isSome_iff_exists] at htypes
  obtain ⟨⟨hchoice, colors, hcolors⟩, ⟨hinteger, levels, hlevels⟩, hfloat, ratios, hratios⟩ :=
    htypes
  refine ⟨t, color, level, ratio, ht, hparameters, ⟨hchoice, colors, hcolors, ?_⟩,
    ⟨hinteger, levels, hlevels, ?_⟩, hfloat, ratios, hratios, fun hadmitted => ?_⟩
  · obtain ⟨items, -, -, -, -, hiff, -⟩ := hcolor colors hcolors
    exact hiff.2 (.inl hchoice)
  · obtain ⟨items, hitems, -, -, -, hiff, -⟩ := hlevel levels hlevels
    obtain rfl : [.int 1, .int 2, .int 1] = items := by
      simpa [Fields.present?, Fields.get?] using hitems
    rw [hinteger] at hiff ⊢
    refine hiff.2 (.inr fun v hv => ?_)
    simp only [List.mem_cons, List.not_mem_nil, or_false] at hv
    rcases hv with rfl | rfl | rfl <;> constructor
  · obtain ⟨items, hitems, -, -, -, hiff, -⟩ := hratio ratios hratios
    obtain rfl : [.int 1, .str "max"] = items := by
      simpa [Fields.present?, Fields.get?] using hitems
    rw [hfloat] at hiff hadmitted
    have hhas := (hiff.1 hadmitted).resolve_left (by decide) (.str "max") (by simp)
    cases hhas

/-- The entry of an option whose type is told, and that lists words beside it. -/
def leveled : Fields :=
  [("name", .str "level"), ("type", .str "int"), ("choices", .list [.str "low", .str "high"])]

/-- A command with that option. -/
def mistyped : Value := .object [
  ("name", .str "x"),
  ("commands", .object [
    ("run", .object [("desc", .str "Run it"), ("options", .list [.object leveled])])])]

/-- The option is to be a number, and its choices are words. -/
theorem choices_not_admitted_mistyped : ∃ t p, build 16 mistyped = .ok t ∧ t.parameters = [p] ∧
    Param.ReadFrom leveled p ∧ p.type = .integer ∧
    p.choices = some [.str "low", .str "high"] ∧ ∀ v ∈ [.str "low", .str "high"],
      Param.fits p.type v = false ∧ ¬ p.type.Admits v := by
  have hbuilt : (build 16 mistyped).toOption.any (fun t => t.parameters.map (·.type) = [.integer]) =
      true := by
    decide +kernel
  simp only [Option.any_eq_true, Outcome.toOption_eq_some, decide_eq_true_eq] at hbuilt
  obtain ⟨t, ht, htypes⟩ := hbuilt
  have hentries : mistyped.parameterEntries = [leveled] := by cbv
  have hall := readFrom_of_build ht
  rw [hentries] at hall
  obtain ⟨p, _, hread, hnone, hparameters⟩ := List.forall₂_cons_left_iff.1 hall
  rw [List.forall₂_nil_left_iff.1 hnone] at hparameters
  rw [hparameters] at htypes
  have htype : p.type = .integer := (List.cons.inj htypes).1
  obtain ⟨role, path, hsteps⟩ := Param.readFrom_iff.1 hread
  have hchoices : Param.readChoices leveled s!"{role} '{p.name}'" path =
      .ok (some [.str "low", .str "high"]) := by
    rfl
  rw [hsteps.choices_eq] at hchoices
  refine ⟨t, p, ht, hparameters, hread, htype, Except.ok.inj hchoices, fun v hv => ?_⟩
  have hscalar : v.isScalar = true ∧ Param.fits .integer v = false := by
    simp only [List.mem_cons, List.not_mem_nil, or_false] at hv
    rcases hv with rfl | rfl <;> exact ⟨rfl, rfl⟩
  rw [htype, ← Param.fits_iff_admits hscalar.1, hscalar.2]
  exact ⟨rfl, Bool.false_ne_true⟩

end CommandTree

end CliGen
