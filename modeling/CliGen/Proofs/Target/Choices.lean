import CliGen.Proofs.Target.Declarers
import CliGen.Proofs.Target.Literals

/-!
# Choices in generated code

A parameter may list the only values that it takes. A program restricts the parameter to the texts
of these values, in their order, and gives its default as a text (`ChoiceStyle`): a string stands
for itself, and any other value for its JSON text.

Every target does so for parameters of the type that only lists values; the Python target does it
for no other type (`ChoiceStyle.choices_declared`). A default is one of the texts, unless it is a
floating-point zero and only the zero of opposite sign is listed.
-/

namespace CliGen

open Target Template Literal

/-- How a target lists the only values of a parameter and gives its default: the language of the
texts, and what stands around them. -/
structure ChoiceStyle where
  language : Language
  list : String × String
  default : String × String

namespace ChoiceStyle

/-- A declaration restricts its parameter to some texts. -/
def Restricts (s : ChoiceStyle) (d : Declaration) (texts : List String) : Prop :=
  ∃ source, d.values = s.list.1 ++ source ++ s.list.2 ∧ s.language.array? source = some texts

/-- A declaration gives its parameter a text as its default. -/
def Sets (s : ChoiceStyle) (d : Declaration) (text : String) : Prop :=
  ∃ source, d.default = s.default.1 ++ source ++ s.default.2 ∧
    s.language.text? source = some text

/-- The style of Python programs. -/
def python : ChoiceStyle := ⟨.python, ("click.Choice(", ")"), (", default=", "")⟩

/-- The style of Node.js and TypeScript programs. -/
def javaScript : ChoiceStyle := ⟨.javaScript, (".choices(", ")"), (".default(", ")")⟩

/-- The style of Rust programs. -/
def rust : ChoiceStyle :=
  ⟨.rust, ("PossibleValuesParser::new(", ")"), ("\n            .default_value(", ")")⟩

/-- The targets with the styles of their programs. -/
def builtin : List (Declarer × ChoiceStyle) :=
  [(.python, python), (.javascript .plain, javaScript), (.javascript .typed, javaScript),
    (.rust, rust)]

/-- Every target has a style. -/
theorem map_fst_builtin : builtin.map (·.1) = Declarer.builtin := rfl

/-- Styles belong to targets that there are. -/
theorem blueprint_mem_builtin {v : Declarer} {s : ChoiceStyle} (h : (v, s) ∈ builtin) :
    v.cover.blueprint ∈ Blueprint.builtin := by
  have hmap : builtin.map (·.1.cover.blueprint) = Blueprint.builtin := rfl
  exact hmap ▸ List.mem_map_of_mem (f := (·.1.cover.blueprint)) h

/-! ## Lists of texts -/

/-- A list of texts is read back from its literal in Python. -/
theorem python_array? (ss : List String) :
    Language.python.array? (Python.literal (.list (ss.map .str))) = some ss := by
  rw [Python.literal, python_literals]
  exact Language.array?_intercalate python_writes
    (fun rest => (Language.python.tokens_comma rest).2) ss

/-- A list of texts is read back from its literal in JavaScript. -/
theorem javaScript_array? (ss : List String) :
    Language.javaScript.array? (JavaScript.literal (.list (ss.map .str))) = some ss := by
  rw [JavaScript.literal, Value.compact, compactItems_str]
  exact Language.array?_intercalate javaScript_writes
    (fun rest => (Language.javaScript.tokens_comma rest).1) ss

/-- Values are listed in Rust by the texts they are shown as. -/
theorem rust_array? (vs : List Value) :
    Language.rust.array? (Rust.slice vs) = some (vs.map Value.display) := by
  have hmap : vs.map Rust.literal =
      (vs.map Value.display).map (quoted (Rust.encodeChar '"')) := by
    rw [List.map_map]
    rfl
  rw [Rust.slice, hmap]
  exact Language.array?_intercalate rust_writes
    (fun rest => (Language.rust.tokens_comma rest).2) (vs.map Value.display)

/-! ## What declarations say -/

/-- Declarations in a style, made of what is told of parameters: those of some types restrict their
parameters to their choices, and all give a default as its text. -/
structure Keeps (s : ChoiceStyle) (restricted : ParamType → Prop) (declare : Value → Declaration) :
    Prop where
  restricts_iff : ∀ {p : Param} {value vs}, p.ToldBy value → p.choices = some vs →
    p.type ≠ .boolean → (s.Restricts (declare value) (vs.map Value.display) ↔ restricted p.type)
  sets : ∀ {p : Param} {value vs d}, p.ToldBy value → p.choices = some vs → p.type ≠ .boolean →
    p.default = some d → d ≠ .null → s.Sets (declare value) d.display

/-- Which types are restricted can be told in other words. -/
theorem Keeps.congr {s : ChoiceStyle} {restricted restricted' : ParamType → Prop}
    {declare : Value → Declaration} (h : s.Keeps restricted declare)
    (hiff : ∀ type, restricted type ↔ restricted' type) : s.Keeps restricted' declare where
  restricts_iff htold hvs htype := (h.restricts_iff htold hvs htype).trans (hiff _)
  sets := h.sets

/-- The Python target lists the values of the type that has no others. -/
private theorem python_typeOf {p : Param} {value : Value} {vs : List Value} (h : p.ToldBy value)
    (hvs : p.choices = some vs) (htype : p.type ≠ .boolean) :
    (∃ source, Python.typeOf value = "click.Choice(" ++ source ++ ")" ∧
      Language.python.array? source = some (vs.map Value.display)) ↔ p.type = .choice := by
  have hitems : (value.itemsAt "choices").map Python.choiceText =
      (vs.map Value.display).map .str := by
    rw [(h.choices hvs).1, List.map_map]
    rfl
  -- The types of all other parameters begin in another way than a list of choices.
  have hword (word : String) (hword : word.toList.take 13 ≠ "click.Choice(".toList) :
      ¬ ∃ source, word = "click.Choice(" ++ source ++ ")" ∧
        Language.python.array? source = some (vs.map Value.display) := by
    rintro ⟨source, rfl, -⟩
    exact hword (by simp)
  rw [Python.typeOf, if_neg (by simp [(h.not_flag htype).1]), h.type_eq]
  cases htype' : p.type with
  | boolean => exact absurd htype' htype
  | choice =>
    refine iff_of_true ⟨_, rfl, ?_⟩ rfl
    rw [hitems]
    exact python_array? _
  | string => exact iff_of_false (hword "str" (by decide)) nofun
  | integer => exact iff_of_false (hword "int" (by decide)) nofun
  | float => exact iff_of_false (hword "float" (by decide)) nofun
  | path => exact iff_of_false (hword "click.Path()" (by decide)) nofun

/-- Every parameter with choices gives its default as a text. -/
private theorem python_default {p : Param} {value d : Value} {vs : List Value} (h : p.ToldBy value)
    (hvs : p.choices = some vs) (hd : p.default = some d) : ∃ source,
    (if isTrue (value.field "has_default") then ", default=" ++ Python.defaultOf value else "") =
      ", default=" ++ source ++ "" ∧ Language.python.text? source = some d.display := by
  rw [if_pos (h.default hd).2, Python.defaultOf, if_pos (h.choices hvs).2.1, (h.default hd).1]
  exact ⟨_, String.append_empty.symm, (Language.denotes python_writes d.display).text?_eq⟩

/-- Python restricts arguments of the type for choices, and no others. -/
theorem python_keeps_argument : python.Keeps (· = .choice) Declarer.Python.argument where
  restricts_iff := python_typeOf
  sets h hvs _ hd _ := python_default h hvs hd

/-- So it does with options. -/
theorem python_keeps_option : python.Keeps (· = .choice) Declarer.Python.option where
  restricts_iff := python_typeOf
  sets h hvs _ hd _ := python_default h hvs hd

private theorem javaScript_choices {p : Param} {value : Value} {vs : List Value}
    (h : p.ToldBy value) (hvs : p.choices = some vs) : ∃ source,
    (if isTrue (value.field "has_choices") then ".choices(" ++ JavaScript.choicesOf value ++ ")"
      else "") = ".choices(" ++ source ++ ")" ∧
      Language.javaScript.array? source = some (vs.map Value.display) := by
  have hitems : (value.itemsAt "choices").map (fun v => .str v.display) =
      (vs.map Value.display).map Value.str := by
    rw [(h.choices hvs).1, List.map_map]
    rfl
  rw [if_pos (h.choices hvs).2.2, JavaScript.choicesOf, hitems]
  exact ⟨_, rfl, javaScript_array? _⟩

private theorem javaScript_default {p : Param} {value d : Value} {vs : List Value}
    (h : p.ToldBy value) (hvs : p.choices = some vs) (hd : p.default = some d) : ∃ source,
    (if isTrue (value.field "has_default") then ".default(" ++ JavaScript.defaultOf value ++ ")"
      else "") = ".default(" ++ source ++ ")" ∧
      Language.javaScript.text? source = some d.display := by
  rw [if_pos (h.default hd).2, JavaScript.defaultOf, if_pos (h.choices hvs).2.1, (h.default hd).1]
  exact ⟨_, rfl, (Language.denotes javaScript_writes d.display).text?_eq⟩

/-- JavaScript restricts arguments of every type. -/
theorem javaScript_keeps_argument :
    javaScript.Keeps (fun _ => True) Declarer.JavaScript.argument where
  restricts_iff h hvs _ := iff_of_true (javaScript_choices h hvs) trivial
  sets h hvs _ hd _ := javaScript_default h hvs hd

/-- So it does with options. -/
theorem javaScript_keeps_option :
    javaScript.Keeps (fun _ => True) Declarer.JavaScript.option where
  restricts_iff h hvs _ := iff_of_true (javaScript_choices h hvs) trivial
  sets h hvs _ hd _ := javaScript_default h hvs hd

private theorem rust_parserOf {p : Param} {value : Value} {vs : List Value} (h : p.ToldBy value)
    (hvs : p.choices = some vs) : ∃ source,
    Rust.parserOf value = "PossibleValuesParser::new(" ++ source ++ ")" ∧
      Language.rust.array? source = some (vs.map Value.display) := by
  rw [Rust.parserOf, h.choices_eq, Wording.choices, hvs]
  exact ⟨_, rfl, rust_array? vs⟩

private theorem rust_default {p : Param} {value d : Value} (h : p.ToldBy value)
    (htype : p.type ≠ .boolean) (hd : p.default = some d) (hnull : d ≠ .null) : ∃ source,
    Rust.defaultCall value = "\n            .default_value(" ++ source ++ ")" ∧
      Language.rust.text? source = some d.display :=
  ⟨_, Declarer.Rust.defaultCall_eq h htype hd hnull,
    (Language.denotes rust_writes d.display).text?_eq⟩

/-- Rust restricts arguments of every type. -/
theorem rust_keeps_argument : rust.Keeps (fun _ => True) Declarer.Rust.argument where
  restricts_iff h hvs _ := iff_of_true (rust_parserOf h hvs) trivial
  sets h _ htype hd hnull := rust_default h htype hd hnull

/-- So it does with options, below commands and above them. -/
theorem rust_keeps_option (everywhere : Bool) :
    rust.Keeps (fun _ => True) (Declarer.Rust.option everywhere) where
  restricts_iff {p value vs} h hvs htype := by
    refine iff_of_true ?_ trivial
    have hvalues : (Declarer.Rust.option everywhere value).values = Rust.parserOf value :=
      if_neg (by simp [(h.not_flag htype).2])
    rw [Restricts, hvalues]
    exact rust_parserOf h hvs
  sets h _ htype hd hnull := rust_default h htype hd hnull

/-! ## Programs -/

/-- Scalars of one value are the same, but for the sign of a zero. -/
theorem eq_or_zeros {d v : Value} (h : d.scalarEq v = true) (hv : v.isScalar = true) :
    d = v ∨ ∃ b, d = .float (.zero b) ∧ v = .float (.zero !b) := by
  have hzero (x : Binary64) (hx : x.mantissa = 0) : x = .zero x.negative := by
    obtain ⟨negative, mantissa, exponent, hcanonical⟩ := x
    obtain rfl : mantissa = 0 := hx
    obtain rfl : exponent = -1074 := hcanonical.2.2.2.resolve_left (by decide)
    rfl
  -- Only numbers with a point are compared by their values, and a value other than zero has one
  -- form.
  cases v with
  | null | list | object => cases hv
  | bool | int | str => cases d <;> simp_all [Value.scalarEq]
  | float y =>
    cases d with
    | null | bool | int | str | list | object => cases h
    | float x =>
      rw [Value.scalarEq, Binary64.sameValue, Bool.or_eq_true, Bool.and_eq_true, beq_iff_eq,
        beq_iff_eq, decide_eq_true_eq] at h
      rcases h with ⟨hx, hy⟩ | rfl
      · rw [hzero x hx, hzero y hy]
        by_cases hsign : x.negative = y.negative
        · exact .inl (by rw [hsign])
        · exact .inr ⟨x.negative, rfl, by rw [Bool.eq_not_of_ne (Ne.symm hsign)]⟩
      · exact .inl rfl

variable {v : Declarer} {s : ChoiceStyle}

/-- All targets but one restrict all parameters that have choices. -/
theorem keeps_of_mem_builtin (h : (v, s) ∈ builtin) :
    let restricted (type : ParamType) := v.cover.blueprint.target.id ≠ "python" ∨ type = .choice
    s.Keeps restricted v.argument ∧ ∀ everywhere, s.Keeps restricted (v.option everywhere) := by
  intro restricted
  simp only [builtin, List.mem_cons, Prod.mk.injEq, List.not_mem_nil, or_false] at h
  rcases h with ⟨rfl, rfl⟩ | ⟨rfl, rfl⟩ | ⟨rfl, rfl⟩ | ⟨rfl, rfl⟩
  · have hchoice (type : ParamType) : type = .choice ↔ restricted type :=
      (or_iff_right (not_not_intro rfl)).symm
    exact ⟨python_keeps_argument.congr hchoice, fun _ => python_keeps_option.congr hchoice⟩
  · have hall (type : ParamType) : True ↔ restricted type := iff_of_true trivial (.inl (by decide))
    exact ⟨javaScript_keeps_argument.congr hall, fun _ => javaScript_keeps_option.congr hall⟩
  · have hall (type : ParamType) : True ↔ restricted type := iff_of_true trivial (.inl (by decide))
    exact ⟨javaScript_keeps_argument.congr hall, fun _ => javaScript_keeps_option.congr hall⟩
  · have hall (type : ParamType) : True ↔ restricted type := iff_of_true trivial (.inl (by decide))
    exact ⟨rust_keeps_argument.congr hall, fun e => (rust_keeps_option e).congr hall⟩

/-- **Choices in programs.** The program declares every parameter of the tree. Where a parameter
lists the only values that it takes, its declaration restricts it to their texts in their order:
in Python if its type is the one that only lists values, and elsewhere whatever its type. The
default is given as its text, and that is one of these texts, unless the default is a floating-point
zero and the zero of opposite sign is listed in its place. -/
theorem choices_declared_iff (hv : (v, s) ∈ builtin) {maxDepth : Nat} {document : Value}
    {t : CommandTree} (hbuild : CommandTree.build maxDepth document = .ok t)
    {options : RenderOptions} {files : List Artifact}
    (h : Registry.builtin.render t options v.cover.blueprint.target.id = .ok files) :
    ∃ a ∈ files, a.kind = .entryPoint ∧ ∀ q ∈ v.ofTree t, ∀ vs ∈ q.1.choices,
      Holds a.content q.2.text ∧
      (s.Restricts q.2 (vs.map Value.display) ↔
        v.cover.blueprint.target.id ≠ "python" ∨ q.1.type = .choice) ∧
      ∀ d ∈ q.1.default, s.Sets q.2 d.display ∧
        (d.display ∈ vs.map Value.display ∨
          ∃ b, d = .float (.zero b) ∧ .float (.zero !b) ∈ vs) := by
  have hdeclarer : v ∈ Declarer.builtin := map_fst_builtin ▸ List.mem_map_of_mem hv
  obtain ⟨a, ha, hkind, hheld⟩ := Declarer.exists_program hdeclarer hbuild h
  refine ⟨a, ha, hkind, fun q hq vs hvs => ⟨hheld q hq, ?_⟩⟩
  obtain ⟨hsound, value, htold, hdeclared⟩ := Declarer.exists_toldBy hbuild hq
  have hkeeps : ∃ declare, q.2 = declare value ∧ s.Keeps
      (fun type => v.cover.blueprint.target.id ≠ "python" ∨ type = .choice) declare := by
    obtain ⟨hargument, hoption⟩ := keeps_of_mem_builtin hv
    rcases hdeclared with hdeclared | ⟨everywhere, hdeclared⟩
    · exact ⟨_, hdeclared, hargument⟩
    · exact ⟨_, hdeclared, hoption everywhere⟩
  obtain ⟨declare, hdeclare, hkeeps⟩ := hkeeps
  -- A flag has no choices.
  have htype : q.1.type ≠ .boolean := fun htype => by
    rw [hsound.flag_choices htype] at hvs
    cases hvs
  rw [hdeclare]
  refine ⟨hkeeps.restricts_iff htold hvs htype, fun d hd => ?_⟩
  obtain ⟨choice, hchoice, heq⟩ := hsound.default_mem vs hvs d hd
  have hscalar := hsound.choices_scalar vs hvs choice hchoice
  -- A default equals a choice, but a zero may do so with the other sign.
  rcases eq_or_zeros heq hscalar with rfl | ⟨b, rfl, rfl⟩
  · have hnull : d ≠ .null := by
      rintro rfl
      cases hscalar
    exact ⟨hkeeps.sets htold hvs htype hd hnull, .inl (List.mem_map_of_mem hchoice)⟩
  · exact ⟨hkeeps.sets htold hvs htype hd nofun, .inr ⟨b, rfl, hchoice⟩⟩

/-- A command with an option that takes two words. -/
def choosing : Value := .object [
  ("name", .str "x"),
  ("commands", .object [
    ("run", .object [("desc", .str "Run it"),
      ("options", .list [.object [("name", .str "level"), ("type", .str "string"),
        ("choices", .list [.str "low", .str "high"]), ("default", .str "low")]])])])]

/-- It is rendered for all targets. -/
private theorem exists_render_choosing : ∃ t, CommandTree.build 2 choosing = .ok t ∧
    ∀ w ∈ Blueprint.builtin, ∃ files,
      Registry.builtin.render t ⟨3, 2⟩ w.target.id = .ok files := by
  have hbuilt : (CommandTree.build 2 choosing).toOption.any (fun t =>
      t.maxDepth ≤ 2 ∧ ∀ w ∈ Blueprint.builtin,
        (Hook.Index.build t (.make w.target.naming 3)).toBool = true) = true := by
    decide +kernel
  simp only [Option.any_eq_true, Outcome.toOption_eq_some, decide_eq_true_eq] at hbuilt
  obtain ⟨t, ht, hfits, hindex⟩ := hbuilt
  exact ⟨t, ht, fun w hw => Blueprint.exists_render hw ht (hindex w hw) hfits⟩

/-- What the targets make of the option that takes two words. -/
theorem choices_declared_iff_choosing : ∃ t, CommandTree.build 2 choosing = .ok t ∧
    ∀ v s, (v, s) ∈ builtin → ∃ files,
      Registry.builtin.render t ⟨3, 2⟩ v.cover.blueprint.target.id = .ok files ∧
      ∃ a ∈ files, a.kind = .entryPoint ∧ ∀ q ∈ v.ofTree t, ∀ vs ∈ q.1.choices,
        Holds a.content q.2.text ∧
        (s.Restricts q.2 (vs.map Value.display) ↔
          v.cover.blueprint.target.id ≠ "python" ∨ q.1.type = .choice) ∧
        ∀ d ∈ q.1.default, s.Sets q.2 d.display ∧
          (d.display ∈ vs.map Value.display ∨
            ∃ b, d = .float (.zero b) ∧ .float (.zero !b) ∈ vs) := by
  obtain ⟨t, ht, hrender⟩ := exists_render_choosing
  refine ⟨t, ht, fun v s hv => ?_⟩
  obtain ⟨files, hfiles⟩ := hrender _ (blueprint_mem_builtin hv)
  exact ⟨files, hfiles, choices_declared_iff hv ht hfiles⟩

/-- The program takes any word for the option. -/
theorem unrestricted_choosing : ∃ t files, CommandTree.build 2 choosing = .ok t ∧
    Registry.builtin.render t ⟨3, 2⟩ "python" = .ok files ∧ ∃ a ∈ files, a.kind = .entryPoint ∧
    ∃ q ∈ Declarer.python.ofTree t, q.1.choices.map (·.map Value.display) = some ["low", "high"] ∧
      Holds a.content q.2.text ∧
      q.2.text = "@click.option(\"--level\", \"level\", type=str, default=\"low\", " ++
        "show_default=True, required=False, envvar=\"X_RUN_LEVEL\", help=\"\")\n" ∧
      ∀ texts, ¬ python.Restricts q.2 texts := by
  have hbuilt : (CommandTree.build 2 choosing).toOption.any (fun t =>
      ∃ q ∈ Declarer.python.ofTree t,
        q.1.choices.map (·.map Value.display) = some ["low", "high"] ∧
        q.2.text = "@click.option(\"--level\", \"level\", type=str, default=\"low\", " ++
          "show_default=True, required=False, envvar=\"X_RUN_LEVEL\", help=\"\")\n" ∧
        q.2.values = "str") = true := by
    decide +kernel
  simp only [Option.any_eq_true, Outcome.toOption_eq_some, decide_eq_true_eq] at hbuilt
  obtain ⟨t, ht, q, hq, hchoices, htext, hvalues⟩ := hbuilt
  obtain ⟨t', ht', hrender⟩ := exists_render_choosing
  cases ht.symm.trans ht'
  obtain ⟨files, hfiles⟩ := hrender .python List.mem_cons_self
  obtain ⟨a, ha, hkind, hheld⟩ := Declarer.exists_program List.mem_cons_self ht hfiles
  refine ⟨t, files, ht, hfiles, a, ha, hkind, q, hq, hchoices, hheld q hq, htext, ?_⟩
  rintro texts ⟨source, hsource, -⟩
  have htype : "str" = "click.Choice(" ++ source ++ ")" := hvalues.symm.trans hsource
  have hshort : "str".length < "click.Choice(".length := by decide
  rw [htype, String.length_append, String.length_append] at hshort
  omega

end ChoiceStyle

end CliGen
