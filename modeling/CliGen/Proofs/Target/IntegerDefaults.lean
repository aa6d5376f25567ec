import CliGen.Proofs.Target.Declarers
import CliGen.Proofs.Target.Literals

/-!
# Integer defaults of Rust programs

A Rust program reads integers with 64 bits, and their defaults from decimal texts (`readInt64?`).
The default of a parameter is set to its decimal text, so the program accepts it exactly where it
has no more bits (`Declarer.rust_default_read_iff`). A description may hold larger ones.
-/

namespace CliGen

open Target Literal

/-! ## Reading integers -/

/-- The number of a decimal text: digits, with a sign in front of them or not. -/
def readDecimal? (s : String) : Option Int :=
  match s.toList with
  | '-' :: cs => (Text.number? cs).map fun n => -(n : Int)
  | '+' :: cs => (Text.number? cs).map fun n => (n : Int)
  | cs => (Text.number? cs).map fun n => (n : Int)

/-- Integers with a sign and 64 bits. -/
def IsInt64 (n : Int) : Prop := -2 ^ 63 ≤ n ∧ n < 2 ^ 63

instance : DecidablePred IsInt64 := fun _ => inferInstanceAs (Decidable (_ ∧ _))

/-- The integer with 64 bits that a decimal text stands for. -/
def readInt64? (s : String) : Option Int := (readDecimal? s).filter fun n => decide (IsInt64 n)

/-- A natural number is written without a sign. -/
theorem readDecimal?_natCast (n : Nat) : readDecimal? (toString n) = some (n : Int) := by
  have hnumber := Text.number?_toString n
  have hsign {c : Char} (hc : c.isDigit = false) (cs : List Char) : Text.number? (c :: cs) = none :=
    if_pos (by simp [hc])
  rw [readDecimal?]
  split
  next cs hcs =>
    rw [hcs, hsign (by decide)] at hnumber
    cases hnumber
  next cs hcs =>
    rw [hcs, hsign (by decide)] at hnumber
    cases hnumber
  next =>
    rw [hnumber]
    rfl

/-- Every integer is read from its decimal text. -/
theorem readDecimal?_toString (n : Int) : readDecimal? (toString n) = some n := by
  cases n with
  | ofNat n => exact readDecimal?_natCast n
  | negSucc n =>
    have hchars : (toString (Int.negSucc n)).toList = '-' :: (toString (n + 1)).toList := by
      have htext : toString (Int.negSucc n) = "-" ++ toString (n + 1) := rfl
      rw [htext, String.toList_append]
      rfl
    rw [readDecimal?, hchars]
    simp only [Text.number?_toString]
    rfl

/-- An integer is read with 64 bits where it has no more. -/
theorem readInt64?_toString (n : Int) :
    readInt64? (toString n) = if IsInt64 n then some n else none := by
  rw [readInt64?, readDecimal?_toString, Option.filter_some]
  simp only [decide_eq_true_eq]

namespace Declarer

variable {p : Param} {value : Value}

/-- Integers without choices are read with 64 bits. -/
theorem parserOf_integer (h : p.ToldBy value) (htype : p.type = .integer)
    (hchoices : p.choices = none) : Target.Rust.parserOf value = "value_parser!(i64)" := by
  rw [Target.Rust.parserOf, h.choices_eq, Wording.choices, hchoices, Target.Rust.typeOf,
    Value.trueAt, h.has_choices_eq, h.type_eq, hchoices, htype]
  rfl

/-- How the Rust target declares a parameter of integers without choices. -/
theorem rust_declares_integer (h : p.ToldBy value) (htype : p.type = .integer)
    (hchoices : p.choices = none) {n : Int} (hd : p.default = some (.int n))
    {declare : Value → Declaration}
    (hdeclare : declare = rust.argument ∨ ∃ everywhere, declare = rust.option everywhere) :
    (declare value).values = "value_parser!(i64)" ∧ (declare value).default =
      "\n            .default_value(" ++ Target.Rust.literal (.int n) ++ ")" := by
  have hflag : p.type ≠ .boolean := by
    rw [htype]
    decide
  have hnull : Value.int n ≠ .null := by
    intro h
    cases h
  have hdefault := Rust.defaultCall_eq h hflag hd hnull
  rcases hdeclare with rfl | ⟨everywhere, rfl⟩
  · exact ⟨parserOf_integer h htype hchoices, hdefault⟩
  · have hvalues : (Rust.option everywhere value).values = Target.Rust.parserOf value :=
      if_neg (by simp [(h.not_flag hflag).2])
    exact ⟨hvalues.trans (parserOf_integer h htype hchoices), hdefault⟩

variable {t : CommandTree} {options : RenderOptions} {files : List Artifact}

/-- **Integer defaults of a program.** A parameter of integers without choices is read with 64 bits.
Its default is an integer and is set to the decimal text of this integer, which the program accepts
exactly where the integer has 64 bits. -/
theorem rust_default_read_iff {maxDepth : Nat} {document : Value}
    (hbuild : CommandTree.build maxDepth document = .ok t)
    (h : Registry.builtin.render t options "rust" = .ok files) :
    ∃ a ∈ files, a.kind = .entryPoint ∧ ∀ q ∈ rust.ofTree t, q.1.type = .integer →
      q.1.choices = none → ∀ d ∈ q.1.default, Holds a.content q.2.text ∧
        q.2.values = "value_parser!(i64)" ∧ ∃ n source, d = .int n ∧
          q.2.default = "\n            .default_value(" ++ source ++ ")" ∧
          Language.rust.text? source = some (toString n) ∧ readDecimal? (toString n) = some n ∧
          (readInt64? (toString n) = some n ↔ IsInt64 n) := by
  have hrust : rust ∈ builtin := by simp [builtin]
  obtain ⟨a, ha, hkind, hheld⟩ := exists_program hrust hbuild h
  refine ⟨a, ha, hkind, fun q hq htype hchoices d hd => ⟨hheld q hq, ?_⟩⟩
  obtain ⟨hsound, value, htold, hdeclared⟩ := exists_toldBy hbuild hq
  -- A default of this type is a whole number, whatever its size.
  obtain ⟨n, rfl⟩ : ∃ n, d = .int n := by
    have hhas := hsound.default_type hchoices d hd
    rw [htype] at hhas
    cases hhas with
    | integer n => exact ⟨n, rfl⟩
  have hdeclare : q.2.values = "value_parser!(i64)" ∧ q.2.default =
      "\n            .default_value(" ++ Target.Rust.literal (.int n) ++ ")" := by
    rcases hdeclared with hdeclared | ⟨everywhere, hdeclared⟩
    · rw [hdeclared]
      exact rust_declares_integer htold htype hchoices hd (.inl rfl)
    · rw [hdeclared]
      exact rust_declares_integer htold htype hchoices hd (.inr ⟨everywhere, rfl⟩)
  have hdisplay : (Value.int n).display = toString n := by
    rw [Value.display, Value.compact]
    intro s h
    cases h
  refine ⟨hdeclare.1, n, _, rfl, hdeclare.2, ?_, readDecimal?_toString n, ?_⟩
  · rw [← hdisplay]
    exact (Language.denotes rust_writes _).text?_eq
  · rw [readInt64?_toString]
    split <;> simp [*]

/-- A command with an integer in the range and one behind it as defaults. -/
def counting : Value := .object [
  ("name", .str "x"),
  ("commands", .object [
    ("run", .object [("desc", .str "Run it"),
      ("args", .list [.object [("name", .str "port"), ("type", .str "int"),
        ("default", .int (-1))]]),
      ("options", .list [.object [("name", .str "n"), ("type", .str "int"),
        ("default", .int 9223372036854775808)]])])])]

/-- It is rendered. -/
private theorem exists_render_counting : ∃ t files, CommandTree.build 2 counting = .ok t ∧
    (rust.ofTree t).map (fun q => (q.1.type, q.1.choices.isSome, q.2.values, q.2.default)) =
      [(.integer, false, "value_parser!(i64)", "\n            .default_value(\"-1\")"),
        (.integer, false, "value_parser!(i64)",
          "\n            .default_value(\"9223372036854775808\")")] ∧
    Registry.builtin.render t ⟨3, 2⟩ "rust" = .ok files := by
  have hbuilt : (CommandTree.build 2 counting).toOption.any (fun t =>
      (rust.ofTree t).map (fun q => (q.1.type, q.1.choices.isSome, q.2.values, q.2.default)) =
        [(.integer, false, "value_parser!(i64)", "\n            .default_value(\"-1\")"),
          (.integer, false, "value_parser!(i64)",
            "\n            .default_value(\"9223372036854775808\")")] ∧
      (Hook.Index.build t (.make .snake 3)).toBool = true ∧ t.maxDepth ≤ 2) = true := by
    decide +kernel
  simp only [Option.any_eq_true, Outcome.toOption_eq_some, decide_eq_true_eq] at hbuilt
  obtain ⟨t, ht, hdeclared, hindex, hfits⟩ := hbuilt
  have hrust : Blueprint.rust ∈ Blueprint.builtin := by simp [Blueprint.builtin]
  have hrender : ∃ files, Registry.builtin.render t ⟨3, 2⟩ Blueprint.rust.target.id = .ok files :=
    Blueprint.exists_render hrust ht hindex hfits
  obtain ⟨files, hfiles⟩ := hrender
  exact ⟨t, files, ht, hdeclared, hfiles⟩

/-- A default in the range and one behind it, in a rendered program. -/
theorem rust_default_read_iff_counting : ∃ t files, CommandTree.build 2 counting = .ok t ∧
    Registry.builtin.render t ⟨3, 2⟩ "rust" = .ok files ∧ ∃ a ∈ files, a.kind = .entryPoint ∧
      ∀ q ∈ rust.ofTree t, q.1.type = .integer →
        q.1.choices = none → ∀ d ∈ q.1.default, Holds a.content q.2.text ∧
          q.2.values = "value_parser!(i64)" ∧ ∃ n source, d = .int n ∧
            q.2.default = "\n            .default_value(" ++ source ++ ")" ∧
            Language.rust.text? source = some (toString n) ∧ readDecimal? (toString n) = some n ∧
            (readInt64? (toString n) = some n ↔ IsInt64 n) := by
  obtain ⟨t, files, ht, -, hfiles⟩ := exists_render_counting
  exact ⟨t, files, ht, hfiles, rust_default_read_iff ht hfiles⟩

/-- The default of the option is refused by the parser of its values. -/
theorem default_refused_counting : ∃ t files, CommandTree.build 2 counting = .ok t ∧
    Registry.builtin.render t ⟨3, 2⟩ "rust" = .ok files ∧ ∃ a ∈ files, a.kind = .entryPoint ∧
    ∃ q ∈ rust.ofTree t, q.1.type = .integer ∧ q.1.choices = none ∧ Holds a.content q.2.text ∧
      q.2.values = "value_parser!(i64)" ∧
      q.2.default = "\n            .default_value(\"9223372036854775808\")" ∧
      readInt64? "9223372036854775808" = none := by
  obtain ⟨t, files, ht, hdeclared, hfiles⟩ := exists_render_counting
  have hrust : rust ∈ builtin := by simp [builtin]
  obtain ⟨a, ha, hkind, hheld⟩ := exists_program hrust ht hfiles
  obtain ⟨q, hq, hmap⟩ := List.mem_map.1 (hdeclared ▸ List.mem_cons_of_mem _ List.mem_cons_self)
  simp only [Prod.mk.injEq, Option.isSome_eq_false_iff, Option.isNone_iff_eq_none] at hmap
  obtain ⟨htype, hchoices, hvalues, hdefault⟩ := hmap
  exact ⟨t, files, ht, hfiles, a, ha, hkind, q, hq, htype, hchoices, hheld q hq, hvalues, hdefault,
    by decide +kernel⟩

end Declarer

end CliGen
