import CliGen.Proofs.Target.Identifiers

/-!
# Names that the code of hooks refers to

The stubs of hooks refer to names that their files import or that the language provides, and the
main function of a Python program refers to its context. A parameter of that name takes its place.
No parameter is called by a reserved word (`Wording.identifier_notMem_reserved`), so the context is
safe; the other names are not reserved, and the parameters whose only word is the name capture it
(`Blueprint.captured_iff`).
-/

namespace CliGen

open Naming

/-! ## Names of one word -/

namespace Naming

/-- Words that join to one word without digits are that word. -/
theorem eq_of_joinDigits_eq_singleton {w v : String} {ws : List String}
    (hws : ∀ u ∈ ws, IsWord u) (hv : ∀ c ∈ v.toList, c.isDigit = false)
    (h : joinDigits w ws = [v]) : w :: ws = [v] := by
  induction ws generalizing w with
  | nil => exact h
  | cons u us ih =>
    rw [List.forall_mem_cons] at hws
    rw [joinDigits] at h
    split at h
    next hdigit =>
      -- The word that begins with a digit is a part of what the words join to.
      obtain ⟨c, hc, hcdigit⟩ := (Option.any_eq_true ..).1 hdigit
      have hjoined : w ++ u = v := (List.cons.inj (ih hws.2 h)).1
      have hmem : c ∈ v.toList := by
        rw [← hjoined, String.toList_append]
        exact List.mem_append_right _ (List.mem_of_head? hc)
      rw [hv c hmem] at hcdigit
      cases hcdigit
    next =>
      obtain ⟨x, xs, hcons, -⟩ := joinDigits_eq_cons hws.1 hws.2
      rw [hcons] at h
      cases h

/-- A name without digits that is one word in small letters. -/
structure IsPlainWord (r : String) : Prop where
  isName : Field.isName r = true
  words_eq : words r = [r]
  letters : ∀ c ∈ r.toList, c.isDigit = false

end Naming

/-- A name has the key of a plain word exactly where that is its only word. -/
theorem NamingConvention.parameter_eq_iff (n : NamingConvention) {name r : String}
    (h : Field.isName name = true) (hr : IsPlainWord r) :
    n.parameter name = n.parameter r ↔ words name = [r] := by
  have hwords : ∀ u ∈ words name, IsWord u := fun u hu => isWord_of_mem_words h hu
  rw [NamingConvention.parameter, NamingConvention.parameter]
  cases n.style with
  | snake =>
    have hsingle : ∀ u ∈ [r], IsWord u := fun u hu =>
      isWord_of_mem_words hr.isName (hr.words_eq ▸ hu)
    show identifier name = identifier r ↔ _
    rw [identifier, identifier, hr.words_eq]
    exact ⟨snake_inj hwords hsingle, fun heq => by rw [heq]⟩
  -- Words in camel case may run together at digits, but a plain word has none.
  | camel =>
    show Naming.camel name = Naming.camel r ↔ _
    have hcapital : capitalWords r = [r] := by
      rw [capitalWords, hr.words_eq]
      rfl
    rw [camel_eq_iff h hr.isName, hcapital, capitalWords]
    obtain ⟨w, ws, hcons⟩ := List.exists_cons_of_ne_nil (words_ne_nil h)
    rw [hcons] at hwords ⊢
    constructor
    · exact eq_of_joinDigits_eq_singleton (fun u hu => hwords u (List.mem_cons_of_mem w hu))
        hr.letters
    · intro heq
      cases heq
      rfl

/-! ## Identifiers -/

namespace Wording

variable {w : Wording} {name r : String}

/-- A reserved word that does not end in an underscore is nobody's identifier. -/
theorem identifier_notMem_reserved (w : Wording)
    (hends : ∀ k ∈ w.reserved, k.toList.getLast? ≠ some '_') (h : Field.isName name = true) :
    w.identifier name ∉ w.reserved := by
  obtain ⟨begun, -, hident⟩ := w.identifier_cases h
  rcases hident with ⟨hident, hfree⟩ | hident
  · rwa [hident]
  · -- An identifier with a mark behind it ends in an underscore.
    intro hmem
    have hlast : (w.identifier name).toList.getLast? = some '_' := by
      rw [hident, String.toList_append]
      exact List.getLast?_concat
    exact hends _ hmem hlast

/-- The parameters that are called by a plain word. -/
theorem identifier_eq_word_iff (w : Wording) (h : Field.isName name = true) (hr : IsPlainWord r)
    (hself : w.identifier r = r) : w.identifier name = r ↔ words name = [r] := by
  have hiff := w.identifier_eq_iff h hr.isName
  rw [hself] at hiff
  exact hiff.trans (w.naming.parameter_eq_iff h hr)

/-- What stands for an option shows its name and its identifier. -/
theorem shown_option (w : Wording) (cliName : String) (path : List String) (o : NamedOption) :
    (w.option cliName path o).textAt "name" = o.name ∧
      (w.option cliName path o).textAt "ident" = w.identifier o.name := ⟨rfl, rfl⟩

/-- So does what stands for a parameter of a command. -/
theorem exists_name_of_mem_parameters {cliName : String} {c : Command} {b : Hook.Binding}
    {p : Value} (hp : p ∈ (w.command cliName c b).parameters) : ∃ name ∈ c.parameterNames,
      p.textAt "name" = name ∧ p.textAt "ident" = w.identifier name := by
  rcases List.mem_append.1 hp with hp | hp
  · have hargument : p ∈ c.arguments.map w.argument := hp
    obtain ⟨a, ha, rfl⟩ := List.mem_map.1 hargument
    exact ⟨a.name, List.mem_append_left _ (List.mem_map_of_mem ha), rfl, rfl⟩
  · have hoption : p ∈ c.options.map (w.option cliName c.path) := hp
    obtain ⟨o, ho, rfl⟩ := List.mem_map.1 hoption
    exact ⟨o.name, List.mem_append_right _ (List.mem_map_of_mem ho),
      w.shown_option cliName c.path o⟩

end Wording

/-! ## Names in stubs -/

namespace Template

mutual

/-- The texts of a template, those of its blocks included. -/
def texts : List Piece → List String
  | [] => []
  | p :: ps => textsOf p ++ texts ps

/-- The texts of a piece. -/
def textsOf : Piece → List String
  | .text s => [s]
  | .shown _ | .call _ _ => []
  | .choose _ _ body otherwise | .each _ body otherwise => texts body ++ texts otherwise

end

/-- A template refers to what a name holds. -/
def RefersTo (t : Template) (name : String) : Prop :=
  ∃ s ∈ texts t, (name ++ ".").toList <:+: s.toList

instance (t : Template) (name : String) : Decidable (RefersTo t name) :=
  inferInstanceAs (Decidable (∃ s ∈ texts t, _))

end Template

namespace Blueprint

/-- The names that stubs refer to and no stub declares. -/
def provided : List (Blueprint × String) :=
  [(python, "click"), (javascript .plain, "console"), (javascript .typed, "console")]

variable {w : Blueprint} {r : String}

/-- The templates of all stubs refer to them. -/
theorem refersTo_of_mem_provided (h : (w, r) ∈ provided) {role : Command.Role} {stub : String}
    (hstub : w.stub role = some stub) :
    ∃ t, w.target.engine.templates.lookup stub = some t ∧ t.RefersTo r := by
  simp only [provided, List.mem_cons, Prod.mk.injEq, List.not_mem_nil, or_false] at h
  rcases h with ⟨rfl, rfl⟩ | ⟨rfl, rfl⟩ | ⟨rfl, rfl⟩ <;> cases role <;> cases hstub <;>
    exact ⟨_, rfl, by decide +kernel⟩

/-- They are plain words, and none is reserved. -/
theorem plain_of_mem_provided (h : (w, r) ∈ provided) :
    IsPlainWord r ∧ w.wording.identifier r = r := by
  simp only [provided, List.mem_cons, Prod.mk.injEq, List.not_mem_nil, or_false] at h
  rcases h with ⟨rfl, rfl⟩ | ⟨rfl, rfl⟩ | ⟨rfl, rfl⟩ <;>
    exact ⟨⟨by decide +kernel, by decide +kernel, by simp⟩, by decide +kernel⟩

/-- **Which parameters capture a name.** A parameter of a command takes the place of the name that
the stubs refer to exactly where that name is the parameter's only word. The main function of a
Python program refers to the same name and to its context: an option of the command line captures
the name where it is the option's only word, and the context never. -/
theorem captured_iff {maxDepth : Nat} {document : Value} {t : CommandTree}
    (h : CommandTree.build maxDepth document = .ok t) :
    (∀ w r, (w, r) ∈ provided →
      (∀ role stub, w.stub role = some stub →
        ∃ template, w.target.engine.templates.lookup stub = some template ∧
          template.RefersTo r) ∧
      ∀ c ∈ t.walk, ∀ b, ∀ p ∈ (w.wording.command t.cliName c b).parameters,
        p.textAt "ident" = r ↔ words (p.textAt "name") = [r]) ∧
    ∀ o ∈ (python.target.root t).itemsAt "global_options", o.textAt "ident" ≠ "ctx" ∧
      (o.textAt "ident" = "click" ↔ words (o.textAt "name") = ["click"]) := by
  refine ⟨fun w r hr => ⟨fun role stub => refersTo_of_mem_provided hr, fun c hc b p hp => ?_⟩,
    fun o ho => ?_⟩
  · obtain ⟨hplain, hself⟩ := plain_of_mem_provided hr
    obtain ⟨name, hname, hnamed, hident⟩ := Wording.exists_name_of_mem_parameters hp
    have hisName := CommandTree.isName_of_mem_parameterNames h hc name hname
    rw [hnamed, hident]
    exact w.wording.identifier_eq_word_iff hisName hplain hself
  · have hoption : o ∈ t.globalOptions.map (python.wording.option t.cliName []) := ho
    obtain ⟨g, hg, rfl⟩ := List.mem_map.1 hoption
    have hname := CommandTree.isName_of_mem_globalOptions h g hg
    have hends : ∀ k ∈ python.wording.reserved, k.toList.getLast? ≠ some '_' := by decide +kernel
    have hclick : (python, "click") ∈ provided := List.mem_cons_self
    obtain ⟨hplain, hself⟩ := plain_of_mem_provided hclick
    obtain ⟨hnamed, hident⟩ := python.wording.shown_option t.cliName [] g
    rw [hnamed, hident]
    refine ⟨fun hctx => ?_, python.wording.identifier_eq_word_iff hname hplain hself⟩
    have hreserved : "ctx" ∈ python.wording.reserved := by decide +kernel
    have hfree := python.wording.identifier_notMem_reserved hends hname
    rw [hctx] at hfree
    exact hfree hreserved

/-- A command whose parameters have the names that stubs refer to. -/
def capturing : Value :=
  .object [("name", .str "tool"), ("options", .list [.object [("name", .str "ctx")]]),
    ("commands", .object [
      ("run", .object [("desc", .str "Run"), ("args", .list [.object [("name", .str "click")]]),
        ("options", .list [.object [("name", .str "console")]])])])]

/-- A command that captures two names of its stub. -/
theorem captured_iff_capturing : ∃ t, CommandTree.build 16 capturing = .ok t ∧
    t.walk.map (·.parameterNames) = [["click", "console"]] ∧
    t.globalOptions.map (·.name) = ["ctx"] ∧
    (∀ w r, (w, r) ∈ provided →
      (∀ role stub, w.stub role = some stub →
        ∃ template, w.target.engine.templates.lookup stub = some template ∧
          template.RefersTo r) ∧
      ∀ c ∈ t.walk, ∀ b, ∀ p ∈ (w.wording.command t.cliName c b).parameters,
        p.textAt "ident" = r ↔ words (p.textAt "name") = [r]) ∧
    ∀ o ∈ (python.target.root t).itemsAt "global_options", o.textAt "ident" ≠ "ctx" ∧
      (o.textAt "ident" = "click" ↔ words (o.textAt "name") = ["click"]) := by
  have hbuilt : (CommandTree.build 16 capturing).toOption.any (fun t =>
      t.walk.map (·.parameterNames) = [["click", "console"]] ∧
        t.globalOptions.map (·.name) = ["ctx"]) = true := by
    decide +kernel
  simp only [Option.any_eq_true, Outcome.toOption_eq_some, decide_eq_true_eq] at hbuilt
  obtain ⟨t, ht, hparameters, hglobals⟩ := hbuilt
  exact ⟨t, ht, hparameters, hglobals, captured_iff ht⟩

/-- The stub of a command, if there is one. -/
def stub? (w : Blueprint) (options : RenderOptions) (t : CommandTree) (c : Command) :
    Option String := do
  let scene ← (w.target.scene t options).toOption
  let b ← scene.bindings.get? c.path
  let node ← (w.context scene c b).toOption
  (scene.engine.render (← w.stub c.role) node).toOption

/-- The stubs of the command refer to its parameters where they mean what their files import or
what the language provides. -/
theorem captured_capturing : ∃ t c, CommandTree.build 16 capturing = .ok t ∧ c ∈ t.walk ∧
    python.stub? ⟨3, 16⟩ t c = some (String.join [
      "def on_run(click, console, **_globals):\n",
      "    \"Run\"\n",
      "    click.echo(\"run: not implemented yet\")\n\n\n"]) ∧
    (javascript .plain).stub? ⟨3, 16⟩ t c = some (String.join [
      "// Run\n",
      "async function onRun(\x7b click, console \x7d) \x7b\n",
      "  console.log(\"run: not implemented yet\");\n",
      "\x7d\n\n"]) := by
  have hbuilt : (CommandTree.build 16 capturing).toOption.any (fun t => t.walk.any fun c =>
      python.stub? ⟨3, 16⟩ t c = some (String.join [
        "def on_run(click, console, **_globals):\n",
        "    \"Run\"\n",
        "    click.echo(\"run: not implemented yet\")\n\n\n"]) ∧
      (javascript .plain).stub? ⟨3, 16⟩ t c = some (String.join [
        "// Run\n",
        "async function onRun(\x7b click, console \x7d) \x7b\n",
        "  console.log(\"run: not implemented yet\");\n",
        "\x7d\n\n"])) = true := by
    decide +kernel
  simp only [Option.any_eq_true, Outcome.toOption_eq_some, List.any_eq_true,
    decide_eq_true_eq] at hbuilt
  obtain ⟨t, ht, c, hc, hpython, hscript⟩ := hbuilt
  exact ⟨t, c, ht, hc, hpython, hscript⟩

end Blueprint

end CliGen
