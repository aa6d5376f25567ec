import CliGen.Proofs.Template.Reading
import CliGen.Target.Builtin
import CliGen.Target.Texts.NodeJs
import CliGen.Target.Texts.Python
import CliGen.Target.Texts.Rust
import CliGen.Target.Texts.TypeScript

/-!
# The texts of the templates of targets

The templates of every target of the registry are what their texts are read as, so registering the
texts does not fail and leads to the engine of the target (`Registry.engines_of_texts`).
-/

namespace CliGen

open Template

namespace Target

/-- Templates are what texts of the same names are read as. -/
def ReadFrom (templates : List (String × Template)) (texts : List (String × List String)) : Prop :=
  List.Forall₂ (fun a b => a.1 = b.1 ∧ Reads a.2 b.2) texts templates

-- The characters of texts and the marks of templates are read off their literals one by one. What
-- is left is to cut each text into marks, which the kernel computes.

/-- The Python templates are what their texts are read as. -/
theorem Python.readFrom_texts : ReadFrom Python.templates Python.texts := by
  refine .cons ⟨rfl, ?_⟩ (.cons ⟨rfl, ?_⟩ (.cons ⟨rfl, ?_⟩ (.cons ⟨rfl, ?_⟩ (.cons ⟨rfl, ?_⟩ (
    .cons ⟨rfl, ?_⟩ (.cons ⟨rfl, ?_⟩ (.cons ⟨rfl, ?_⟩ (.cons ⟨rfl, ?_⟩ (.cons ⟨rfl, ?_⟩ (
    .cons ⟨rfl, ?_⟩ .nil))))))))))
  all_goals exact .of_marks (by repeat constructor) (by repeat constructor) (by decide +kernel)

/-- The templates that plain and typed programs share are what their texts are read as. -/
theorem JavaScript.readFrom_sharedTexts :
    ReadFrom JavaScript.sharedTemplates JavaScript.sharedTexts := by
  refine .cons ⟨rfl, ?_⟩ (.cons ⟨rfl, ?_⟩ (.cons ⟨rfl, ?_⟩ (.cons ⟨rfl, ?_⟩ .nil)))
  all_goals exact .of_marks (by repeat constructor) (by repeat constructor) (by decide +kernel)

/-- The templates of plain programs are what their texts are read as. -/
theorem JavaScript.readFrom_plainTexts :
    ReadFrom JavaScript.plainTemplates JavaScript.plainTexts := by
  refine .cons ⟨rfl, ?_⟩ (.cons ⟨rfl, ?_⟩ (.cons ⟨rfl, ?_⟩ (.cons ⟨rfl, ?_⟩ (.cons ⟨rfl, ?_⟩ (
    .cons ⟨rfl, ?_⟩ .nil)))))
  all_goals exact .of_marks (by repeat constructor) (by repeat constructor) (by decide +kernel)

/-- The templates of typed programs are what their texts are read as. -/
theorem JavaScript.Typed.readFrom_texts :
    ReadFrom JavaScript.Typed.templates JavaScript.Typed.texts := by
  refine .cons ⟨rfl, ?_⟩ (.cons ⟨rfl, ?_⟩ (.cons ⟨rfl, ?_⟩ (.cons ⟨rfl, ?_⟩ (.cons ⟨rfl, ?_⟩ (
    .cons ⟨rfl, ?_⟩ (.cons ⟨rfl, ?_⟩ .nil))))))
  all_goals exact .of_marks (by repeat constructor) (by repeat constructor) (by decide +kernel)

/-- The Rust templates are what their texts are read as. -/
theorem Rust.readFrom_texts : ReadFrom Rust.templates Rust.texts := by
  refine .cons ⟨rfl, ?_⟩ (.cons ⟨rfl, ?_⟩ (.cons ⟨rfl, ?_⟩ (.cons ⟨rfl, ?_⟩ (.cons ⟨rfl, ?_⟩ (
    .cons ⟨rfl, ?_⟩ (.cons ⟨rfl, ?_⟩ (.cons ⟨rfl, ?_⟩ (.cons ⟨rfl, ?_⟩ .nil))))))))
  all_goals exact .of_marks (by repeat constructor) (by repeat constructor) (by decide +kernel)

end Target

namespace Registry

open Target

/-- The texts of the templates of all targets, in the order of the registry. -/
def texts : List (List (String × List String)) :=
  [Python.texts, JavaScript.sharedTexts ++ JavaScript.plainTexts,
   JavaScript.sharedTexts ++ JavaScript.Typed.texts, Rust.texts]

/-- **The engine of every target comes of its texts.** Registering them does not fail, and what is
rendered then is what the target renders. -/
theorem engines_of_texts : List.Forall₂
    (fun e texts => ∃ engine,
      Engine.ofTexts e.2.helpers (texts.map fun a => (a.1, spell a.2)) = .ok engine ∧
        ∀ name v, engine.render name v = e.2.engine.render name v) builtin texts :=
  .cons (Engine.exists_ofTexts Python.readFrom_texts _) <|
  .cons (Engine.exists_ofTexts
    (List.rel_append JavaScript.readFrom_sharedTexts JavaScript.readFrom_plainTexts) _) <|
  .cons (Engine.exists_ofTexts
    (List.rel_append JavaScript.readFrom_sharedTexts JavaScript.Typed.readFrom_texts) _) <|
  .cons (Engine.exists_ofTexts Rust.readFrom_texts _) .nil

end Registry

end CliGen
