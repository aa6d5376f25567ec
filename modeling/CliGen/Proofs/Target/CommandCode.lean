import CliGen.Proofs.Target.Sections
import CliGen.Proofs.Template.Safe

/-!
# The code of a command by choice of templates

Every target fills in a template of the registration of a command, and a template of its hook if it
has one. Targets differ in what stands for a command and in the templates they choose, so that is
all that has to be told of one (`Target.emitChosen`).

The code of a command can be made if the templates that are chosen are safe for what stands for it
(`Target.exists_emitChosen`), and it stands in front of the code of the commands below
(`Target.appends_of_emitChosen`).
-/

namespace CliGen

open Outcome Template

namespace Target

/-- The template of a command, and for a command that has a hook the template of the hook and the
lines that list it in further sections. -/
structure Choice where
  template : String
  hook : Option (String × List (String × String))

/-- The code of a hook by section. -/
def hookSections (engine : Template.Engine) (node : Value) :
    Option (String × List (String × String)) → Outcome (List (String × String))
  | some (stub, lines) => do
    let text ← engine.render stub node
    return ("stubs", text) :: lines
  | none => pure []

/-- The code of a command, for which templates are chosen. -/
def emitChosen (context : Scene → Command → Hook.Binding → Outcome Value)
    (choose : Command → Hook.Binding → Choice) (scene : Scene) (c : Command) (b : Hook.Binding)
    (children : List Fragment) : Outcome Fragment := do
  let node ← context scene c b
  let code ← scene.engine.render (choose c b).template node
  let hook ← hookSections scene.engine node (choose c b).hook
  let own := (("commands", code) :: hook).foldl (fun f s => f.push s.1 s.2) (Fragment.empty c.path)
  return own.absorb children

variable {context : Scene → Command → Hook.Binding → Outcome Value}
  {choose : Command → Hook.Binding → Choice} {scene : Scene} {c : Command} {b : Hook.Binding}

/-- The code of a command step by step: that of its registration, and that of its hook where it has
one. -/
theorem emitChosen_eq (children : List Fragment) :
    emitChosen context choose scene c b children = (do
      let node ← context scene c b
      let code ← scene.engine.render (choose c b).template node
      let own := (Fragment.empty c.path).push "commands" code
      (choose c b).hook.elim (pure (own.absorb children)) fun stub => do
        let text ← scene.engine.render stub.1 node
        let own := stub.2.foldl (fun f s => f.push s.1 s.2) (own.push "stubs" text)
        return own.absorb children) := by
  rw [emitChosen]
  cases context scene c b with
  | error p => rfl
  | ok node =>
    rw [ok_bind, ok_bind]
    cases scene.engine.render (choose c b).template node with
    | error p => rfl
    | ok code =>
      rw [ok_bind, ok_bind]
      cases (choose c b).hook with
      | none => rfl
      | some stub =>
        rw [hookSections]
        dsimp only [Option.elim_some]
        cases scene.engine.render stub.1 node <;> rfl

/-- The code and the hook sections of a command are what its templates make of one context. -/
theorem emitChosen_ok {children : List Fragment} {fragment : Fragment}
    (h : emitChosen context choose scene c b children = .ok fragment) :
    ∃ node code hook, context scene c b = .ok node ∧
      scene.engine.render (choose c b).template node = .ok code ∧
      hookSections scene.engine node (choose c b).hook = .ok hook ∧
      fragment = ((("commands", code) :: hook).foldl (fun f s => f.push s.1 s.2)
        (Fragment.empty c.path)).absorb children := by
  rw [emitChosen] at h
  obtain ⟨node, hnode, h⟩ := bind_eq_ok.1 h
  obtain ⟨code, hcode, h⟩ := bind_eq_ok.1 h
  obtain ⟨hook, hhook, h⟩ := bind_eq_ok.1 h
  exact ⟨node, code, hook, hnode, hcode, hhook, (Except.ok.inj h).symm⟩

/-- Code that is chosen stands in front of that of the commands below. -/
theorem appends_of_emitChosen {t : Target} (h : t.emit = emitChosen context choose) :
    t.Appends where
  absorb scene c b children := by
    rw [h, emitChosen, emitChosen]
    cases context scene c b with
    | error p => rfl
    | ok node =>
      rw [ok_bind, ok_bind]
      cases scene.engine.render (choose c b).template node with
      | error p => rfl
      | ok code =>
        rw [ok_bind, ok_bind]
        cases hookSections scene.engine node (choose c b).hook <;> rfl
  distinct {scene c b f} hf := by
    rw [h] at hf
    obtain ⟨node, code, hook, -, -, -, rfl⟩ := emitChosen_ok hf
    exact ((Fragment.Distinct.empty c.path).pushAll _).absorb []

/-- Code that is chosen can be made, if the templates are safe for what stands for the command. -/
theorem exists_emitChosen {typed : Engine} {signatures : Signatures}
    {shapes : List (String × Shape)} {s : Shape} (htyped : typed.Typed signatures shapes)
    (hengine : scene.engine = typed)
    (hcontext : ∃ node, context scene c b = .ok node ∧ s.Holds node)
    (htemplate : ((choose c b).template, s) ∈ shapes)
    (hhook : ∀ stub ∈ (choose c b).hook, (stub.1, s) ∈ shapes) (children : List Fragment) :
    ∃ fragment, emitChosen context choose scene c b children = .ok fragment := by
  obtain ⟨node, hnode, hholds⟩ := hcontext
  obtain ⟨code, hcode⟩ := htyped.render_ok hengine _ htemplate hholds
  obtain ⟨hook, hhook⟩ :
      ∃ hook, hookSections scene.engine node (choose c b).hook = .ok hook := by
    cases hchosen : (choose c b).hook with
    | none => exact ⟨_, rfl⟩
    | some stub =>
      obtain ⟨text, htext⟩ := htyped.render_ok hengine _ (hhook stub hchosen) hholds
      exact ⟨_, by rw [hookSections, htext]; rfl⟩
  exact ⟨_, by rw [emitChosen, hnode, ok_bind, hcode, ok_bind, hhook]; rfl⟩

end Target

end CliGen
