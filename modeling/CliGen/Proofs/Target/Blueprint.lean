import CliGen.Proofs.Target.CommandCode
import CliGen.Proofs.Target.Composition
import CliGen.Proofs.Template.Text
import CliGen.Target.Context

/-!
# Blueprints of targets

A blueprint tells what a target makes of a command by the role of the command: the template of its
registration, that of its hook, and the line that lists the hook. It tells as well how the texts of
these templates begin, and which files show them.

A target keeps to its blueprint if its code is chosen and its files are composed as the blueprint
tells (`Blueprint.Sound`). Every section of its code then comes from the commands of the tree in the
order of the walk (`Blueprint.Sound.render_ok`).
-/

namespace CliGen

open Outcome

/-! ## Roles -/

/-- What a target makes of a command depends on whether it is managed, and on whether there are
commands below it. -/
inductive Command.Role where
  | managed
  | group
  | leaf
  deriving DecidableEq

/-- The role of a command. -/
def Command.role (c : Command) : Command.Role :=
  if c.lifecycle.isManaged then .managed else if c.isGroup then .group else .leaf

/-- Commands play the role of their lifecycle. -/
theorem Command.role_eq_managed_iff {c : Command} :
    c.role = .managed ↔ c.lifecycle.isManaged = true := by
  rw [role]
  split
  next h => simp [h]
  next h => split <;> simp [h]

/-- The field that holds the name of a command's hook. -/
def Command.Role.nameKey : Command.Role → String
  | managed => "controller"
  | group | leaf => "canonical_name"

/-- The variable of the parser that a command is added to. -/
def Wording.parentVariable (w : Wording) (c : Command) : String :=
  if c.parentPath.isEmpty then w.rootVariable else parserVariable c.parentPath

/-- A value tells what templates show of a command and of its binding. -/
structure Wording.Tells (w : Wording) (c : Command) (b : Hook.Binding) (node : Value) : Prop where
  var : node.get? "var" = some (.str (parserVariable c.path))
  parent_var : node.get? "parent_var" = some (.str (w.parentVariable c))
  description : node.get? "description" = some (.str c.description)
  canonical_name : node.get? "canonical_name" = some (.str b.canonical)
  controller : node.get? "controller" =
    some (.ofOption (b.controller.map fun k => .str k.canonical))

/-- It tells the name of the command's hook. -/
theorem Wording.Tells.name {w : Wording} {c : Command} {b : Hook.Binding} {node : Value}
    (h : w.Tells c b node) (hmanaged : b.isManaged = c.lifecycle.isManaged) :
    node.get? c.role.nameKey = some (.str b.definedName) := by
  rw [Hook.Binding.isManaged] at hmanaged
  rw [Hook.Binding.definedName]
  cases hcontroller : b.controller with
  | none =>
    rw [hcontroller] at hmanaged
    have hrole : c.role ≠ .managed := by
      rw [ne_eq, Command.role_eq_managed_iff, ← hmanaged]
      exact Bool.false_ne_true
    have hkey : c.role.nameKey = "canonical_name" := by
      cases hc : c.role with
      | managed => exact absurd hc hrole
      | group => rfl
      | leaf => rfl
    rw [hkey, h.canonical_name]
  | some k =>
    rw [hcontroller] at hmanaged
    have hrole : c.role = .managed := Command.role_eq_managed_iff.2 hmanaged.symm
    rw [hrole, Command.Role.nameKey, h.controller, hcontroller]
    rfl

/-! ## Blueprints -/

/-- A section in which the names of all hooks are listed. -/
structure Listing where
  key : String
  /-- The line of a name, by the role of the command whose hook it is. -/
  line : Command.Role → String → String
  /-- What stands around the list, if the file of hooks shows it. -/
  frame : Option (String × String)

/-- What a target makes of commands. -/
structure Blueprint where
  target : Target
  wording : Wording
  /-- What stands for a command in its templates. -/
  context : Scene → Command → Hook.Binding → Outcome Value
  /-- The template of a command. -/
  template : Command.Role → String
  /-- The template of a command's hook. -/
  stub : Command.Role → Option String
  listing : Option Listing
  /-- The template of the program. -/
  program : String
  /-- The template of the file of hooks. -/
  hooks : String
  /-- How the text of a command begins, from the variables of its parent and of its own parser. -/
  opening : Command.Role → String → String → String
  /-- What comes later in the text of a command, from the variable of its parser. -/
  header : Command.Role → String → String
  /-- How the text of a hook begins, from the description of its command in one line. -/
  comment : String → String
  /-- How a hook is declared, from the role of its command and its name. -/
  declaration : Command.Role → String → String

namespace Blueprint

open Target Template

/-- The choice of templates for a role, where a hook has a name. -/
def choice (w : Blueprint) (role : Command.Role) (name : String) : Choice where
  template := w.template role
  hook := (w.stub role).map fun stub =>
    (stub, w.listing.toList.map fun l => (l.key, l.line role name))

/-- A file is the program, and shows the code of all commands. -/
structure ShowsProgram (w : Blueprint) (engine : Template.Engine) (code : String)
    (file : Artifact) : Prop where
  kind_eq : file.kind = .entryPoint
  rendered : ∃ context, context.get? "commands_code" = some (.str code) ∧
    engine.render w.program context = .ok file.content
  content_eq : ∃ before after, file.content = before ++ code ++ after

/-- A file is the file of hooks, and shows all stubs and the list of their names. -/
structure ShowsHooks (w : Blueprint) (engine : Template.Engine) (stubs : String)
    (list : Listing → String) (file : Artifact) : Prop where
  kind_eq : file.kind = .hookStub
  rendered : ∃ context, context.get? "stubs" = some (.str stubs) ∧
    (∀ l ∈ w.listing, context.get? l.key = some (.str (list l))) ∧
    engine.render w.hooks context = .ok file.content
  content_eq : ∃ before after, file.content = before ++ stubs ++ after
  frame_eq : ∀ l ∈ w.listing, ∀ frame ∈ l.frame, ∃ before after,
    file.content = before ++ (frame.1 ++ list l ++ frame.2) ++ after

/-- A target keeps to its blueprint. -/
structure Sound (w : Blueprint) : Prop where
  emits : ∃ choose, w.target.emit = emitChosen w.context choose ∧
    ∀ c b, b.isManaged = c.lifecycle.isManaged → choose c b = w.choice c.role b.definedName
  nodup_keys : ("commands" :: "stubs" :: w.listing.toList.map (·.key)).Nodup
  stub_eq_none_iff : ∀ role, w.stub role = none ↔ role = .group
  tells : ∀ {scene c b node}, w.context scene c b = .ok node → w.wording.Tells c b node
  command_text : ∀ {scene c b node text}, scene.engine = w.target.engine →
    w.context scene c b = .ok node → scene.engine.render (w.template c.role) node = .ok text →
    ∃ middle rest, text = w.opening c.role (w.wording.parentVariable c) (parserVariable c.path) ++
      (middle ++ w.header c.role (parserVariable c.path) ++ rest)
  stub_text : ∀ {scene c b node stub text}, scene.engine = w.target.engine →
    b.isManaged = c.lifecycle.isManaged → w.context scene c b = .ok node →
    w.stub c.role = some stub → scene.engine.render stub node = .ok text →
    ∃ rest, text = w.comment (Text.oneLine c.description) ++
      (w.declaration c.role b.definedName ++ rest)
  composes : ∀ {scene fragments files}, scene.engine = w.target.engine →
    scene.root = w.target.root scene.tree → w.target.compose scene fragments = .ok files →
    (∃ a ∈ files, w.ShowsProgram scene.engine (Fragment.join fragments "commands") a) ∧
    ∃ a ∈ files, w.ShowsHooks scene.engine (Fragment.join fragments "stubs")
      (fun l => Fragment.join fragments l.key) a

variable {w : Blueprint}

/-- What a program shows does not depend on its metadata. -/
theorem ShowsProgram.withMeta {engine : Template.Engine} {code : String} {file : Artifact}
    (h : w.ShowsProgram engine code file) (key value : String) :
    w.ShowsProgram engine code (file.withMeta key value) :=
  ⟨h.kind_eq, h.rendered, h.content_eq⟩

/-- What a hook file shows does not depend on its metadata. -/
theorem ShowsHooks.withMeta {engine : Template.Engine} {stubs : String} {list : Listing → String}
    {file : Artifact} (h : w.ShowsHooks engine stubs list file) (key value : String) :
    w.ShowsHooks engine stubs list (file.withMeta key value) :=
  ⟨h.kind_eq, h.rendered, h.content_eq, h.frame_eq⟩

/-- A program shows the code that its template is filled in with. -/
theorem ShowsProgram.of_render {engine : Engine} {t : Template} {context : Value} {code : String}
    {file : Artifact} (hkind : file.kind = .entryPoint)
    (h : engine.render w.program context = .ok file.content)
    (ht : engine.templates.lookup w.program = some t) (hmem : put "commands_code" ∈ t)
    (hcode : Shows engine.helpers context "commands_code" code) : w.ShowsProgram engine code file :=
  ⟨hkind, ⟨context, hcode.value, h⟩, Engine.render_put ht hmem hcode h⟩

/-! ## The files of a composition -/

/-- A composition shows the code of all commands, all stubs and the list of their names, as a
blueprint tells. -/
structure ShownBy (w : Blueprint) (k : Composition) : Prop where
  target_eq : k.target = w.target
  program : ∃ p ∈ k.plans, p.template = w.program ∧ p.kind = .entryPoint
  hooks : ∃ p ∈ k.plans, p.template = w.hooks ∧ p.kind = .hookStub
  shows_code : ∀ tree fragments text, Shows w.target.engine.helpers
    (k.contextOf (w.target.root tree) fragments text) "commands_code"
      (Fragment.join fragments "commands")
  shows_stubs : ∀ tree fragments text, Shows w.target.engine.helpers
    (k.contextOf (w.target.root tree) fragments text) "stubs" (Fragment.join fragments "stubs")
  shows_list : ∀ l ∈ w.listing, ∀ tree fragments text, Shows w.target.engine.helpers
    (k.contextOf (w.target.root tree) fragments text) l.key (Fragment.join fragments l.key)
  put_code : ∃ t, w.target.engine.templates.lookup w.program = some t ∧ put "commands_code" ∈ t
  put_stubs : ∃ t, w.target.engine.templates.lookup w.hooks = some t ∧ put "stubs" ∈ t
  /-- The list stands between the last one of some lines and a text. -/
  put_list : ∀ l ∈ w.listing, ∀ frame ∈ l.frame, ∃ before above line after,
    frame.1 = line ++ "\n" ∧ w.target.engine.templates.lookup w.hooks = some
      (before ++ [lines (above ++ [line]), put l.key, Template.text frame.2] ++ after)

/-- What a target composes shows what its blueprint tells. -/
theorem ShownBy.composes {k : Composition} (hk : k.Sound) (hshown : w.ShownBy k) {scene : Scene}
    {fragments : List Fragment} {files : List Artifact} (hengine : scene.engine = w.target.engine)
    (hroot : scene.root = w.target.root scene.tree)
    (h : w.target.compose scene fragments = .ok files) :
    (∃ a ∈ files, w.ShowsProgram scene.engine (Fragment.join fragments "commands") a) ∧
    ∃ a ∈ files, w.ShowsHooks scene.engine (Fragment.join fragments "stubs")
      (fun l => Fragment.join fragments l.key) a := by
  rw [← hshown.target_eq] at h
  obtain ⟨text, -, hyields⟩ := hk.files_of_compose h
  rw [hroot] at hyields
  constructor
  · obtain ⟨p, hp, htemplate, hkind⟩ := hshown.program
    obtain ⟨a, ha, hyield⟩ := exists_right_of_mem hyields hp
    obtain ⟨t, ht, hput⟩ := hshown.put_code
    have hrender := htemplate ▸ hyield.content_eq
    rw [hengine] at hrender ⊢
    exact ⟨a, ha, .of_render (hyield.kind_eq.trans hkind) hrender ht hput
      (hshown.shows_code _ _ _)⟩
  · obtain ⟨p, hp, htemplate, hkind⟩ := hshown.hooks
    obtain ⟨a, ha, hyield⟩ := exists_right_of_mem hyields hp
    obtain ⟨t, ht, hput⟩ := hshown.put_stubs
    have hrender := htemplate ▸ hyield.content_eq
    have hstubs := hshown.shows_stubs scene.tree fragments text
    rw [hengine] at hrender ⊢
    refine ⟨a, ha, hyield.kind_eq.trans hkind, ?_, Engine.render_put ht hput hstubs hrender, ?_⟩
    · exact ⟨_, hstubs.value, fun l hl => (hshown.shows_list l hl _ _ _).value, hrender⟩
    · intro l hl frame hframe
      obtain ⟨before, above, line, after, hline, hlookup⟩ := hshown.put_list l hl frame hframe
      rw [hline]
      exact Engine.render_framed hlookup (hshown.shows_list l hl _ _ _) hrender

/-! ## A command's own code -/

/-- What a command's own code holds in each section. -/
structure Code (w : Blueprint) (scene : Scene) (c : Command) (b : Hook.Binding)
    (own : Fragment) : Prop where
  rendered : ∃ node, w.context scene c b = .ok node ∧
    scene.engine.render (w.template c.role) node = .ok (own.code "commands") ∧
    ∀ stub ∈ w.stub c.role, scene.engine.render stub node = .ok (own.code "stubs")
  listed : ∀ l ∈ w.listing,
    own.code l.key = if c.role = .group then "" else l.line c.role b.definedName
  nothing : c.role = .group → own.code "stubs" = ""

/-- Sections that are pushed to an empty fragment are its code. -/
private theorem code_sections (path : List String) {sections : List (String × String)}
    (h : (sections.map (·.1)).Nodup) (name : String) :
    (sections.foldl (fun f s => f.push s.1 s.2) (Fragment.empty path)).code name =
      (sections.lookup name).getD "" := by
  rw [Fragment.code_pushAll h, Fragment.code, Fragment.empty, List.lookup_nil, Option.getD_none,
    String.empty_append]

namespace Sound

/-- Listings stand under keys of their own. -/
theorem key_ne (hw : w.Sound) {l : Listing} (hl : l ∈ w.listing) :
    l.key ≠ "commands" ∧ l.key ≠ "stubs" := by
  have hkeys := hw.nodup_keys
  rw [Option.mem_def.1 hl] at hkeys
  simp only [Option.toList_some, List.map_cons, List.map_nil, List.nodup_cons, List.mem_cons,
    not_or] at hkeys
  exact ⟨Ne.symm hkeys.1.2.1, Ne.symm hkeys.2.1.1⟩

variable {scene : Scene} {c : Command} {b : Hook.Binding}

/-- The code that a target makes of a command alone. -/
theorem code (hw : w.Sound) (hbinding : scene.bindings.get? c.path = some b)
    (hmanaged : b.isManaged = c.lifecycle.isManaged) {own : Fragment}
    (h : w.target.ownCode scene c = .ok own) : w.Code scene c b own := by
  obtain ⟨choose, hemit, hchoose⟩ := hw.emits
  rw [ownCode, leave, hbinding, hemit] at h
  obtain ⟨node, text, hook, hnode, htext, hhook, hown⟩ := emitChosen_ok (mapError_eq_ok.1 h)
  have hcode (hkeys : ((("commands", text) :: hook).map (·.1)).Nodup) (name : String) :
      own.code name = ((("commands", text) :: hook).lookup name).getD "" := by
    rw [hown]
    exact code_sections c.path hkeys name
  rw [hchoose c b hmanaged] at htext hhook
  have hkeys := hw.nodup_keys
  cases hstub : w.stub c.role with
  | none =>
    have hgroup : c.role = .group := (hw.stub_eq_none_iff c.role).1 hstub
    rw [choice, hstub] at hhook
    cases hhook
    -- There is no section but that of the command's registration.
    replace hcode := hcode (List.pairwise_singleton _ _)
    refine ⟨⟨node, hnode, ?_, by simp [hstub]⟩, fun l hl => ?_, fun _ => hcode "stubs"⟩
    · rw [hcode "commands"]
      exact htext
    · rw [if_pos hgroup, hcode l.key, lookup_cons_ite, if_neg (hw.key_ne hl).1]
      rfl
  | some stub =>
    have hhooked : c.role ≠ .group := by
      rw [ne_eq, ← hw.stub_eq_none_iff, hstub]
      exact Option.some_ne_none stub
    rw [choice, hstub] at hhook
    obtain ⟨stubText, hstubText, hhook⟩ := bind_eq_ok.1 hhook
    cases hhook
    replace hcode := hcode (by simpa [Function.comp_def] using hkeys)
    refine ⟨⟨node, hnode, ?_, ?_⟩, fun l hl => ?_, fun hgroup => absurd hgroup hhooked⟩
    · rw [hcode "commands"]
      exact htext
    · intro other hother
      rw [hstub] at hother
      cases hother
      rw [hcode "stubs"]
      exact hstubText
    · rw [if_neg hhooked, hcode l.key, lookup_cons_ite, if_neg (hw.key_ne hl).1, lookup_cons_ite,
        if_neg (hw.key_ne hl).2, Option.mem_def.1 hl, Option.toList_some, List.map_singleton,
        lookup_cons_ite, if_pos rfl, Option.getD_some]

/-! ## Rendering -/

variable {tree : CommandTree} {options : RenderOptions}

/-- **What a rendering is made of.** The program and the file of hooks show the code of every
section, and it is put together from the commands' own code in the order of the walk. The names of
all hooks are different. -/
theorem render_ok (hw : w.Sound) {maxDepth : Nat} {document : Value}
    (hbuild : CommandTree.build maxDepth document = .ok tree) {files : List Artifact}
    (h : w.target.render tree options = .ok files) :
    let r := Hook.Resolver.make w.target.naming options.hookThreshold
    ∃ scene own, w.target.scene tree options = .ok scene ∧ scene.engine = w.target.engine ∧
      (tree.walk.map (r.settledName tree)).Nodup ∧
      List.Forall₂ (fun c f => scene.bindings.get? c.path = some (r.settledBinding tree c) ∧
        w.Code scene c (r.settledBinding tree c) f) tree.walk own ∧
      (∃ a ∈ files, w.ShowsProgram scene.engine (String.join (own.map (·.code "commands"))) a) ∧
      ∃ a ∈ files, w.ShowsHooks scene.engine (String.join (own.map (·.code "stubs")))
        (fun l => String.join (own.map (·.code l.key))) a := by
  intro r
  obtain ⟨scene, fragments, log, composed, hscene, hforest, hcomposed, rfl⟩ := render_eq_ok h
  obtain ⟨choose, hemit, -⟩ := hw.emits
  obtain ⟨-, own, hown, hjoin⟩ := (appends_of_emitChosen hemit).join_emitForest hforest
  obtain ⟨bindings, hindex, rfl⟩ := scene_eq_ok.1 hscene
  have hpaths := CommandTree.nodup_paths_of_build hbuild
  obtain ⟨⟨program, hprogram, hshown⟩, hooks, hhooks, hlisted⟩ := hw.composes rfl rfl hcomposed
  refine ⟨_, own, hscene, rfl, ((Hook.Index.build_eq_ok_iff hpaths).1 hindex).1, ?_, ?_, ?_⟩
  · have hwalk : List.Forall₂ (fun c f => c ∈ tree.walk ∧ w.target.ownCode _ c = .ok f)
        tree.walk own := (List.forall₂_and_left tree.walk own).2 ⟨fun c hc => hc, hown⟩
    refine hwalk.imp ?_
    rintro c f ⟨hc, hcode⟩
    have hbound := Hook.Index.get?_of_build hpaths hindex hc
    exact ⟨hbound, hw.code hbound Hook.Resolver.isManaged_settledBinding hcode⟩
  · rw [hjoin] at hshown
    exact ⟨_, List.mem_map_of_mem hprogram, hshown.withMeta _ _⟩
  · simp only [hjoin] at hlisted
    exact ⟨_, List.mem_map_of_mem hhooks, hlisted.withMeta _ _⟩

end Sound

end Blueprint

end CliGen
