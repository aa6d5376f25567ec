import CliGen.Proofs.Target.Blueprint.Builtin

/-!
# The file of hooks defines the names of a tree

Every command but a group has a stub in the file of hooks: a controller for a managed command, a
callable for any other. The stubs stand in the order of the walk, and wherever the file lists their
names, it lists them in the same order (`Blueprint.stubs_in_order`).
-/

namespace CliGen

open Hook (Resolver)

/-- The stub of a hook. -/
structure Stub where
  role : Command.Role
  name : String
  text : String

/-- The lines of some stubs in a list. -/
def Listing.lines (l : Listing) (stubs : List Stub) : String :=
  String.join (stubs.map fun s => l.line s.role s.name)

namespace Blueprint

/-- A stub defines the hook of a command: its name is the one that is bound to the command, and its
text is what the template of the command's role makes of what stands for the command. It declares
the name, with the description of the command in front of it. -/
structure Defines (w : Blueprint) (scene : Scene) (c : Command) (s : Stub) : Prop where
  role_eq : s.role = c.role
  rendered : ∃ b node template, scene.bindings.get? c.path = some b ∧
    b.isManaged = c.lifecycle.isManaged ∧ s.name = b.definedName ∧
    w.context scene c b = .ok node ∧ w.wording.Tells c b node ∧
    w.stub c.role = some template ∧ scene.engine.render template node = .ok s.text
  text_eq : ∃ rest, s.text = w.comment (Text.oneLine c.description) ++
    (w.declaration s.role s.name ++ rest)

variable {w : Blueprint} {scene : Scene} {c : Command} {b : Hook.Binding}

/-- The stub of a command that is no group. -/
theorem Sound.defines (hw : w.Sound) (hengine : scene.engine = w.target.engine)
    (hbinding : scene.bindings.get? c.path = some b)
    (hmanaged : b.isManaged = c.lifecycle.isManaged) {own : Fragment} (h : w.Code scene c b own)
    (hrole : c.role ≠ .group) :
    w.Defines scene c ⟨c.role, b.definedName, own.code "stubs"⟩ := by
  obtain ⟨template, htemplate⟩ : ∃ template, w.stub c.role = some template := by
    rw [← Option.ne_none_iff_exists', ne_eq, hw.stub_eq_none_iff]
    exact hrole
  obtain ⟨node, hnode, -, hstubs⟩ := h.rendered
  have hstub := hstubs template htemplate
  refine ⟨rfl, ⟨b, node, template, hbinding, hmanaged, rfl, hnode, hw.tells hnode, htemplate,
    hstub⟩, ?_⟩
  exact hw.stub_text hengine hmanaged hnode htemplate hstub

/-- The stubs of some commands, from their own code. -/
theorem Sound.exists_stubs (hw : w.Sound) (hengine : scene.engine = w.target.engine)
    {r : Resolver} {t : CommandTree} {cs : List Command} {own : List Fragment}
    (h : List.Forall₂ (fun c f => scene.bindings.get? c.path = some (r.settledBinding t c) ∧
      w.Code scene c (r.settledBinding t c) f) cs own) :
    ∃ stubs, List.Forall₂ (w.Defines scene) (cs.filter (·.role ≠ .group)) stubs ∧
      stubs.map (·.name) = (cs.filter (·.role ≠ .group)).map (r.settledName t) ∧
      String.join (own.map (·.code "stubs")) = String.join (stubs.map (·.text)) ∧
      ∀ l ∈ w.listing, String.join (own.map (·.code l.key)) = l.lines stubs := by
  induction h with
  | nil => exact ⟨[], .nil, rfl, rfl, fun _ _ => rfl⟩
  | @cons c f cs own hfirst _ ih =>
    obtain ⟨stubs, hdefines, hnames, htexts, hlines⟩ := ih
    obtain ⟨hbinding, hcode⟩ := hfirst
    by_cases hgroup : c.role = .group
    · -- A group has nothing in these sections.
      refine ⟨stubs, ?_, ?_, ?_, fun l hl => ?_⟩
      · rwa [List.filter_cons_of_neg (by simpa using hgroup)]
      · rwa [List.filter_cons_of_neg (by simpa using hgroup)]
      · rw [List.map_cons, String.join_cons, hcode.nothing hgroup, String.empty_append, htexts]
      · rw [List.map_cons, String.join_cons, hcode.listed l hl, if_pos hgroup,
          String.empty_append, hlines l hl]
    · have hmanaged := Resolver.isManaged_settledBinding (r := r) (t := t) (c := c)
      refine ⟨⟨c.role, (r.settledBinding t c).definedName, f.code "stubs"⟩ :: stubs,
        ?_, ?_, ?_, fun l hl => ?_⟩
      · rw [List.filter_cons_of_pos (by simpa using hgroup)]
        exact .cons (hw.defines hengine hbinding hmanaged hcode hgroup) hdefines
      · rw [List.filter_cons_of_pos (by simpa using hgroup), List.map_cons, List.map_cons, hnames,
          Resolver.definedName_settledBinding]
      · rw [List.map_cons, String.join_cons, htexts, List.map_cons, String.join_cons]
      · rw [List.map_cons, String.join_cons, hcode.listed l hl, if_neg hgroup, hlines l hl,
          Listing.lines, Listing.lines, List.map_cons, String.join_cons]

/-- A hook file shows what is listed, in whatever words it is told. -/
theorem ShowsHooks.congr {engine : Template.Engine} {stubs : String} {list list' : Listing → String}
    {file : Artifact} (h : w.ShowsHooks engine stubs list file)
    (hlist : ∀ l ∈ w.listing, list l = list' l) : w.ShowsHooks engine stubs list' file := by
  obtain ⟨context, hstubs, hlists, hrender⟩ := h.rendered
  refine ⟨h.kind_eq, ⟨context, hstubs, fun l hl => ?_, hrender⟩, h.content_eq,
    fun l hl => ?_⟩
  · rw [← hlist l hl]
    exact hlists l hl
  · rw [← hlist l hl]
    exact h.frame_eq l hl

/-- **The file of hooks defines the names of a tree.** It shows one stub for each command that is no
group, in the order of the walk, with the name that is bound to the command. All these names are
different, and where the target lists them, it lists them in the same order. -/
theorem stubs_in_order (hw : w ∈ builtin) {maxDepth : Nat} {document : Value} {tree : CommandTree}
    (hbuild : CommandTree.build maxDepth document = .ok tree) {options : RenderOptions}
    {files : List Artifact}
    (h : Registry.builtin.render tree options w.target.id = .ok files) :
    ∃ scene stubs, w.target.scene tree options = .ok scene ∧
      List.Forall₂ (w.Defines scene) (tree.walk.filter (·.role ≠ .group)) stubs ∧
      (stubs.map (·.name)).Nodup ∧
      ∃ hooks ∈ files, w.ShowsHooks scene.engine (String.join (stubs.map (·.text)))
        (·.lines stubs) hooks := by
  have hsound := sound_of_mem_builtin hw
  rw [render_registry hw] at h
  obtain ⟨scene, own, hscene, hengine, hnames, hown, -, hooks, hhooks, hshown⟩ :=
    hsound.render_ok hbuild h
  obtain ⟨stubs, hdefines, hsettled, htexts, hlines⟩ := hsound.exists_stubs hengine hown
  refine ⟨scene, stubs, hscene, hdefines, ?_, hooks, hhooks, ?_⟩
  · rw [hsettled]
    exact hnames.sublist (List.filter_sublist.map _)
  · rw [htexts] at hshown
    exact hshown.congr hlines

/-- A controller and a callable below a group, which has no stub. -/
theorem stubs_in_order_equipped : ∃ tree files scene stubs,
    CommandTree.build 2 CommandTree.equipped = .ok tree ∧
    tree.walk.map (fun c => (c.path, c.role)) =
      [(["db"], .group), (["db", "serve"], .managed), (["db", "dry-run"], .leaf)] ∧
    Registry.builtin.render tree ⟨3, 2⟩ "rust" = .ok files ∧
    List.Forall₂ (rust.Defines scene) (tree.walk.filter (·.role ≠ .group)) stubs ∧
    (stubs.map (·.name)).Nodup ∧
    ∃ hooks ∈ files, rust.ShowsHooks scene.engine (String.join (stubs.map (·.text)))
      (·.lines stubs) hooks := by
  obtain ⟨tree, hbuild, hwalk, hrender⟩ := exists_render_equipped
  have hmem : rust ∈ builtin := by simp [builtin]
  obtain ⟨files, hfiles⟩ := hrender rust hmem
  obtain ⟨scene, stubs, -, hdefines, hnames, hhooks⟩ := stubs_in_order hmem hbuild hfiles
  exact ⟨tree, files, scene, stubs, hbuild, hwalk, hfiles, hdefines, hnames, hhooks⟩

end Blueprint

end CliGen
