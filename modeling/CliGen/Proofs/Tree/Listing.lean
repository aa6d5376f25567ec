import CliGen.Proofs.Tree.Invariants
import Mathlib.Data.List.Induction

/-!
# The listing of a tree

The walk of a tree is made with a list of pending commands, a command is found by going down along
the names of its path, and each command keeps the path above it. On a tree that has been built the
three agree (`CommandTree.listed_of_build`): the walk is the recursive one, a command is found at a
path exactly if it is listed with that path, and the listed paths are those that the document
declares, in the order in which it declares them.

## Shape of the proof

* `walkPending_eq_preorderAll`: the pending commands are walked as the recursion walks them.
* `Build.paths_of_mapM`: the walk of what is read has the paths of its entries, `declaredPaths`.
* `CommandTree.exists_level_of_find?`: what is found at a path stands on a level below the commands
  of that path, so it is listed, and with that path.
-/

namespace CliGen

open Outcome

/-! ## The walk as a recursion -/

mutual

/-- A command, and then all commands below it. -/
def Command.preorder : Command → List Command
  | .mk name description icon aliases hidden arguments options lifecycle parentPath subcommands =>
    .mk name description icon aliases hidden arguments options lifecycle parentPath subcommands ::
      preorderAll subcommands

/-- Some commands in order, each with all commands below it. -/
def preorderAll : List Command → List Command
  | [] => []
  | c :: rest => c.preorder ++ preorderAll rest

end

/-- A command comes before those below it. -/
theorem Command.preorder_eq (c : Command) : c.preorder = c :: preorderAll c.subcommands := by
  cases c; rw [Command.preorder]

/-- The walk with a stack is the recursive one. -/
theorem walkPending_eq_preorderAll (cs : List Command) : walkPending cs = preorderAll cs := by
  induction cs using forest_induction with
  | nil => rw [walkPending_nil, preorderAll]
  | cons c cs below beside =>
    rw [walkPending_cons, preorderAll, c.preorder_eq, below, beside, List.cons_append]

/-! ## The commands that a document declares -/

/-- The bodies in a container of commands with their names, in the order of declaration. -/
def Value.declared : Value → List NamedBody
  | .object entries => entries
  | .list items => items.map fun item => (item.textAt "name", item)
  | _ => []

/-- No field is larger than what it belongs to. -/
theorem sizeOf_field_le (v : Value) (key : String) : sizeOf (v.field key) ≤ sizeOf v := by
  have hfound : sizeOf (v.get? key) ≤ sizeOf v := Build.sizeOf_get? v key
  rw [Value.field]
  cases h : v.get? key with
  | none => cases v <;> simp
  | some w =>
    rw [h, Option.some.sizeOf_spec] at hfound
    rw [Option.getD_some]
    omega

/-- No value is without size. -/
theorem sizeOf_pos (v : Value) : 0 < sizeOf v := by
  cases v <;> simp only [Value.null.sizeOf_spec, Value.bool.sizeOf_spec, Value.int.sizeOf_spec,
    Value.float.sizeOf_spec, Value.str.sizeOf_spec, Value.list.sizeOf_spec,
    Value.object.sizeOf_spec] <;> omega

/-- What is declared below a value is smaller than the value. -/
theorem bodySize_declared (v : Value) : Build.bodySize v.declared < sizeOf v := by
  cases v with
  | object entries =>
    have := Build.bodySize_fields entries
    simp only [Value.declared, Value.object.sizeOf_spec]
    omega
  | list items =>
    simp only [Value.declared, Value.list.sizeOf_spec]
    induction items with
    | nil => simp [Build.bodySize]
    | cons item rest ih =>
      simp only [Build.bodySize, List.map_cons, List.sum_cons, List.cons.sizeOf_spec] at *
      omega
  | _ => exact sizeOf_pos _

/-- The paths of some bodies below a path: each body, then the bodies declared below it. -/
def declaredPaths (parent : List String) : List NamedBody → List (List String)
  | [] => []
  | (name, body) :: rest =>
    (parent ++ [name]) ::
      (declaredPaths (parent ++ [name]) (body.field "subcommands").declared ++
        declaredPaths parent rest)
termination_by entries => (entries.map fun e => sizeOf e.2).sum
decreasing_by
  · have hbelow := bodySize_declared (body.field "subcommands")
    have hfield := sizeOf_field_le body "subcommands"
    simp only [Build.bodySize, List.map_cons, List.sum_cons] at *
    omega
  · have hbody := sizeOf_pos body
    simp only [List.map_cons, List.sum_cons]
    omega

/-- The paths of all command bodies of a document, one for each. -/
def Value.commandPaths (document : Value) : List (List String) :=
  match cliSection? document with
  | none => []
  | some fields => declaredPaths [] ((fields.get? "commands").getD .null).declared

/-- The entries of a container that passes are the bodies that it declares. -/
theorem Siblings.eq_declared_of_collect {container : Option Value} {field : String}
    {parent : List String} {found : List NamedBody}
    (h : collect container field parent = .ok found) : found = (container.getD .null).declared := by
  have hentries := Build.entries_of_collect h
  unfold entries at hentries
  split at hentries
  · cases hentries; rfl
  · cases hentries; rfl
  · cases hentries; rfl
  next items =>
    show found = items.map fun item => (item.textAt "name", item)
    have hall := mapM_eq_ok.1 hentries
    clear h hentries
    induction hall with
    | nil => rfl
    | @cons item entry _ _ hentry _ ih =>
      rw [List.map_cons, ← ih]
      split at hentry
      next name hname =>
        obtain ⟨v, hv, hstr⟩ := Option.bind_eq_some_iff.1 hname
        cases hentry
        simp [Value.textAt, Value.field, hv, hstr]
      next => cases hentry
  · cases hentries

/-- The walk of what is read has the paths that its entries declare. -/
theorem Build.paths_of_mapM {limit : Nat} {path : List String} {entries : List NamedBody}
    {cs : List Command} (h : entries.mapM (readNested limit path) = .ok cs) :
    (walkPending cs).map (·.path) = declaredPaths path entries := by
  induction cs using forest_induction generalizing path entries with
  | nil =>
    have hnone : entries = [] := by simpa using mapM_eq_ok.1 h
    rw [hnone, walkPending_nil, declaredPaths]
    rfl
  | cons c cs below beside =>
    obtain ⟨⟨name, body⟩, rest, hc, hcs, rfl⟩ := List.forall₂_cons_right_iff.1 (mapM_eq_ok.1 h)
    obtain ⟨-, hname, hparent, nested, hnested, hsubs⟩ := readNested_ok hc
    have hpath : c.path = path ++ [name] := by rw [Command.path, hparent, hname]
    have hdeclared : nested = (body.field "subcommands").declared :=
      Siblings.eq_declared_of_collect hnested
    rw [walkPending_cons, List.map_cons, List.map_append, hpath, below hsubs,
      beside (mapM_eq_ok.2 hcs), declaredPaths, hdeclared]

/-! ## Finding -/

/-- What is found by a name is there and has the name. -/
theorem Command.of_find?_eq_some {name : String} {cs : List Command} {c : Command}
    (h : Command.find? name cs = some c) : c ∈ cs ∧ c.name = name :=
  ⟨List.mem_of_find?_eq_some h, by simpa using List.find?_some h⟩

namespace CommandTree

/-- What is found at a path stands on a level, below the commands on the way. -/
theorem exists_level_of_find? {t : CommandTree} {path : List String} {c : Command}
    (h : t.find? path = some c) : ∃ ancestors siblings, t.Level ancestors siblings ∧
      c ∈ siblings ∧ path = ancestors.map (·.name) ++ [c.name] := by
  induction path using List.reverseRecOn generalizing c with
  | nil => cases h
  | append_singleton above name ih =>
    by_cases hnil : above = []
    · subst hnil
      have hfound : Command.find? name t.commands = some c := h
      obtain ⟨hmem, hname⟩ := Command.of_find?_eq_some hfound
      refine ⟨[], t.commands, .top, hmem, ?_⟩
      rw [hname]
      rfl
    · rw [find?_concat t hnil] at h
      obtain ⟨p, hp, hfound⟩ := Option.bind_eq_some_iff.1 h
      obtain ⟨hmem, hname⟩ := Command.of_find?_eq_some hfound
      obtain ⟨ancestors, siblings, hlevel, habove, hpath⟩ := ih hp
      refine ⟨ancestors ++ [p], p.subcommands, hlevel.descend habove, hmem, ?_⟩
      rw [List.map_append, List.map_singleton, ← hpath, hname]

variable {maxDepth : Nat} {document : Value} {t : CommandTree}

/-- A command is found at a path exactly if the walk lists it with that path. -/
theorem find?_eq_some_iff (hbuild : build maxDepth document = .ok t) {path : List String}
    {c : Command} : t.find? path = some c ↔ c ∈ t.walk ∧ c.path = path := by
  constructor
  · intro h
    obtain ⟨ancestors, siblings, hlevel, hmem, hpath⟩ := exists_level_of_find? h
    refine ⟨hlevel.mem_walk hmem, ?_⟩
    rw [Command.path, (hlevel.parentPath_eq hbuild hmem).1, hpath]
  · rintro ⟨hc, rfl⟩
    obtain ⟨ancestors, siblings, hlevel, hmem⟩ := Level.exists_of_mem_walk hc
    exact hlevel.find?_path hbuild hmem

/-- Nothing is found at exactly the paths that no command has. -/
theorem find?_eq_none_iff (hbuild : build maxDepth document = .ok t) {path : List String} :
    t.find? path = none ↔ path ∉ t.walk.map (·.path) := by
  simp only [Option.eq_none_iff_forall_ne_some, ne_eq, find?_eq_some_iff hbuild, List.mem_map,
    not_exists]

/-- The walk comes to the paths that the document declares, in their order. -/
theorem paths_of_build (hbuild : build maxDepth document = .ok t) :
    t.walk.map (·.path) = document.commandPaths := by
  obtain ⟨fields, head, entries, hfields, -, hentries, hcommands, -⟩ := parts_of_build hbuild
  rw [Value.commandPaths, hfields]
  dsimp only
  rw [← Siblings.eq_declared_of_collect hentries]
  exact Build.paths_of_mapM hcommands

/-- The depth of a tree is the length of its longest path. -/
theorem maxDepth_eq (t : CommandTree) :
    t.maxDepth = ((t.walk.map (·.path.length)).max?).getD 0 := by
  have hlength : t.walk.map (·.depth + 1) = t.walk.map (·.path.length) := by
    apply List.map_congr_left
    intro c _
    rw [Command.path, List.length_append, List.length_singleton, Command.depth]
  rw [maxDepth, hlength, List.foldl_max, Nat.zero_max]

/-- What the walk of a tree and the search by path say of each other, and of the document that the
tree is built from. -/
structure Listed (document : Value) (t : CommandTree) : Prop where
  walk_eq : t.walk = preorderAll t.commands
  mem_walk : ∀ c, c ∈ t.walk ↔ ∃ ancestors siblings, t.Level ancestors siblings ∧ c ∈ siblings
  nodup_paths : (t.walk.map (·.path)).Nodup
  paths_eq : t.walk.map (·.path) = document.commandPaths
  find?_eq_some : ∀ path c, t.find? path = some c ↔ c ∈ t.walk ∧ c.path = path
  find?_eq_none : ∀ path, t.find? path = none ↔ path ∉ t.walk.map (·.path)
  find?_nil : t.find? [] = none
  nodeCount_eq : t.nodeCount = document.commandPaths.length
  maxDepth_eq : t.maxDepth = ((t.walk.map (·.path.length)).max?).getD 0

/-- **The walk and the search describe the same tree.** Whatever the document and the ceiling, the
walk of the tree lists every command once, each before those below it and siblings as they are
declared, and a command is found exactly at the path with which it is listed. -/
theorem listed_of_build (h : build maxDepth document = .ok t) : Listed document t where
  walk_eq := walkPending_eq_preorderAll t.commands
  mem_walk c := ⟨Level.exists_of_mem_walk, fun ⟨_, _, hlevel, hmem⟩ => hlevel.mem_walk hmem⟩
  nodup_paths := nodup_paths_of_build h
  paths_eq := paths_of_build h
  find?_eq_some _ _ := find?_eq_some_iff h
  find?_eq_none _ := find?_eq_none_iff h
  find?_nil := rfl
  nodeCount_eq := by rw [nodeCount, ← paths_of_build h, List.length_map]
  maxDepth_eq := t.maxDepth_eq

/-- A tree of three commands, and their paths. -/
theorem listed_of_build_equipped : ∃ t, build 2 equipped = .ok t ∧ Listed equipped t ∧
    t.walk.map (·.path) = [["db"], ["db", "serve"], ["db", "dry-run"]] := by
  have hbuilt : (build 2 equipped).toOption.any (fun t =>
      t.walk.map (·.path) = [["db"], ["db", "serve"], ["db", "dry-run"]]) = true := by
    decide +kernel
  simp only [Option.any_eq_true, toOption_eq_some, decide_eq_true_eq] at hbuilt
  obtain ⟨t, ht, hpaths⟩ := hbuilt
  exact ⟨t, ht, listed_of_build ht, hpaths⟩

end CommandTree

end CliGen
