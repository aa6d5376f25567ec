import CliGen.Proofs.Hook.Settled
import CliGen.Proofs.Target.Variables

/-!
# Variables of commands and actions

A generated program keeps one variable for each command, and four more for each managed one, whose
actions are parsers of their own. The variable of an action is the one that a command of the
action's name below the managed command would have (`parserVariable_concat`). A managed command has
nothing below it, so these paths, too, are told apart by their identifiers (`variablePaths_inj`),
and all variables of a program are different (`CommandTree.variables_of_build`).
-/

namespace CliGen

open Naming

/-! ## What a variable looks like -/

/-- A variable begins with a mark of its own, and goes on with small letters, digits and
underscores. -/
structure IsVariable (s : String) : Prop where
  ne_empty : s ≠ ""
  begins : ∃ rest, s = "cmd_" ++ rest
  chars : ∀ c ∈ s.toList, c.isLower = true ∨ c.isDigit = true ∨ c = '_'

/-- A joined text has the characters of its parts and of what stands between them. -/
theorem forall_mem_intercalate {p : Char → Prop} {separator : String} {parts : List String}
    (hseparator : ∀ c ∈ separator.toList, p c) (hparts : ∀ s ∈ parts, ∀ c ∈ s.toList, p c) :
    ∀ c ∈ (separator.intercalate parts).toList, p c := by
  intro c hc
  rw [String.toList_intercalate] at hc
  rcases mem_intercalate hc with hc | ⟨part, hpart, hc⟩
  · exact hseparator c hc
  · obtain ⟨s, hs, rfl⟩ := List.mem_map.1 hpart
    exact hparts s hs c hc

/-- Names that are put together make a variable. -/
theorem isVariable_parserVariable {path : List String}
    (hpath : ∀ s ∈ path, Field.isName s = true) : IsVariable (parserVariable path) := by
  -- Separators are made of underscores, which variables may have.
  have hunderscore : ∀ text : String, (∀ c ∈ text.toList, c = '_') →
      ∀ c ∈ text.toList, c.isLower = true ∨ c.isDigit = true ∨ c = '_' :=
    fun _ h c hc => .inr (.inr (h c hc))
  have hidentifier : ∀ i ∈ path.map identifier, ∀ c ∈ i.toList,
      c.isLower = true ∨ c.isDigit = true ∨ c = '_' := by
    intro i hi
    obtain ⟨s, hs, rfl⟩ := List.mem_map.1 hi
    refine forall_mem_intercalate (hunderscore "_" (by simp)) fun w hw c hc => ?_
    have hword : IsWord w := isWord_of_mem_words (hpath s hs) hw
    rcases hword.small c hc with hlower | hdigit
    · exact .inl hlower
    · exact .inr (.inl hdigit)
  refine ⟨?_, ⟨_, rfl⟩, ?_⟩
  · intro hempty
    have hchars := congrArg String.toList hempty
    simp [parserVariable] at hchars
  · intro c hc
    rw [parserVariable, String.toList_append, List.mem_append] at hc
    rcases hc with hc | hc
    · have hmark : ∀ c ∈ "cmd_".toList, c.isLower = true ∨ c = '_' := by simp
      rcases hmark c hc with hlower | hunder
      · exact .inl hlower
      · exact .inr (.inr hunder)
    · exact forall_mem_intercalate (hunderscore "__" (by simp)) hidentifier c hc

/-! ## Variables of actions -/

/-- An action is called by its identifier. -/
theorem identifier_of_mem_actions {action : String} (h : action ∈ Lifecycle.actions) :
    Field.isName action = true ∧ identifier action = action := by
  have hall : ∀ a ∈ Lifecycle.actions, Field.isName a = true ∧ identifier a = a := by
    decide +kernel
  exact hall action h

/-- The variable below a path. -/
theorem parserVariable_concat {path : List String} (hpath : path ≠ []) (segment : String) :
    parserVariable (path ++ [segment]) = parserVariable path ++ "__" ++ identifier segment := by
  have hne : path.map identifier ≠ [] := by simpa using hpath
  rw [parserVariable, List.map_append, List.map_singleton,
    String.intercalate_append_of_ne_nil hne (List.cons_ne_nil _ _), String.intercalate_singleton,
    parserVariable, String.append_assoc, String.append_assoc, String.append_assoc]

namespace Command

/-- The variables that a generated program keeps for a command: that of its parser, and those of its
actions. -/
def parserVariables (c : Command) : List String :=
  parserVariable c.path ::
    if c.lifecycle.isManaged then Lifecycle.actions.map (parserVariable c.path ++ "__" ++ ·) else []

/-- The paths that the variables of a command are named after. -/
def variablePaths (c : Command) : List (List String) :=
  c.path :: if c.lifecycle.isManaged then Lifecycle.actions.map (c.path ++ [·]) else []

/-- Every command has a path. -/
theorem path_ne_nil (c : Command) : c.path ≠ [] := by simp [path]

/-- The variables of a command stand for its path and for those of its actions. -/
theorem parserVariables_eq (c : Command) :
    c.parserVariables = c.variablePaths.map parserVariable := by
  rw [parserVariables, variablePaths, List.map_cons]
  split
  · rw [List.map_map]
    congr 1
    apply List.map_congr_left
    intro action haction
    rw [Function.comp_apply, parserVariable_concat c.path_ne_nil,
      (identifier_of_mem_actions haction).2]
  · rfl

/-- A variable stands for the command, or for an action of a managed one. -/
theorem mem_variablePaths {c : Command} {p : List String} : p ∈ c.variablePaths ↔
    p = c.path ∨ c.lifecycle.isManaged = true ∧ ∃ a ∈ Lifecycle.actions, p = c.path ++ [a] := by
  rw [variablePaths, List.mem_cons]
  split
  next h => simp [h, eq_comm]
  next h => simp [h]

/-- No two variables of a command stand for the same path. -/
theorem nodup_variablePaths (c : Command) : c.variablePaths.Nodup := by
  rw [variablePaths]
  split
  · refine List.nodup_cons.2 ⟨by simp, List.Nodup.map ?_ (by decide)⟩
    intro a b heq
    exact (List.cons.inj (List.append_cancel_left heq)).1
  · exact List.nodup_singleton _

end Command

/-! ## The variables of a program -/

namespace CommandTree

variable {maxDepth : Nat} {document : Value} {t : CommandTree}

/-- What variables stand for are paths of names. -/
theorem isName_of_mem_variablePaths (hbuild : build maxDepth document = .ok t) {c : Command}
    (hc : c ∈ t.walk) {p : List String} (hp : p ∈ c.variablePaths) :
    p ≠ [] ∧ ∀ s ∈ p, Field.isName s = true := by
  have hpath := isName_of_mem_path hbuild hc
  rcases Command.mem_variablePaths.1 hp with rfl | ⟨-, action, haction, rfl⟩
  · exact ⟨c.path_ne_nil, hpath⟩
  · refine ⟨by simp, fun s hs => ?_⟩
    rcases List.mem_append.1 hs with hs | hs
    · exact hpath s hs
    · exact List.mem_singleton.1 hs ▸ (identifier_of_mem_actions haction).1

/-- No command stands where an action of a managed one would. -/
theorem identifiers_ne_action (hbuild : build maxDepth document = .ok t) {c d : Command}
    (hc : c ∈ t.walk) (hd : d ∈ t.walk) (hmanaged : d.lifecycle.isManaged = true)
    (action : String) : c.path.map identifier ≠ (d.path ++ [action]).map identifier := by
  intro heq
  rw [Command.path, List.map_append, List.map_append] at heq
  have habove : c.parentPath.map identifier = d.path.map identifier :=
    (List.append_inj' heq rfl).1
  have hnested : c.parentPath ≠ [] := by
    intro htop
    rw [htop] at habove
    exact d.path_ne_nil (by simpa using habove.symm)
  obtain ⟨p, hmem, hpath, hpair⟩ := Level.exists_parent hbuild hc hnested
  have hp : p ∈ t.walk := hpair.subset (by simp)
  -- What stands above the command is the managed one, and nothing stands below that.
  have hsame : p = d := eq_of_identifiers hbuild hp hd (hpath ▸ habove)
  obtain ⟨ancestors, siblings, hlevel, hd'⟩ := Level.exists_of_mem_walk hd
  have hsound : d.Sound := (hlevel.sound_of_build hbuild).each d hd'
  rw [hsame, hsound.managed_subcommands hmanaged] at hmem
  exact List.not_mem_nil hmem

/-- The paths that the variables of a program are named after are told apart by their
identifiers. -/
theorem variablePaths_inj (hbuild : build maxDepth document = .ok t) {c d : Command}
    (hc : c ∈ t.walk) (hd : d ∈ t.walk) {p q : List String} (hp : p ∈ c.variablePaths)
    (hq : q ∈ d.variablePaths) (heq : p.map identifier = q.map identifier) : c = d ∧ p = q := by
  rcases Command.mem_variablePaths.1 hp with rfl | ⟨hcmanaged, a, ha, rfl⟩ <;>
    rcases Command.mem_variablePaths.1 hq with rfl | ⟨hdmanaged, b, hb, rfl⟩
  · obtain rfl := eq_of_identifiers hbuild hc hd heq
    exact ⟨rfl, rfl⟩
  · exact absurd heq (identifiers_ne_action hbuild hc hd hdmanaged b)
  · exact absurd heq.symm (identifiers_ne_action hbuild hd hc hcmanaged a)
  · rw [List.map_append, List.map_append] at heq
    obtain ⟨hpath, hlast⟩ := List.append_inj' heq rfl
    have haction : a = b := by
      have := (List.cons.inj hlast).1
      rwa [(identifier_of_mem_actions ha).2, (identifier_of_mem_actions hb).2] at this
    obtain rfl := eq_of_identifiers hbuild hc hd hpath
    exact ⟨rfl, by rw [haction]⟩

/-- No two variables of a tree are the same, of commands or of actions. -/
theorem nodup_variables (hbuild : build maxDepth document = .ok t) :
    (t.walk.flatMap Command.parserVariables).Nodup := by
  have hinj : ∀ c ∈ t.walk, ∀ d ∈ t.walk, ∀ p ∈ c.variablePaths, ∀ q ∈ d.variablePaths,
      parserVariable p = parserVariable q → c = d ∧ p = q := by
    intro c hc d hd p hp q hq heq
    obtain ⟨hne, hnames⟩ := isName_of_mem_variablePaths hbuild hc hp
    obtain ⟨hne', hnames'⟩ := isName_of_mem_variablePaths hbuild hd hq
    exact variablePaths_inj hbuild hc hd hp hq (parserVariable_inj hne hne' hnames hnames' heq)
  rw [List.nodup_flatMap]
  constructor
  · intro c hc
    rw [c.parserVariables_eq]
    exact c.nodup_variablePaths.map_on fun p hp q hq heq => (hinj c hc c hc p hp q hq heq).2
  · refine (nodup_paths_of_build hbuild).of_map.pairwise_of_forall_ne ?_
    intro c hc d hd hne v hv hv'
    rw [c.parserVariables_eq] at hv
    rw [d.parserVariables_eq] at hv'
    obtain ⟨p, hp, rfl⟩ := List.mem_map.1 hv
    obtain ⟨q, hq, heq⟩ := List.mem_map.1 hv'
    exact hne (hinj c hc d hd p hp q hq heq.symm).1

end CommandTree

/-- The variables in what stands for a command: its own, and those of its actions. -/
def Value.parserVariables (v : Value) : List String :=
  v.textAt "var" :: (v.itemsAt "actions").map (·.textAt "var")

/-- What stands for a command holds the variables of the command. -/
theorem Wording.variables_command (w : Wording) (r : Hook.Resolver) (t : CommandTree)
    (c : Command) :
    (w.command t.cliName c (r.settledBinding t c)).parserVariables = c.parserVariables := by
  rw [Value.parserVariables, Command.parserVariables]
  cases hmanaged : c.lifecycle.isManaged <;>
    simp [command, Value.textAt, Value.itemsAt, Value.field, Value.get?, Fields.get?, Value.str?,
      Value.list?, Hook.Resolver.settledBinding, Hook.Resolver.controller, action, hmanaged]

/-- **Variables never clash.** In every program for a tree that is built, the variables of all
commands and of all actions of managed ones are pairwise different, and each is a variable. They are
the ones that templates are filled in with. -/
theorem CommandTree.variables_of_build {maxDepth : Nat} {document : Value} {t : CommandTree}
    (h : build maxDepth document = .ok t) :
    (t.walk.flatMap Command.parserVariables).Nodup ∧
      (∀ v ∈ t.walk.flatMap Command.parserVariables, IsVariable v) ∧
      ∀ (w : Wording) (r : Hook.Resolver) (index : Hook.Index), Hook.Index.build t r = .ok index →
        ∀ c ∈ t.walk, ∃ b, index.get? c.path = some b ∧
          (w.command t.cliName c b).parserVariables = c.parserVariables := by
  refine ⟨nodup_variables h, fun v hv => ?_, fun w r index hindex c hc => ?_⟩
  · obtain ⟨c, hc, hv⟩ := List.mem_flatMap.1 hv
    rw [c.parserVariables_eq] at hv
    obtain ⟨p, hp, rfl⟩ := List.mem_map.1 hv
    exact isVariable_parserVariable (isName_of_mem_variablePaths h hc hp).2
  · exact ⟨_, Hook.Index.get?_of_build (nodup_paths_of_build h) hindex hc,
      w.variables_command r t c⟩

/-- The variables of a group with a managed command and a leaf. -/
theorem CommandTree.variables_of_build_equipped : ∃ t, build 2 equipped = .ok t ∧
    t.walk.flatMap Command.parserVariables = ["cmd_db", "cmd_db__serve", "cmd_db__serve__start",
      "cmd_db__serve__stop", "cmd_db__serve__restart", "cmd_db__serve__status",
      "cmd_db__dry_run"] ∧ (t.walk.flatMap Command.parserVariables).Nodup := by
  have hbuilt : (build 2 equipped).toOption.any (fun t => t.walk.flatMap Command.parserVariables =
      ["cmd_db", "cmd_db__serve", "cmd_db__serve__start", "cmd_db__serve__stop",
        "cmd_db__serve__restart", "cmd_db__serve__status", "cmd_db__dry_run"]) = true := by
    decide +kernel
  simp only [Option.any_eq_true, Outcome.toOption_eq_some, decide_eq_true_eq] at hbuilt
  obtain ⟨t, ht, hvariables⟩ := hbuilt
  exact ⟨t, ht, hvariables, (variables_of_build ht).1⟩

end CliGen
