import CliGen.Proofs.Target.Rendering

/-!
# Generating a tree is a traversal from below

A target is called for a command after it was called for the commands below it, and is given their
code. `Target.generate` says so by recursion, and keeps the calls that it makes: the depth of a
command is checked before anything below it is generated, and the first problem ends the traversal.
What the list of visits comes to for a tree whose hooks are named is such a traversal
(`Target.postOrder_of_build`).

## Shape of the proof

`generate_induction` says once what a traversal can do. Each fact about the calls is an induction
along it: their order (`calls_isPrefix`), what they are given (`calls_own`), how the last one ends
the traversal (`generate_ends`), and that no other call has a part in it (`generate_congr_calls`).
The recursion over visits differs only in how it finds the hook of a command and in what it logs
(`emitForest_eq_generate`).
-/

namespace CliGen

/-- The commands of a forest, each after those below it, siblings in declaration order. -/
def walkUp : List Command → List Command
  | [] => []
  | c :: cs => walkUp c.subcommands ++ c :: walkUp cs
termination_by cs => sizeAll cs
decreasing_by all_goals rw [sizeAll_cons]; omega

/-- The walk that comes to a command after those below it meets the same commands. -/
theorem walkUp_perm (cs : List Command) : (walkUp cs).Perm (walkPending cs) := by
  induction cs using forest_induction with
  | nil => simp [walkUp]
  | cons c cs below beside =>
    rw [walkUp, walkPending_cons]
    exact List.perm_middle.trans ((below.append beside).cons c)

/-- The failure of rendering a command. -/
def Problem.isRender : Problem → Bool
  | render .. => true
  | _ => false

/-- A problem that is told for a target keeps its own command if it has one of this kind. -/
theorem Problem.intoRender_eq (p : Problem) (target : String) (path : List String) :
    p.intoRender target path =
      if p.isRender then p else .render target path p.message (some p) := by
  cases p <;> rfl

namespace Target

/-- A call of a target: a command, what is bound to it, and the code of the commands right below
it. -/
structure Call where
  command : Command
  binding : Hook.Binding
  children : List Fragment

/-- An outcome, and the calls that were made on the way to it, in order. -/
structure Traced (α : Type) where
  outcome : Outcome α
  calls : List Call

instance : Monad Traced where
  pure a := ⟨.ok a, []⟩
  bind x f :=
    match x.outcome with
    | .ok a => ⟨(f a).outcome, x.calls ++ (f a).calls⟩
    | .error p => ⟨.error p, x.calls⟩

/-- End with a problem, without a call. -/
def Traced.fail {α : Type} (p : Problem) : Traced α := ⟨.error p, []⟩

/-- What a target answers to a call. -/
def answer (t : Target) (scene : Scene) (k : Call) : Outcome Fragment :=
  (t.emit scene k.command k.binding k.children).mapError (·.intoRender t.id k.command.path)

/-- A call fails where emitting does, and its problem is told for the target. -/
theorem answer_eq_error {t : Target} {scene : Scene} {k : Call} {p : Problem}
    (h : t.answer scene k = .error p) :
    ∃ q, t.emit scene k.command k.binding k.children = .error q ∧
      p = if q.isRender then q else .render t.id k.command.path q.message (some q) := by
  rw [answer] at h
  cases hemit : t.emit scene k.command k.binding k.children with
  | ok f => simp [hemit, Except.mapError] at h
  | error q =>
    simp only [hemit, Except.mapError, Except.error.injEq] at h
    exact ⟨q, rfl, by rw [← h, Problem.intoRender_eq]⟩

/-- Leaving a command is calling on it with the fragments below. -/
theorem leave_eq_answer {t : Target} {scene : Scene} {c : Command} {b : Hook.Binding}
    (h : scene.bindings.get? c.path = some b) (children : List Fragment) :
    t.leave scene c children = t.answer scene ⟨c, b, children⟩ := by
  rw [leave, h]
  rfl

/-- Call a target. -/
def call (t : Target) (scene : Scene) (k : Call) : Traced Fragment := ⟨t.answer scene k, [k]⟩

/-- The code of a forest by recursion: of each command, the code of those below it comes first, then
its own, then that of those beside it. -/
def generate (t : Target) (scene : Scene) (own : Command → Hook.Binding) :
    List Command → Traced (List Fragment)
  | [] => return []
  | c :: cs => do
    if scene.options.maxDepth ≤ c.depth then
      Traced.fail (.depthLimitExceeded c.path scene.options.maxDepth)
    let children ← generate t scene own c.subcommands
    let fragment ← t.call scene ⟨c, own c, children⟩
    let fragments ← generate t scene own cs
    return fragment :: fragments
termination_by cs => sizeAll cs
decreasing_by all_goals rw [sizeAll_cons]; omega

variable {t : Target} {scene : Scene} {own : Command → Hook.Binding}

/-! ## What the traversal can do -/

section
variable {c : Command} {cs : List Command}

private theorem generate_deep (h : scene.options.maxDepth ≤ c.depth) :
    t.generate scene own (c :: cs) =
      ⟨.error (.depthLimitExceeded c.path scene.options.maxDepth), []⟩ := by
  rw [generate, if_pos h]
  rfl

variable (hfits : c.depth < scene.options.maxDepth) {children : List Fragment} {calls : List Call}
  {p : Problem}
include hfits

private theorem generate_below_error
    (hbelow : t.generate scene own c.subcommands = ⟨.error p, calls⟩) :
    t.generate scene own (c :: cs) = ⟨.error p, calls⟩ := by
  rw [generate, if_neg (Nat.not_le.2 hfits), hbelow]
  rfl

variable (hbelow : t.generate scene own c.subcommands = ⟨.ok children, calls⟩)
include hbelow

private theorem generate_own_error (hown : t.answer scene ⟨c, own c, children⟩ = .error p) :
    t.generate scene own (c :: cs) = ⟨.error p, calls ++ [⟨c, own c, children⟩]⟩ := by
  rw [generate, if_neg (Nat.not_le.2 hfits), hbelow]
  simp only [bind, call, hown]

private theorem generate_own_ok {fragment : Fragment}
    (hown : t.answer scene ⟨c, own c, children⟩ = .ok fragment) :
    t.generate scene own (c :: cs) =
      ⟨(t.generate scene own cs).outcome.map (fragment :: ·),
        calls ++ ⟨c, own c, children⟩ :: (t.generate scene own cs).calls⟩ := by
  rw [generate, if_neg (Nat.not_le.2 hfits), hbelow]
  rcases hbeside : t.generate scene own cs with ⟨p | fragments, later⟩
  · simp [bind, call, hown, Except.map]
  · simp [bind, pure, call, hown, Except.map]

end

/-- A property of forests and their traversals holds if it holds of the empty forest, where a
command is too deep, where something below a command fails, where the command itself does, and where
both yield code, whatever comes of those beside it. -/
theorem generate_induction {motive : List Command → Traced (List Fragment) → Prop}
    (nil : motive [] ⟨.ok [], []⟩)
    (deep : ∀ c cs, scene.options.maxDepth ≤ c.depth →
      motive (c :: cs) ⟨.error (.depthLimitExceeded c.path scene.options.maxDepth), []⟩)
    (below_error : ∀ c cs p calls, c.depth < scene.options.maxDepth →
      motive c.subcommands ⟨.error p, calls⟩ → motive (c :: cs) ⟨.error p, calls⟩)
    (own_error : ∀ c cs children calls p, c.depth < scene.options.maxDepth →
      motive c.subcommands ⟨.ok children, calls⟩ →
      t.answer scene ⟨c, own c, children⟩ = .error p →
      motive (c :: cs) ⟨.error p, calls ++ [⟨c, own c, children⟩]⟩)
    (own_ok : ∀ c cs children calls fragment beside, c.depth < scene.options.maxDepth →
      motive c.subcommands ⟨.ok children, calls⟩ →
      t.answer scene ⟨c, own c, children⟩ = .ok fragment → motive cs beside →
      motive (c :: cs) ⟨beside.outcome.map (fragment :: ·),
        calls ++ ⟨c, own c, children⟩ :: beside.calls⟩)
    (cs : List Command) : motive cs (t.generate scene own cs) := by
  induction cs using forest_induction with
  | nil =>
    rw [generate]
    exact nil
  | cons c cs below beside =>
    rcases Nat.lt_or_ge c.depth scene.options.maxDepth with hfits | hdeep
    · rcases hbelow : generate t scene own c.subcommands with ⟨p | children, calls⟩
      · rw [generate_below_error hfits hbelow]
        exact below_error c cs p calls hfits (hbelow ▸ below)
      · rw [hbelow] at below
        cases hown : t.answer scene ⟨c, own c, children⟩ with
        | error p =>
          rw [generate_own_error hfits hbelow hown]
          exact own_error c cs children calls p hfits below hown
        | ok fragment =>
          rw [generate_own_ok hfits hbelow hown]
          exact own_ok c cs children calls fragment _ hfits below hown beside
    · rw [generate_deep hdeep]
      exact deep c cs hdeep

/-! ## The calls -/

/-- The paths of the commands for which calls were answered with code. -/
def generated (t : Target) (scene : Scene) (calls : List Call) : List (List String) :=
  (calls.filter fun k => (t.answer scene k).toBool).map (·.command.path)

/-- A command's code was answered to one of some calls. -/
def AnsweredBy (t : Target) (scene : Scene) (calls : List Call) (c : Command) (f : Fragment) :
    Prop :=
  ∃ k ∈ calls, k.command = c ∧ t.answer scene k = .ok f

/-- Calls are made for the commands in order, each after those below it, and for all of them if
nothing fails. -/
theorem calls_isPrefix (cs : List Command) :
    (t.generate scene own cs).calls.map (·.command) <+: walkUp cs ∧
      ∀ fragments, (t.generate scene own cs).outcome = .ok fragments →
        (t.generate scene own cs).calls.map (·.command) = walkUp cs := by
  -- One case for each thing that the recursion can do.
  refine generate_induction (motive := fun cs run => run.calls.map (·.command) <+: walkUp cs ∧
    ∀ fragments, run.outcome = .ok fragments → run.calls.map (·.command) = walkUp cs)
    ?nil ?deep ?below_error ?own_error ?own_ok cs
  case nil => simp [walkUp]
  case deep =>
    intro c cs hdeep
    simp
  case below_error =>
    intro c cs p calls hfits below
    rw [walkUp]
    exact ⟨below.1.trans (List.prefix_append _ _), nofun⟩
  case own_error =>
    intro c cs children calls p hfits below hown
    rw [walkUp, List.map_append, below.2 children rfl]
    refine ⟨(List.prefix_append_right_inj _).2 ?_, nofun⟩
    exact List.prefix_append [c] _
  case own_ok =>
    intro c cs children calls fragment beside hfits below hown hbeside
    rw [walkUp, List.map_append, below.2 children rfl, List.map_cons]
    refine ⟨?_, fun fragments h => ?_⟩
    · rw [List.prefix_append_right_inj, List.cons_prefix_cons]
      exact ⟨rfl, hbeside.1⟩
    · cases hrest : beside.outcome with
      | error p => simp [hrest, Except.map] at h
      | ok fragments => rw [hbeside.2 fragments hrest]

/-- No command is called for twice, as the paths of a walk are different. -/
theorem nodup_paths_of_calls {cs : List Command}
    (hpaths : ((walkPending cs).map (·.path)).Nodup) :
    ((t.generate scene own cs).calls.map (·.command.path)).Nodup := by
  have hup : ((walkUp cs).map (·.path)).Nodup := ((walkUp_perm cs).map _).nodup_iff.2 hpaths
  have hcalls : ((t.generate scene own cs).calls.map (·.command)).map (·.path) <+:
      (walkUp cs).map (·.path) := (calls_isPrefix cs).1.map _
  rw [List.map_map] at hcalls
  exact hup.sublist hcalls.sublist

/-- Code that was answered to some calls was answered to more. -/
theorem AnsweredBy.forall₂_mono {before after : List Call} (hsub : before ⊆ after)
    {cs : List Command} {fragments : List Fragment}
    (h : List.Forall₂ (AnsweredBy t scene before) cs fragments) :
    List.Forall₂ (AnsweredBy t scene after) cs fragments :=
  h.imp fun _ _ ⟨k, hk, hanswer⟩ => ⟨k, hsub hk, hanswer⟩

/-- Every call is for a command with what is bound to it, and is given the code of the commands
right below it, in order; and so the code that comes of the forest is that of its commands. -/
theorem calls_own (cs : List Command) :
    (∀ k ∈ (t.generate scene own cs).calls, k.binding = own k.command ∧
      List.Forall₂ (AnsweredBy t scene (t.generate scene own cs).calls) k.command.subcommands
        k.children) ∧
    ∀ fragments, (t.generate scene own cs).outcome = .ok fragments →
      List.Forall₂ (AnsweredBy t scene (t.generate scene own cs).calls) cs fragments := by
  -- What is answered among some calls stays answered among more of them.
  refine generate_induction (motive := fun cs run =>
    (∀ k ∈ run.calls, k.binding = own k.command ∧
      List.Forall₂ (AnsweredBy t scene run.calls) k.command.subcommands k.children) ∧
    ∀ fragments, run.outcome = .ok fragments →
      List.Forall₂ (AnsweredBy t scene run.calls) cs fragments)
    ?nil ?deep ?below_error ?own_error ?own_ok cs
  case nil =>
    refine ⟨by simp, ?_⟩
    rintro fragments ⟨⟩
    exact .nil
  case deep =>
    intro c cs hdeep
    exact ⟨by simp, nofun⟩
  case below_error =>
    intro c cs p calls hfits below
    exact ⟨below.1, nofun⟩
  case own_error =>
    intro c cs children calls p hfits below hown
    refine ⟨fun k hk => ?_, nofun⟩
    have hsub : calls ⊆ calls ++ [⟨c, own c, children⟩] := List.subset_append_left _ _
    rcases List.mem_append.1 hk with hk | hk
    · exact ⟨(below.1 k hk).1, AnsweredBy.forall₂_mono hsub (below.1 k hk).2⟩
    · rw [List.mem_singleton.1 hk]
      exact ⟨rfl, AnsweredBy.forall₂_mono hsub (below.2 children rfl)⟩
  case own_ok =>
    intro c cs children calls fragment beside hfits below hown hbeside
    have hsub : calls ⊆ calls ++ ⟨c, own c, children⟩ :: beside.calls :=
      List.subset_append_left _ _
    have hlater : beside.calls ⊆ calls ++ ⟨c, own c, children⟩ :: beside.calls :=
      List.subset_append_of_subset_right _ (List.subset_cons_self _ _)
    refine ⟨fun k hk => ?_, fun fragments h => ?_⟩
    · rcases List.mem_append.1 hk with hk | hk
      · exact ⟨(below.1 k hk).1, AnsweredBy.forall₂_mono hsub (below.1 k hk).2⟩
      · rcases List.mem_cons.1 hk with rfl | hk
        · exact ⟨rfl, AnsweredBy.forall₂_mono hsub (below.2 children rfl)⟩
        · exact ⟨(hbeside.1 k hk).1, AnsweredBy.forall₂_mono hlater (hbeside.1 k hk).2⟩
    · cases hrest : beside.outcome with
      | error p => simp [hrest, Except.map] at h
      | ok rest =>
        simp only [hrest, Except.map, Except.ok.injEq] at h
        subst h
        have hfirst :
            AnsweredBy t scene (calls ++ ⟨c, own c, children⟩ :: beside.calls) c fragment :=
          ⟨⟨c, own c, children⟩, by simp, rfl, hown⟩
        exact .cons hfirst (AnsweredBy.forall₂_mono hlater (hbeside.2 rest hrest))

/-! ## How a traversal ends -/

/-- Every call was answered with code. -/
def Answered (t : Target) (scene : Scene) (calls : List Call) : Prop :=
  ∀ k ∈ calls, ∃ f, t.answer scene k = .ok f

/-- Calls that are all answered stay so in a row. -/
theorem Answered.append {before after : List Call} (hbefore : Answered t scene before)
    (hafter : Answered t scene after) : Answered t scene (before ++ after) :=
  List.forall_mem_append.2 ⟨hbefore, hafter⟩

/-- How a traversal of a forest ends: with code, at the first command that is too deep, or at the
first call that is answered with a problem. It tells that problem as the failure of the command,
unless the problem is such a failure already. -/
inductive Ends (t : Target) (scene : Scene) (cs : List Command) : Traced (List Fragment) → Prop
  | complete (fragments : List Fragment) (calls : List Call)
      (fits : ∀ c ∈ walkPending cs, c.depth < scene.options.maxDepth)
      (answered : Answered t scene calls) : Ends t scene cs ⟨.ok fragments, calls⟩
  | tooDeep (c : Command) (calls : List Call)
      (first : (walkPending cs).find? (scene.options.maxDepth ≤ ·.depth) = some c)
      (answered : Answered t scene calls) :
      Ends t scene cs ⟨.error (.depthLimitExceeded c.path scene.options.maxDepth), calls⟩
  | refused (k : Call) (calls : List Call) (p : Problem) (answered : Answered t scene calls)
      (raised : t.emit scene k.command k.binding k.children = .error p) :
      Ends t scene cs ⟨.error (if p.isRender then p
        else .render t.id k.command.path p.message (some p)), calls ++ [k]⟩

/-- Where the run succeeds, all its calls are answered. -/
theorem Ends.answered_of_ok {cs : List Command} {run : Traced (List Fragment)}
    {fragments : List Fragment} (hends : Ends t scene cs run) (h : run.outcome = .ok fragments) :
    Answered t scene run.calls := by
  cases hends with
  | complete _ _ _ answered => exact answered
  | tooDeep => cases h
  | refused => cases h

/-- Every run of the recursion ends with all calls answered, or at the first that is not. -/
theorem generate_ends (cs : List Command) : Ends t scene cs (t.generate scene own cs) := by
  refine generate_induction (motive := Ends t scene)
    ?nil ?deep ?below_error ?own_error ?own_ok cs
  case nil => exact .complete [] [] (by simp) (by simp [Answered])
  case deep =>
    intro c cs hdeep
    exact .tooDeep c [] (by simp [hdeep]) (by simp [Answered])
  case below_error =>
    intro c cs p calls hfits below
    cases below with
    | tooDeep d _ first answered =>
      refine .tooDeep d calls ?_ answered
      rw [find?_walkPending_cons (by simpa using hfits), first]
      rfl
    | refused k calls p answered raised => exact .refused k calls p answered raised
  case own_error =>
    intro c cs children calls p hfits below hown
    cases below with
    | complete _ _ fits answered =>
      obtain ⟨q, hraised, rfl⟩ := answer_eq_error hown
      exact .refused _ calls q answered hraised
  case own_ok =>
    intro c cs children calls fragment beside hfits below hown hbeside
    cases below with
    | complete _ _ fits answered =>
      have hcalls : Answered t scene (calls ++ [⟨c, own c, children⟩]) :=
        answered.append (by simp [Answered, hown])
      cases hbeside with
      | complete fragments later fitsBeside answeredBeside =>
        rw [List.append_cons]
        refine .complete _ _ ?_ (hcalls.append answeredBeside)
        rw [forall_mem_walkPending_cons]
        exact ⟨hfits, fits, fitsBeside⟩
      | tooDeep d later first answeredBeside =>
        rw [List.append_cons]
        refine .tooDeep d _ ?_ (hcalls.append answeredBeside)
        have hnone :
            (walkPending c.subcommands).find? (scene.options.maxDepth ≤ ·.depth) = none := by
          simpa using fits
        rw [find?_walkPending_cons (by simpa using hfits), hnone, first]
        rfl
      | refused k later p answeredBeside raised =>
        dsimp only
        rw [List.append_cons, ← List.append_assoc]
        exact .refused k _ p (hcalls.append answeredBeside) raised

/-- Only the calls that are made have a part in what comes of a traversal. -/
theorem generate_congr_calls {u : Target} (cs : List Command)
    (h : ∀ k ∈ (t.generate scene own cs).calls, u.answer scene k = t.answer scene k) :
    u.generate scene own cs = t.generate scene own cs := by
  revert h
  refine generate_induction (motive := fun cs run =>
    (∀ k ∈ run.calls, u.answer scene k = t.answer scene k) → u.generate scene own cs = run)
    ?nil ?deep ?below_error ?own_error ?own_ok cs
  case nil =>
    intro _
    rw [generate]
    rfl
  case deep =>
    intro c cs hdeep _
    exact generate_deep hdeep
  case below_error =>
    intro c cs p calls hfits below h
    exact generate_below_error hfits (below h)
  case own_error =>
    intro c cs children calls p hfits below hown h
    rw [List.forall_mem_append, List.forall_mem_singleton] at h
    exact generate_own_error hfits (below h.1) (h.2.trans hown)
  case own_ok =>
    intro c cs children calls fragment beside hfits below hown hbeside h
    rw [List.forall_mem_append, List.forall_mem_cons] at h
    rw [generate_own_ok hfits (below h.1) (h.2.1.trans hown), hbeside h.2.2]

/-- What is generated depends on the answers to the calls. -/
theorem generated_congr {u : Target} {calls : List Call}
    (h : ∀ k ∈ calls, u.answer scene k = t.answer scene k) :
    generated u scene calls = generated t scene calls := by
  rw [generated, generated]
  exact congrArg _ (List.filter_congr fun k hk => by rw [h k hk])

/-! ## The visits of a tree -/

/-- Where the commands of a forest are bound, generating it makes the calls of the traversal. -/
theorem emitForest_eq_generate {cs : List Command}
    (hbound : ∀ c ∈ walkPending cs, scene.bindings.get? c.path = some (own c))
    (log : List (List String)) :
    emitForest t scene log cs = ((t.generate scene own cs).outcome,
      (generated t scene (t.generate scene own cs).calls).reverse ++ log) := by
  revert log hbound
  -- The traversal keeps a log in front of it, so the statement is one for every log.
  refine generate_induction (motive := fun cs run =>
    (∀ c ∈ walkPending cs, scene.bindings.get? c.path = some (own c)) → ∀ log,
    emitForest t scene log cs = (run.outcome, (generated t scene run.calls).reverse ++ log))
    ?nil ?deep ?below_error ?own_error ?own_ok cs
  case nil =>
    intro _ log
    rw [emitForest]
    rfl
  case deep =>
    intro c cs hdeep _ log
    rw [emitForest, if_pos hdeep]
    rfl
  case below_error =>
    intro c cs p calls hfits below hbound log
    rw [forall_mem_walkPending_cons] at hbound
    rw [emitForest, if_neg (Nat.not_le.2 hfits), below hbound.2.1]
  case own_error =>
    intro c cs children calls p hfits below hown hbound log
    rw [forall_mem_walkPending_cons] at hbound
    rw [emitForest, if_neg (Nat.not_le.2 hfits), below hbound.2.1]
    dsimp only
    rw [leave_eq_answer hbound.1, hown]
    simp [generated, hown, Except.toBool]
  case own_ok =>
    intro c cs children calls fragment beside hfits below hown hbeside hbound log
    rw [forall_mem_walkPending_cons] at hbound
    rw [emitForest, if_neg (Nat.not_le.2 hfits), below hbound.2.1]
    dsimp only
    rw [leave_eq_answer hbound.1, hown]
    dsimp only
    rw [hbeside hbound.2.2]
    rcases beside with ⟨p | fragments, later⟩
    · simp [generated, hown, Except.toBool, Except.map]
    · simp [generated, hown, Except.toBool, Except.map]

/-- Each answered call makes one fragment. -/
theorem length_generated {calls : List Call} (h : Answered t scene calls) :
    (generated t scene calls).length = calls.length := by
  rw [generated, List.length_map, List.filter_eq_self.2]
  exact fun k hk => Outcome.toBool_eq_true.2 (h k hk)

/-- Where a forest yields code, all its commands were generated. -/
theorem length_generated_of_ok {cs : List Command} {fragments : List Fragment}
    (h : (t.generate scene own cs).outcome = .ok fragments) :
    (generated t scene (t.generate scene own cs).calls).length = sizeAll cs := by
  have hanswered : Answered t scene (t.generate scene own cs).calls :=
    (generate_ends cs).answered_of_ok h
  rw [length_generated hanswered, ← List.length_map (·.command), (calls_isPrefix cs).2 fragments h,
    (walkUp_perm cs).length_eq, length_walkPending]

/-- What the visits of a tree come to, as a traversal whose calls bind each command to its `own`
hook. -/
structure PostOrder (t : Target) (scene : Scene) (own : Command → Hook.Binding)
    (run : Traced (List Fragment)) : Prop where
  own_eq : ∀ c ∈ scene.tree.walk, scene.bindings.get? c.path = some (own c) ∧ (own c).path = c.path
  emitTree_eq : t.emitTree scene = (run.outcome, (generated t scene run.calls).reverse)
  ends : Ends t scene scene.tree.commands run
  /-- Calls are made for the commands in order, each after those below it, and for none twice. -/
  calls_isPrefix : run.calls.map (·.command) <+: walkUp scene.tree.commands
  nodup_paths : (run.calls.map (·.command.path)).Nodup
  /-- A call is given the hook of its command and the code of the commands right below it. -/
  calls_own : ∀ k ∈ run.calls, k.binding = own k.command ∧
    List.Forall₂ (AnsweredBy t scene run.calls) k.command.subcommands k.children
  /-- What comes of the tree is the code of the commands at the top; all commands were generated. -/
  of_ok : ∀ fragments, run.outcome = .ok fragments →
    List.Forall₂ (AnsweredBy t scene run.calls) scene.tree.commands fragments ∧
    run.calls.map (·.command) = walkUp scene.tree.commands ∧
    (t.emitTree scene).2.length = scene.tree.nodeCount
  /-- Nothing but the calls that are made has a part in it. -/
  congr_calls : ∀ u : Target, (∀ k ∈ run.calls, u.answer scene k = t.answer scene k) →
    u.emitTree scene = t.emitTree scene
  /-- The files are composed from the code of the tree, and from nothing else. -/
  render_eq : t.scene scene.tree scene.options = .ok scene →
    t.render scene.tree scene.options = run.outcome >>= fun fragments =>
      (t.compose scene fragments).mapError (·.intoRender t.id []) >>= Artifact.assemble t.id

/-- The visits of a tree whose hooks are named are a traversal from below. -/
theorem postOrder_of_build {maxDepth : Nat} {document : Value} {r : Hook.Resolver}
    (hbuild : CommandTree.build maxDepth document = .ok scene.tree)
    (hbindings : Hook.Index.build scene.tree r = .ok scene.bindings) :
    ∃ own, PostOrder t scene own (t.generate scene own scene.tree.commands) := by
  have hpaths := CommandTree.nodup_paths_of_build hbuild
  let own := r.settledBinding scene.tree
  have hbound : ∀ c ∈ walkPending scene.tree.commands,
      scene.bindings.get? c.path = some (own c) :=
    fun c hc => Hook.Index.get?_of_build hpaths hbindings hc
  have hemit (u : Target) : u.emitTree scene =
      ((u.generate scene own scene.tree.commands).outcome,
        (generated u scene (u.generate scene own scene.tree.commands).calls).reverse) := by
    rw [Target.emitTree_eq, emitForest_eq_generate hbound, List.append_nil]
  -- Every command was called if the run succeeds, so the count of the traversal is right.
  have hcount : ∀ fragments, (t.generate scene own scene.tree.commands).outcome = .ok fragments →
      (t.emitTree scene).2.length = scene.tree.nodeCount := by
    intro fragments h
    rw [hemit, List.length_reverse, length_generated_of_ok h, CommandTree.nodeCount,
      CommandTree.walk, length_walkPending]
  refine ⟨own, fun c hc => ⟨hbound c hc, rfl⟩, hemit t, generate_ends _, (calls_isPrefix _).1,
    nodup_paths_of_calls hpaths, (calls_own _).1, fun fragments h => ?_, fun u hsame => ?_,
    fun hscene => ?_⟩
  · exact ⟨(calls_own _).2 fragments h, (calls_isPrefix _).2 fragments h, hcount fragments h⟩
  · rw [hemit, hemit, generate_congr_calls _ hsame, generated_congr hsame]
  · rw [render_eq_bind hscene, ← Target.emitTree_eq]
    cases hrun : (t.generate scene own scene.tree.commands).outcome with
    | error p =>
      rw [hemit, hrun]
      rfl
    | ok fragments =>
      rw [hcount fragments hrun, hemit, hrun]
      exact finish_nodeCount fragments

/-- A target whose code shows which command lies in which. It refuses the commands of one name. -/
def recorder (refused : String) : Target where
  id := "recorder"
  displayName := "Recorder"
  naming := .snake
  helpers := []
  templates := []
  root tree := .object [("cli_name", .str tree.cliName)]
  layout _ := [("entry", "main.txt"), ("bootstrap", "setup.sh")]
  emit _ c b children :=
    if c.name = refused then .error (.template "boom")
    else
      let opened := (Fragment.empty c.path).push "body" ("<" ++ c.name ++ ":" ++ b.canonical)
      .ok ((opened.absorb children).push "body" ">")
  compose _ fragments :=
    .ok [.make "main.txt" (Fragment.join fragments "body") .entryPoint "entry",
      .make "setup.sh" "" .bootstrap "bootstrap"]

/-- Two commands below one, and one beside it. -/
def recorded : Value :=
  let leaf := .object [("desc", .str "Stop here")]
  let group := .object [("desc", .str "Go on"), ("subcommands", .object [("b", leaf), ("c", leaf)])]
  .object [("name", .str "tool"), ("commands", .object [("a", group), ("d", leaf)])]

/-- The calls on three commands, of which one lies above another, up to the refused one. -/
theorem postOrder_of_build_recorded : ∃ scene own, CommandTree.build 5 recorded = .ok scene.tree ∧
    Hook.Index.build scene.tree (.make .snake 3) = .ok scene.bindings ∧
    ((recorder "d").emitTree scene).2 = [["a"], ["a", "c"], ["a", "b"]] ∧
    PostOrder (recorder "d") scene own ((recorder "d").generate scene own scene.tree.commands) := by
  let sceneOf (tree : CommandTree) (bindings : Hook.Index) : Scene :=
    ⟨tree, bindings, (recorder "d").engine, ⟨3, 5⟩, (recorder "d").root tree⟩
  have hrecorded : (CommandTree.build 5 recorded).toOption.any (fun tree =>
      (Hook.Index.build tree (.make .snake 3)).toOption.any fun bindings =>
        ((recorder "d").emitTree (sceneOf tree bindings)).2 = [["a"], ["a", "c"], ["a", "b"]]) =
      true := by
    decide +kernel
  simp only [Option.any_eq_true, Outcome.toOption_eq_some, decide_eq_true_eq] at hrecorded
  obtain ⟨tree, htree, bindings, hbindings, hlog⟩ := hrecorded
  have hpostOrder : ∃ own, PostOrder (recorder "d") (sceneOf tree bindings) own _ :=
    postOrder_of_build htree hbindings
  obtain ⟨own, hpostOrder⟩ := hpostOrder
  exact ⟨sceneOf tree bindings, own, htree, hbindings, hlog, hpostOrder⟩

end Target

end CliGen
