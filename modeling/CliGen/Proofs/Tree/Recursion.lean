import CliGen.Proofs.Tree.Forest
import CliGen.Proofs.Tree.Problems

/-!
# Reading a tree is a recursion

`CommandTree.build` keeps a list of commands that wait, fills numbered slots and assembles the tree
in one sweep from the last slot to the first. Here the same tree is read by recursion: a command,
then the commands below it one after the other. The two agree on every document and every ceiling,
in the tree and in the problem (`CommandTree.build_is_recursive`).

## Shape of the proof

* `grow_entries`: the waiting commands of one container are read as the recursion reads them, and
  fill slots as `Arena.placeAll` does for the forest that the recursion answers.
* `placeAll_eq`: that forest fills the next slots in the order of the walk, `Slot.ofForest`, and its
  own commands get the slots `slotsAt`.
* `sweep_ofForest`: the sweep over such slots leaves the commands of the forest in front of what was
  finished before, in order; so each command finds its children at the front (`takeAll_numbered`).
-/

namespace CliGen

namespace Build

open CliGen.Field

/-- The command of an entry and all commands below it, at most `limit` levels from the top. -/
def readNested (limit : Nat) (parentPath : List String) (entry : NamedBody) : Outcome Command :=
  if limit ≤ parentPath.length then .error (.depthLimitExceeded (parentPath ++ [entry.1]) limit)
  else do
    let command ← readCommand parentPath entry.1 entry.2
    let below ← Siblings.collect (entry.2.get? "subcommands") "subcommands"
      (parentPath ++ [entry.1])
    if command.lifecycle.isManaged && !below.isEmpty then
      refuse (parentPath ++ [entry.1]) "managed commands cannot declare subcommands"
    let subcommands ← below.mapM (readNested limit (parentPath ++ [entry.1]))
    return { command with subcommands }
termination_by limit - parentPath.length
decreasing_by simp only [List.length_append, List.length_singleton]; omega

end Build

/-- The tree of a document, read by recursion from the top. -/
def CommandTree.buildNested (maxDepth : Nat) (document : Value) : Outcome CommandTree := do
  let some fields := cliSection? document
    | Field.refuse [] "CLI description must be a mapping"
  let head ← Build.readHead fields
  let entries ← Siblings.collect (fields.get? "commands") "commands" []
  let commands ← entries.mapM (Build.readNested (max maxDepth 1) [])
  return { head with commands }

namespace Build

open CliGen.Field Outcome

/-- An entry that waits below a slot, or at the top. -/
def waitingAt (parent : Option Nat) (path : List String) (entry : NamedBody) : Waiting :=
  ⟨parent, path, entry.1, entry.2⟩

/-- One step of the recursion reads a command as the list of waiting commands does. -/
theorem readNested_eq (limit : Nat) (parent : Option Nat) (path : List String)
    (entry : NamedBody) :
    readNested limit path entry = (do
      let (command, below) ← (waitingAt parent path entry).read limit
      let subcommands ← below.mapM (readNested limit (path ++ [entry.1]))
      return { command with subcommands }) := by
  rw [readNested.eq_def]
  by_cases hdeep : limit ≤ path.length
  · have hread : (waitingAt parent path entry).read limit =
        .error (.depthLimitExceeded (path ++ [entry.1]) limit) := if_pos hdeep
    rw [if_pos hdeep, hread]
    rfl
  · have hread : (waitingAt parent path entry).read limit = (do
        let command ← readCommand path entry.1 entry.2
        let below ← Siblings.collect (entry.2.get? "subcommands") "subcommands" (path ++ [entry.1])
        if command.lifecycle.isManaged && !below.isEmpty then
          refuse (path ++ [entry.1]) "managed commands cannot declare subcommands"
        return (command, below)) := if_neg hdeep
    rw [if_neg hdeep, hread]
    simp only [bind_assoc]
    refine bind_congr fun command => bind_congr fun below => ?_
    split <;> rfl

/-- The recursion reads a command as the list of waiting commands does, and then those below it. -/
theorem read_of_readNested {limit : Nat} {path : List String} {entry : NamedBody} {c : Command}
    (h : readNested limit path entry = .ok c) : ∃ command below,
      (waitingAt none path entry).read limit = .ok (command, below) ∧
        below.mapM (readNested limit (path ++ [entry.1])) = .ok c.subcommands ∧
        c = { command with subcommands := c.subcommands } := by
  rw [readNested_eq limit none] at h
  obtain ⟨⟨command, below⟩, hread, h⟩ := bind_eq_ok.1 h
  obtain ⟨subcommands, hsubs, h⟩ := bind_eq_ok.1 h
  cases h
  exact ⟨command, below, hread, hsubs, rfl⟩

/-- What it takes to read a command with all that lies below it. -/
theorem readNested_ok {limit : Nat} {path : List String} {entry : NamedBody} {c : Command}
    (h : readNested limit path entry = .ok c) :
    path.length < limit ∧ c.name = entry.1 ∧ c.parentPath = path ∧ ∃ below,
      Siblings.collect (entry.2.get? "subcommands") "subcommands" (path ++ [entry.1]) = .ok below ∧
        below.mapM (readNested limit (path ++ [entry.1])) = .ok c.subcommands := by
  obtain ⟨command, below, hread, hsubs, hc⟩ := read_of_readNested h
  obtain ⟨hfits, hcommand, hbelow, -⟩ := Waiting.read_ok hread
  obtain ⟨hname, hparent, -⟩ := readCommand_ok hcommand
  rw [hc]
  exact ⟨hfits, hname, hparent, below, hbelow, hsubs⟩

/-- The first waiting command is read, and those below it wait in front of the others. -/
theorem grow_cons (limit : Nat) (w : Waiting) (rest : List Waiting) (a : Arena) :
    grow limit (w :: rest) a = (do
      let (command, below) ← w.read limit
      grow limit (below.map (waitingAt (some a.slots.size) w.path) ++ rest)
        (a.place w.parent command)) := by
  rw [grow]
  split
  next p h => simp only [h]; rfl
  next command below h => simp only [h]; rfl

/-- A command without those below it. -/
def bare (c : Command) : Command := { c with subcommands := [] }

/-- Fill the next slots with a forest, its own commands below a slot or at the top. -/
def Arena.placeAll (a : Arena) (parent : Option Nat) : List Command → Arena
  | [] => a
  | c :: cs =>
    ((a.place parent (bare c)).placeAll (some a.slots.size) c.subcommands).placeAll parent cs
termination_by cs => sizeAll cs
decreasing_by all_goals rw [sizeAll_cons]; omega

/-- A command without commands below it is bare. -/
theorem bare_of_subcommands_nil {c : Command} (h : c.subcommands = []) (cs : List Command) :
    bare { c with subcommands := cs } = c := by
  cases c; cases h; rfl

/-- Waiting entries of one container are read as the recursion reads them, before all others. -/
theorem grow_entries (limit : Nat) (parent : Option Nat) (path : List String)
    (entries : List NamedBody) (rest : List Waiting) (a : Arena) :
    grow limit (entries.map (waitingAt parent path) ++ rest) a = (do
      let cs ← entries.mapM (readNested limit path)
      grow limit rest (a.placeAll parent cs)) := by
  -- Commands below are one level nearer to the ceiling; those beside are fewer at the same level.
  induction hroom : limit - path.length using Nat.strongRecOn
    generalizing parent path entries rest a with
  | _ room deeper =>
  induction entries generalizing a with
  | nil => simp [Arena.placeAll]
  | cons e es beside =>
    rw [List.map_cons, List.cons_append, grow_cons, List.mapM_cons, readNested_eq limit parent path]
    cases hread : (waitingAt parent path e).read limit with
    | error p => rfl
    | ok r =>
      obtain ⟨command, below⟩ := r
      obtain ⟨hlt, hcommand, -, -⟩ := Waiting.read_ok hread
      have hroom : limit - (path ++ [e.1]).length < room := by
        simp only [List.length_append, List.length_singleton]
        exact hroom ▸ Nat.sub_succ_lt_self _ _ hlt
      have hpath : (waitingAt parent path e).path = path ++ [e.1] := rfl
      simp only [ok_bind, bind_assoc, hpath, deeper _ hroom _ _ _ _ _ rfl, pure_eq_ok]
      -- All that lies below the command is placed by now, and the siblings come after it.
      refine bind_congr fun cs => ?_
      rw [beside]
      refine bind_congr fun ds => ?_
      rw [Arena.placeAll, bare_of_subcommands_nil (readCommand_ok hcommand).2.2]
      rfl

/-! ## The slots of a forest -/

/-- The slots of a forest's own commands, if the first of them is `n`. -/
def slotsAt (n : Nat) : List Command → List Nat
  | [] => []
  | c :: cs => n :: slotsAt (n + c.size) cs

/-- The slots that a forest fills from slot `n` on, in the order of the walk. -/
def Slot.ofForest (n : Nat) : List Command → List Slot
  | [] => []
  | c :: cs =>
    ⟨bare c, slotsAt (n + 1) c.subcommands⟩ ::
      (ofForest (n + 1) c.subcommands ++ ofForest (n + c.size) cs)
termination_by cs => sizeAll cs
decreasing_by all_goals rw [sizeAll_cons]; omega

/-- A forest takes one slot for each command. -/
theorem Slot.length_ofForest (n : Nat) (cs : List Command) :
    (Slot.ofForest n cs).length = sizeAll cs := by
  induction cs using forest_induction generalizing n with
  | nil => simp [Slot.ofForest]
  | cons c cs below beside =>
    rw [Slot.ofForest, List.length_cons, List.length_append, below, beside, sizeAll_cons]
    omega

namespace Arena

/-- Slots come below another one, or at the top. -/
def adopt (a : Arena) (parent : Option Nat) (slots : List Nat) : Arena :=
  match parent with
  | some p => { a with slots := a.slots.modify p fun s => { s with below := s.below ++ slots } }
  | none => { a with top := a.top ++ slots }

/-- Slots that come after all others. -/
def append (a : Arena) (ss : List Slot) : Arena := { a with slots := a.slots ++ ss.toArray }

/-- The slot of a parent is filled. -/
def Has (a : Arena) (parent : Option Nat) : Prop := ∀ p ∈ parent, p < a.slots.size

/-- Adopting makes no slot. -/
@[simp]
theorem size_adopt (a : Arena) (parent : Option Nat) (slots : List Nat) :
    (a.adopt parent slots).slots.size = a.slots.size := by
  cases parent <;> simp [adopt]

/-- Slots are added behind those there are. -/
@[simp]
theorem size_append (a : Arena) (ss : List Slot) :
    (a.append ss).slots.size = a.slots.size + ss.length := by
  simp [append]

/-- Adopting nothing changes nothing. -/
@[simp]
theorem adopt_nil (a : Arena) (parent : Option Nat) : a.adopt parent [] = a := by
  cases parent with
  | none => simp [adopt]
  | some p =>
    cases a
    simp only [adopt, Arena.mk.injEq, and_true]
    apply Array.ext
    · simp
    · intro i h₁ h₂
      simp [Array.getElem_modify]

/-- Adding nothing changes nothing. -/
@[simp]
theorem append_nil (a : Arena) : a.append [] = a := by simp [append]

/-- Slots can be added in two parts. -/
theorem append_append (a : Arena) (ss ts : List Slot) :
    (a.append ss).append ts = a.append (ss ++ ts) := by
  simp [append]

/-- Slots can be adopted in two parts. -/
theorem adopt_adopt (a : Arena) (parent : Option Nat) (slots more : List Nat) :
    (a.adopt parent slots).adopt parent more = a.adopt parent (slots ++ more) := by
  cases parent with
  | none => simp [adopt]
  | some p =>
    simp only [adopt, Arena.mk.injEq, and_true]
    apply Array.ext
    · simp
    · intro i h₁ h₂
      by_cases hi : p = i <;> simp [Array.getElem_modify, hi]

/-- A parent that is there adopts slots, whatever comes after it. -/
theorem adopt_append {a : Arena} {parent : Option Nat} (h : a.Has parent) (slots : List Nat)
    (ss : List Slot) : (a.append ss).adopt parent slots = (a.adopt parent slots).append ss := by
  cases parent with
  | none => simp [adopt, append]
  | some p =>
    have hp : p < a.slots.size := h p rfl
    simp only [adopt, append, Arena.mk.injEq, and_true]
    apply Array.ext
    · simp
    · intro i h₁ h₂
      simp only [Array.getElem_modify, Array.getElem_append, Array.size_modify]
      split <;> split <;> first | rfl | omega

/-- The last slot adopts slots. -/
theorem adopt_last (a : Arena) (c : Command) (slots : List Nat) :
    (a.append [⟨c, []⟩]).adopt (some a.slots.size) slots = a.append [⟨c, slots⟩] := by
  simp only [adopt, append, Arena.mk.injEq, and_true]
  apply Array.ext
  · simp
  · intro i h₁ h₂
    have hi : i < a.slots.size + 1 := by simpa using h₂
    rcases Nat.lt_succ_iff_lt_or_eq.1 hi with hi | rfl
    · simp [Array.getElem_modify, Array.getElem_push, hi, Nat.ne_of_gt hi]
    · simp [Array.getElem_modify]

/-- Filling a slot: its parent adopts it, and it comes after all others. -/
theorem place_eq {a : Arena} {parent : Option Nat} (h : a.Has parent) (c : Command) :
    a.place parent c = (a.adopt parent [a.slots.size]).append [⟨c, []⟩] := by
  rw [← adopt_append h]
  cases parent <;> simp [place, adopt, append]

/-- A forest fills the next slots, and its parent adopts the slots of its own commands. -/
theorem placeAll_eq {a : Arena} {parent : Option Nat} (h : a.Has parent) (cs : List Command) :
    a.placeAll parent cs =
      (a.adopt parent (slotsAt a.slots.size cs)).append (Slot.ofForest a.slots.size cs) := by
  induction cs using forest_induction generalizing a parent with
  | nil => simp [placeAll, slotsAt, Slot.ofForest]
  | cons c cs below beside =>
    set n := a.slots.size with hn
    have hplaced : a.place parent (bare c) = (a.adopt parent [n]).append [⟨bare c, []⟩] :=
      place_eq h (bare c)
    have hsize : (a.place parent (bare c)).slots.size = n + 1 := by simp [hplaced, hn]
    -- The command is the last slot when those below it are placed, so it is the one to adopt them.
    have hbelow : (a.place parent (bare c)).placeAll (some n) c.subcommands =
        (a.adopt parent [n]).append
          (⟨bare c, slotsAt (n + 1) c.subcommands⟩ :: Slot.ofForest (n + 1) c.subcommands) := by
      have hlast := (a.adopt parent [n]).adopt_last (bare c) (slotsAt (n + 1) c.subcommands)
      rw [size_adopt] at hlast
      rw [below (by simp [Has, hsize]), hsize, hplaced, hlast, append_append, List.singleton_append]
    have hadopt : (a.adopt parent [n]).Has parent := by simpa [Has] using h
    have hafter : ((a.place parent (bare c)).placeAll (some n) c.subcommands).slots.size =
        n + c.size := by
      simp only [hbelow, size_append, size_adopt, List.length_cons, Slot.length_ofForest, c.size_eq]
      omega
    have hparent : ((a.place parent (bare c)).placeAll (some n) c.subcommands).Has parent := by
      intro p hp
      have := h p hp
      omega
    rw [placeAll, beside hparent, hafter, hbelow, adopt_append hadopt, adopt_adopt, append_append,
      slotsAt, Slot.ofForest, List.singleton_append, List.cons_append]

end Arena

/-! ## The sweep over the slots -/

/-- The commands of a forest with their slots, if the first of them is `n`. -/
def numbered (n : Nat) : List Command → Finished
  | [] => []
  | c :: cs => (n, c) :: numbered (n + c.size) cs

/-- Commands that are finished in front of all others are taken in order. -/
theorem takeAll_numbered (missing : String) (n : Nat) (cs : List Command) (finished : Finished) :
    takeAll missing (slotsAt n cs) (numbered n cs ++ finished) = .ok (cs, finished) := by
  induction cs generalizing n with
  | nil => rfl
  | cons c cs ih =>
    simp only [slotsAt, numbered, List.cons_append, takeAll, take, if_pos, ih, ok_bind, pure_eq_ok]

/-- The sweep over the slots of a forest finishes its commands, in front of those after it. -/
theorem sweep_ofForest (n : Nat) (cs : List Command) (finished : Finished) :
    ((Slot.ofForest n cs).zipIdx n).reverse.foldlM finish finished =
      .ok (numbered n cs ++ finished) := by
  induction cs using forest_induction generalizing n finished with
  | nil => simp [Slot.ofForest, numbered]
  | cons c cs below beside =>
    have hsize : n + 1 + sizeAll c.subcommands = n + c.size := by rw [c.size_eq]; omega
    -- From the last slot on: first the commands beside, then those below, then the command itself.
    rw [Slot.ofForest, List.zipIdx_cons, List.zipIdx_append, Slot.length_ofForest, hsize,
      List.reverse_cons, List.reverse_append, List.foldlM_append, List.foldlM_append, beside]
    simp only [ok_bind, below, List.foldlM_cons, List.foldlM_nil, finish, takeAll_numbered,
      pure_eq_ok]
    cases c
    rfl

/-- A forest whose slots are filled is assembled as it was. -/
theorem assemble_placeAll (cs : List Command) :
    assemble (Arena.empty.placeAll none cs) = .ok cs := by
  have hhas : Arena.empty.Has none := nofun
  have hplaced := Arena.placeAll_eq hhas cs
  have hslots : (Arena.empty.placeAll none cs).slots.toList = Slot.ofForest 0 cs := by
    rw [hplaced]; simp [Arena.append, Arena.adopt, Arena.empty]
  have htop : (Arena.empty.placeAll none cs).top = slotsAt 0 cs := by
    rw [hplaced]; simp [Arena.append, Arena.adopt, Arena.empty]
  rw [assemble, hslots, htop, sweep_ofForest, ok_bind, takeAll_numbered]
  rfl

/-- The work list, the slots and the sweep together read the commands one by one. -/
theorem readCommands_eq (limit : Nat) (entries : List NamedBody) :
    readCommands limit entries = entries.mapM (readNested limit []) := by
  have hgrow := grow_entries limit none [] entries [] Arena.empty
  rw [List.append_nil] at hgrow
  rw [readCommands]
  show grow limit (entries.map (waitingAt none [])) Arena.empty >>= assemble = _
  rw [hgrow, bind_assoc]
  simp only [grow, ok_bind, assemble_placeAll]
  exact bind_pure _

/-- The recursion meets fatal problems only. -/
theorem meetsFatal_readNested (limit : Nat) (path : List String) (entry : NamedBody) :
    MeetsFatal (readNested limit path entry) := by
  induction hroom : limit - path.length using Nat.strongRecOn generalizing path entry with
  | _ room deeper =>
  rw [readNested_eq limit none]
  refine meets_bind Waiting.meetsFatal_read fun ⟨command, below⟩ hread => ?_
  refine meets_bind (meets_mapM fun e _ => deeper _ ?_ _ e rfl) fun cs _ => meets_pure _
  have hlt := (Waiting.read_ok hread).1
  simp only [List.length_append, List.length_singleton]
  exact hroom ▸ Nat.sub_succ_lt_self _ _ hlt

end Build

/-! ## The whole tree -/

open Outcome

/-- Building with a stack and an arena answers what the recursion does, problems included. -/
theorem CommandTree.build_eq_buildNested (maxDepth : Nat) (document : Value) :
    CommandTree.build maxDepth document = CommandTree.buildNested maxDepth document := by
  rw [build, buildNested]
  cases cliSection? document with
  | none => rfl
  | some fields => simp only [Build.readCommands_eq]

/-- Whatever ends the building of a tree ends the run of every target. -/
theorem CommandTree.meetsFatal_build (maxDepth : Nat) (document : Value) :
    MeetsFatal (CommandTree.build maxDepth document) := by
  rw [build_eq_buildNested, buildNested]
  split
  · refine meets_bind Build.meetsFatal_readHead fun head _ => ?_
    refine meets_bind Siblings.meetsFatal_collect fun entries _ => ?_
    refine meets_bind (meets_mapM fun e _ => ?_) fun _ _ => meets_pure _
    exact Build.meetsFatal_readNested _ _ e
  · exact meetsFatal_refuse

/-- **Building is recursion.** A document yields the tree or the problem that the recursion from the
top meets first, for every ceiling; and the slots are always assembled, so no internal problem
comes up. -/
theorem CommandTree.build_is_recursive (maxDepth : Nat) (document : Value) :
    CommandTree.build maxDepth document = CommandTree.buildNested maxDepth document ∧
      ∀ message, CommandTree.build maxDepth document ≠ .error (.internal message) := by
  refine ⟨build_eq_buildNested maxDepth document, fun message h => ?_⟩
  have hfatal := meetsFatal_build maxDepth document _ h
  simp [Problem.isFatal] at hfatal

end CliGen
