import CliGen.Proofs.Target.HookFile
import CliGen.Proofs.Target.Literals
import CliGen.Proofs.Text.OneLine

/-!
# Descriptions in comments

The stub of a hook begins with a comment that holds the description of its command in one line. No
description ends a comment that goes to the end of its line; a comment between marks ends early
exactly where the description holds the closing mark (`Blueprint.description_commented_iff`).
-/

namespace CliGen

/-! ## Comments -/

namespace Comment

/-- What stands up to the first closing mark, the mark included, and what stands behind it. -/
def closed? : List Char → Option (List Char × List Char)
  | [] => none
  | '*' :: '/' :: cs => some (['*', '/'], cs)
  | c :: cs => (closed? cs).map fun p => (c :: p.1, p.2)

/-- The comment that a text begins with, and what stands behind it. Behind two slashes a comment
goes to the end of its line; a comment between marks ends at the first closing mark. -/
def read? (endsLine : Char → Bool) : List Char → Option (List Char × List Char)
  | '/' :: '/' :: cs =>
    some ('/' :: '/' :: cs.takeWhile (!endsLine ·), cs.dropWhile (!endsLine ·))
  | '/' :: '*' :: cs => (closed? cs).map fun p => ('/' :: '*' :: p.1, p.2)
  | _ => none

variable {x : List Char}

/-- A comment of one line ends at its line break. -/
theorem read?_line {endsLine : Char → Bool} (hx : ∀ c ∈ x, endsLine c = false)
    (hfeed : endsLine '\n' = true) (rest : List Char) :
    read? endsLine ('/' :: '/' :: (x ++ '\n' :: rest)) = some ('/' :: '/' :: x, '\n' :: rest) := by
  have hall : ∀ c ∈ x, (!endsLine c) = true := fun c hc => by rw [hx c hc]; rfl
  have htake : (x ++ '\n' :: rest).takeWhile (!endsLine ·) = x := by
    rw [List.takeWhile_append_of_pos hall, List.takeWhile_cons_of_neg (by simp [hfeed]),
      List.append_nil]
  have hdrop : (x ++ '\n' :: rest).dropWhile (!endsLine ·) = '\n' :: rest := by
    rw [List.dropWhile_append_of_pos hall, List.dropWhile_cons_of_neg (by simp [hfeed])]
  rw [read?, htake, hdrop]

/-- A text without the closing mark goes on up to the mark behind it. -/
theorem closed?_of_no_mark (hx : ¬ ['*', '/'] <:+: x ++ ['*']) (rest : List Char) :
    closed? (x ++ '*' :: '/' :: rest) = some (x ++ ['*', '/'], rest) := by
  induction x with
  | nil => rfl
  | cons c x ih =>
    rw [List.cons_append] at hx
    have htail : ¬ ['*', '/'] <:+: x ++ ['*'] := fun h => hx (List.infix_cons h)
    rw [List.cons_append, closed?, ih htail]
    · rfl
    · intro cs hstar hslash
      -- Then the mark stands at the front.
      cases x with
      | nil => cases hslash
      | cons d x =>
        cases hslash
        exact hx ⟨[], x ++ ['*'], by rw [hstar]; rfl⟩

/-- The comment ends in a text that holds the closing mark, whatever stands behind the text. -/
theorem closed?_of_mark (hx : ['*', '/'] <:+: x) :
    ∃ a b, x = a ++ b ∧ ∀ rest, closed? (x ++ rest) = some (a, b ++ rest) := by
  induction x with
  | nil => cases List.infix_nil.1 hx
  | cons c x ih =>
    by_cases hfront : ['*', '/'] <+: c :: x
    · obtain ⟨b, hb⟩ := hfront
      rw [← hb]
      exact ⟨['*', '/'], b, rfl, fun _ => rfl⟩
    · have htail := (List.infix_cons_iff.1 hx).resolve_left hfront
      obtain ⟨a, b, hx', hclosed⟩ := ih htail
      refine ⟨c :: a, b, by rw [hx', List.cons_append], fun rest => ?_⟩
      rw [List.cons_append, closed?, hclosed rest]
      · rfl
      · intro cs hstar hslash
        cases x with
        | nil => cases List.infix_nil.1 htail
        | cons d x =>
          cases hslash
          exact hfront ⟨x, by rw [hstar]; rfl⟩

end Comment

/-! ## Stubs -/

namespace Blueprint

/-- The targets whose hooks stand behind comments, with the characters that end a line in their
languages. -/
def commented : List (Blueprint × (Char → Bool)) :=
  [(javascript .plain, Literal.isScriptBreak), (javascript .typed, Literal.isScriptBreak),
    (rust, fun c => Literal.IsBreak c)]

/-- A stub begins with a comment that is all of what its target writes for the description, and the
declaration of the hook is what stands behind it. -/
def Encloses (w : Blueprint) (endsLine : Char → Bool) (c : Command) (s : Stub) : Prop :=
  ∃ comment rest, w.comment (Text.oneLine c.description) = comment ++ "\n" ∧
    Comment.read? endsLine s.text.toList =
      some (comment.toList, ("\n" ++ (w.declaration s.role s.name ++ rest)).toList)

variable {w : Blueprint} {endsLine : Char → Bool} {scene : Scene} {c : Command} {s : Stub}

/-- Characters that end a line in languages like these: the line feed does, and no character that
ends no line in JavaScript. -/
structure LineEnds (endsLine : Char → Bool) : Prop where
  feed : endsLine '\n' = true
  isScriptBreak : ∀ ch, endsLine ch = true → Literal.isScriptBreak ch = true

/-- Comments are told of targets that there are, each with the ends of its lines. -/
theorem of_mem_commented (h : (w, endsLine) ∈ commented) : w ∈ builtin ∧ LineEnds endsLine := by
  simp only [commented, List.mem_cons, Prod.mk.injEq, List.not_mem_nil, or_false] at h
  rcases h with ⟨rfl, rfl⟩ | ⟨rfl, rfl⟩ | ⟨rfl, rfl⟩
  · exact ⟨by simp [builtin], rfl, fun _ hends => hends⟩
  · exact ⟨by simp [builtin], rfl, fun _ hends => hends⟩
  · refine ⟨by simp [builtin], rfl, fun ch hends => ?_⟩
    rcases of_decide_eq_true hends with rfl | rfl <;> rfl

namespace LineEnds

variable {ch : Char}

/-- A character that breaks no line of a script ends no comment. -/
theorem of_not_break (h : LineEnds endsLine) (hch : Literal.isScriptBreak ch = false) :
    endsLine ch = false := by
  rw [← Bool.not_eq_true]
  intro hends
  rw [h.isScriptBreak ch hends] at hch
  cases hch

/-- No description in one line holds the end of a line. -/
theorem of_mem_oneLine (h : LineEnds endsLine) {d : String} (hch : ch ∈ (Text.oneLine d).toList) :
    endsLine ch = false := by
  refine h.of_not_break ?_
  rw [← Bool.not_eq_true]
  intro hbreak
  have hblank : Text.isBlank ch = true ∧ ch ≠ ' ' := by
    simp only [Literal.isScriptBreak, Bool.or_eq_true, beq_iff_eq] at hbreak
    rcases hbreak with ((rfl | rfl) | rfl) | rfl <;> decide
  rcases Text.isBlank_of_mem_oneLine hch with hspace | hother
  · exact hblank.2 hspace
  · rw [hblank.1] at hother
    cases hother

end LineEnds

/-- A comment behind slashes encloses every description. -/
theorem Defines.encloses_of_slashes (h : w.Defines scene c s) (hends : LineEnds endsLine)
    {mark : String} (hmark : ∀ ch ∈ mark.toList, Literal.isScriptBreak ch = false)
    (hcomment : w.comment (Text.oneLine c.description) =
      "//" ++ mark ++ Text.oneLine c.description ++ "\n") : w.Encloses endsLine c s := by
  obtain ⟨rest, htext⟩ := h.text_eq
  refine ⟨"//" ++ mark ++ Text.oneLine c.description, rest, hcomment, ?_⟩
  have hopen : ∀ ch ∈ mark.toList ++ (Text.oneLine c.description).toList, endsLine ch = false :=
    List.forall_mem_append.2 ⟨fun ch hch => hends.of_not_break (hmark ch hch),
      fun ch => hends.of_mem_oneLine⟩
  have hline := Comment.read?_line hopen hends.feed (w.declaration s.role s.name ++ rest).toList
  rw [htext, hcomment]
  simpa [String.toList_append] using hline

/-- A comment between marks encloses a description that does not hold the closing mark. -/
theorem Defines.encloses_typed_iff (h : (javascript .typed).Defines scene c s) :
    (javascript .typed).Encloses endsLine c s ↔ ¬ ['*', '/'] <:+: c.description.toList := by
  obtain ⟨rest, htext⟩ := h.text_eq
  let d := (Text.oneLine c.description).toList
  -- What the comment holds behind its first mark, and in front of its last one.
  let inner := '*' :: ' ' :: (d ++ [' '])
  have hoccurs (t : List Char) (ht : ¬ ['*', '/'] <:+: t) :
      ['*', '/'] <:+: '*' :: ' ' :: (d ++ ' ' :: t) ↔ ['*', '/'] <:+: c.description.toList := by
    have hstar : ¬ ['*', '/'] <:+: ['*'] := by decide
    have hfront : ['*', '/'] <:+: ['*'] ++ ' ' :: (d ++ ' ' :: t) ↔ _ :=
      Text.infix_append_cons (by simp)
    have hback : ['*', '/'] <:+: d ++ ' ' :: t ↔ _ := Text.infix_append_cons (by simp)
    rw [List.singleton_append, or_iff_right hstar] at hfront
    rw [or_iff_left ht] at hback
    rw [hfront, hback]
    exact Text.infix_oneLine_iff (by simp) (by simp [Text.isBlank]) c.description
  have hcomment : ((javascript .typed).comment (Text.oneLine c.description)).toList =
      '/' :: '*' :: (inner ++ ['*', '/']) ++ ['\n'] := by
    simp [javascript, inner, d]
  have hchars : s.text.toList = '/' :: '*' :: (inner ++ '*' :: '/' ::
      ("\n" ++ ((javascript .typed).declaration s.role s.name ++ rest)).toList) := by
    rw [htext, String.toList_append, hcomment]
    simp
  constructor
  · rintro ⟨comment, behind, hall, hread⟩ hdescription
    obtain ⟨a, b, hinner, hclosed⟩ := Comment.closed?_of_mark
      ((hoccurs [] (by simp)).2 hdescription)
    -- The comment ends inside of the description, and so is shorter.
    have hfull : comment.toList = '/' :: '*' :: (inner ++ ['*', '/']) := by
      rw [hall, String.toList_append] at hcomment
      exact List.append_cancel_right hcomment
    have hshort : comment.toList = '/' :: '*' :: a := by
      rw [hchars, Comment.read?, hclosed] at hread
      exact (congrArg Prod.fst (Option.some.inj hread)).symm
    have hlength := congrArg List.length (hshort.symm.trans hfull)
    rw [show inner = a ++ b from hinner] at hlength
    simp only [List.length_cons, List.length_append, List.length_nil] at hlength
    omega
  · intro hdescription
    have hopen : ¬ ['*', '/'] <:+: inner ++ ['*'] := by
      have hlonger := (not_congr (hoccurs ['*'] (by decide))).2 hdescription
      simpa [inner] using hlonger
    refine ⟨"/** " ++ Text.oneLine c.description ++ " */", rest, ?_, ?_⟩
    · rw [← String.toList_inj, hcomment]
      simp [inner, d]
    · rw [hchars, Comment.read?, Comment.closed?_of_no_mark hopen]
      simp [inner, d]

/-- What decides whether a comment encloses a description. -/
theorem Defines.encloses_iff (h : w.Defines scene c s) (hw : (w, endsLine) ∈ commented) :
    w.Encloses endsLine c s ↔
      (w.target.id = "typescript" → ¬ ['*', '/'] <:+: c.description.toList) := by
  have hends := (of_mem_commented hw).2
  simp only [commented, List.mem_cons, Prod.mk.injEq, List.not_mem_nil, or_false] at hw
  rcases hw with ⟨rfl, -⟩ | ⟨rfl, -⟩ | ⟨rfl, -⟩
  · have hmark : ∀ ch ∈ " ".toList, Literal.isScriptBreak ch = false := by
      simp [Literal.isScriptBreak]
    refine iff_of_true (h.encloses_of_slashes hends hmark rfl) fun htyped => ?_
    exact absurd htyped (by decide)
  · rw [h.encloses_typed_iff]
    exact ⟨fun hd _ => hd, fun hd => hd rfl⟩
  · have hmark : ∀ ch ∈ "/ ".toList, Literal.isScriptBreak ch = false := by
      simp [Literal.isScriptBreak]
    refine iff_of_true (h.encloses_of_slashes hends hmark rfl) fun htyped => ?_
    exact absurd htyped (by decide)

/-- The stubs of a rendering, and the file that shows them. -/
theorem exists_shown_stubs (hw : w ∈ builtin) {maxDepth : Nat} {document : Value}
    {tree : CommandTree} (hbuild : CommandTree.build maxDepth document = .ok tree)
    {options : RenderOptions} {files : List Artifact}
    (h : Registry.builtin.render tree options w.target.id = .ok files) :
    ∃ scene stubs, w.target.scene tree options = .ok scene ∧
      List.Forall₂ (w.Defines scene) (tree.walk.filter (·.role ≠ .group)) stubs ∧
      stubs.map (·.name) = (tree.walk.filter (·.role ≠ .group)).map
        ((Hook.Resolver.make w.target.naming options.hookThreshold).settledName tree) ∧
      ∃ hooks ∈ files, w.ShowsHooks scene.engine (String.join (stubs.map (·.text)))
        (·.lines stubs) hooks := by
  have hsound := sound_of_mem_builtin hw
  rw [render_registry hw] at h
  obtain ⟨scene, own, hscene, hengine, -, hown, -, hooks, hhooks, hshown⟩ :=
    hsound.render_ok hbuild h
  obtain ⟨stubs, hdefines, hnames, htexts, hlines⟩ := hsound.exists_stubs hengine hown
  rw [htexts] at hshown
  exact ⟨scene, stubs, hscene, hdefines, hnames, hooks, hhooks, hshown.congr hlines⟩

/-- **Where descriptions stay in their comments.** Every hook is declared behind a comment with the
description of its command in one line, in which no character ends a line. The comment is read as
what the target writes, with the declaration behind it, and for the typed program that is so exactly
where the description does not hold the closing mark. -/
theorem description_commented_iff (hw : (w, endsLine) ∈ commented) {maxDepth : Nat}
    {document : Value} {tree : CommandTree}
    (hbuild : CommandTree.build maxDepth document = .ok tree) {options : RenderOptions}
    {files : List Artifact} (h : Registry.builtin.render tree options w.target.id = .ok files) :
    ∃ scene stubs, w.target.scene tree options = .ok scene ∧
      (∃ hooks ∈ files, w.ShowsHooks scene.engine (String.join (stubs.map (·.text)))
        (·.lines stubs) hooks) ∧
      List.Forall₂ (fun c s => w.Defines scene c s ∧
        (∀ ch ∈ (Text.oneLine c.description).toList, endsLine ch = false) ∧
        (w.Encloses endsLine c s ↔
          (w.target.id = "typescript" → ¬ ['*', '/'] <:+: c.description.toList)))
        (tree.walk.filter (·.role ≠ .group)) stubs := by
  obtain ⟨scene, stubs, hscene, hdefines, -, hshown⟩ :=
    exists_shown_stubs (of_mem_commented hw).1 hbuild h
  refine ⟨scene, stubs, hscene, hshown, hdefines.imp fun c s hcs => ?_⟩
  exact ⟨hcs, fun ch => (of_mem_commented hw).2.of_mem_oneLine, hcs.encloses_iff hw⟩

/-- The stubs that are made for TypeScript from the command line of the examples. -/
theorem description_commented_iff_equipped : ∃ tree files scene stubs,
    CommandTree.build 2 CommandTree.equipped = .ok tree ∧
    Registry.builtin.render tree ⟨3, 2⟩ "typescript" = .ok files ∧
    (∃ hooks ∈ files, (javascript .typed).ShowsHooks scene.engine
      (String.join (stubs.map (·.text))) (·.lines stubs) hooks) ∧
    List.Forall₂ (fun c s => (javascript .typed).Defines scene c s ∧
      (∀ ch ∈ (Text.oneLine c.description).toList, Literal.isScriptBreak ch = false) ∧
      ((javascript .typed).Encloses Literal.isScriptBreak c s ↔
        ((javascript .typed).target.id = "typescript" → ¬ ['*', '/'] <:+: c.description.toList)))
      (tree.walk.filter (·.role ≠ .group)) stubs := by
  obtain ⟨tree, hbuild, -, hrender⟩ := exists_render_equipped
  have hmem : (javascript .typed, Literal.isScriptBreak) ∈ commented := by simp [commented]
  obtain ⟨files, hfiles⟩ := hrender (javascript .typed) (by simp [builtin])
  obtain ⟨scene, stubs, -, hshown, hstubs⟩ := description_commented_iff hmem hbuild hfiles
  exact ⟨tree, files, scene, stubs, hbuild, hfiles, hshown, hstubs⟩

/-- A command whose description holds a closing mark. -/
def marked : Value :=
  .object [("name", .str "tool"), ("commands", .object [
    ("run", .object [("desc", .str "Ends a */ comment")])])]

/-- The comment ends inside of the description, and the rest of the description stands in front of
the function. -/
theorem not_encloses_marked : ∃ tree files, ∃ scene : Scene, ∃ s rest,
    CommandTree.build 16 marked = .ok tree ∧
    Registry.builtin.render tree ⟨3, 16⟩ "typescript" = .ok files ∧
    (∃ hooks ∈ files, (javascript .typed).ShowsHooks scene.engine (String.join [s.text])
      (·.lines [s]) hooks) ∧
    Comment.read? Literal.isScriptBreak s.text.toList = some ("/** Ends a */".toList,
      " comment */\nexport async function onRun(".toList ++ rest) := by
  have hbuilt : (CommandTree.build 16 marked).toOption.any (fun tree =>
      tree.maxDepth ≤ 16 ∧ (Hook.Index.build tree (.make .camel 3)).toBool = true ∧
      (tree.walk.filter (·.role ≠ .group)).map (fun c =>
        (c.role, Text.oneLine c.description, (Hook.Resolver.make .camel 3).settledName tree c)) =
        [(.leaf, "Ends a */ comment", "onRun")]) = true := by
    decide +kernel
  simp only [Option.any_eq_true, Outcome.toOption_eq_some, decide_eq_true_eq] at hbuilt
  obtain ⟨tree, hbuild, hfits, hindex, hcommands⟩ := hbuilt
  obtain ⟨c, hwalk, hc⟩ := List.map_eq_singleton_iff.1 hcommands
  simp only [Prod.mk.injEq] at hc
  obtain ⟨hrole, hdescription, hname⟩ := hc
  have hmem : javascript .typed ∈ builtin := by simp [builtin]
  have hrender : ∃ files, Registry.builtin.render tree ⟨3, 16⟩ "typescript" = .ok files :=
    exists_render hmem hbuild hindex hfits
  obtain ⟨files, hfiles⟩ := hrender
  obtain ⟨scene, stubs, -, hdefines, hnames, hshown⟩ := exists_shown_stubs hmem hbuild hfiles
  rw [hwalk] at hdefines hnames
  obtain ⟨s, others, hs, hothers, rfl⟩ := List.forall₂_cons_left_iff.1 hdefines
  cases hothers
  obtain ⟨rest, htext⟩ := hs.text_eq
  have hstub : s.name = "onRun" := (List.cons.inj hnames).1.trans hname
  have hchars : s.text.toList =
      "/** Ends a */ comment */\nexport async function onRun(".toList ++ rest.toList := by
    rw [htext, hs.role_eq, hrole, hdescription, hstub]
    simp [javascript]
  refine ⟨tree, files, scene, s, rest.toList, hbuild, hfiles, hshown, ?_⟩
  rw [hchars]
  rfl

end Blueprint

end CliGen
