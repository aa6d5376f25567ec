import CliGen.Proofs.Naming.Words
import CliGen.Proofs.Tree.Invariants
import CliGen.Proofs.Tree.Names
import CliGen.Target.Context

/-!
# Variables of parsers

A generated program keeps the parser of every command in a variable that is named after the
command's path. The segments of a path can be read back from the variable up to their identifiers
(`parserVariable_inj`), and siblings have different identifiers, so all variables of a tree are
different (`CommandTree.nodup_variables_of_build`).
-/

namespace CliGen

open Naming

/-! ## Reading segments back -/

/-- What stands in runs with a separator between them is part of the one or of the other. -/
theorem mem_intercalate {α : Type} {separator : List α} {runs : List (List α)} {w : α}
    (h : w ∈ separator.intercalate runs) : w ∈ separator ∨ ∃ ws ∈ runs, w ∈ ws := by
  induction runs with
  | nil => simp at h
  | cons ws runs ih =>
    by_cases hruns : runs = []
    · subst hruns
      rw [List.intercalate_singleton] at h
      exact .inr ⟨ws, by simp, h⟩
    · rw [List.intercalate_cons_of_ne_nil hruns, List.mem_append, List.mem_append] at h
      rcases h with (h | h) | h
      · exact .inr ⟨ws, by simp, h⟩
      · exact .inl h
      · rcases ih h with h | ⟨vs, hvs, h⟩
        · exact .inl h
        · exact .inr ⟨vs, by simp [hvs], h⟩

/-- Runs that are not empty make a list that is not. -/
theorem intercalate_ne_nil {separator : List String} {runs : List (List String)}
    (h : runs ≠ []) (hall : ∀ ws ∈ runs, ws ≠ []) : separator.intercalate runs ≠ [] := by
  obtain ⟨ws, rest, rfl⟩ := List.exists_cons_of_ne_nil h
  have hfirst : ws ≠ [] := hall ws (by simp)
  by_cases hrest : rest = []
  · rwa [hrest, List.intercalate_singleton]
  · rw [List.intercalate_cons_of_ne_nil hrest]
    simp [hfirst]

/-- Two underscores between runs of words are one underscore on each side of an empty word. -/
theorem intercalate_runs {runs : List (List String)} (h : ∀ ws ∈ runs, ws ≠ []) :
    "__".intercalate (runs.map ("_".intercalate ·)) =
      "_".intercalate ([""].intercalate runs) := by
  induction runs with
  | nil => rfl
  | cons ws runs ih =>
    rw [List.forall_mem_cons] at h
    by_cases hruns : runs = []
    · rw [hruns, List.map_singleton, String.intercalate_singleton, List.intercalate_singleton]
    · have hmore : [""].intercalate runs ≠ [] := intercalate_ne_nil hruns h.2
      have hempty (s : String) : "_" ++ ("" ++ "_" ++ s) = "__" ++ s := by
        rw [← String.append_assoc]
        rfl
      rw [List.map_cons, String.intercalate_cons_of_ne_nil (by simp [hruns]), ih h.2,
        List.intercalate_cons_of_ne_nil hruns, List.append_assoc, List.singleton_append,
        String.intercalate_append_of_ne_nil h.1 (by simp),
        String.intercalate_cons_of_ne_nil hmore, String.append_assoc, String.append_assoc, hempty]

/-- What identifiers are made of: a run of words, and at least one. -/
structure IsRun (ws : List String) : Prop where
  ne_nil : ws ≠ []
  isWord : ∀ w ∈ ws, IsWord w

/-- The text that joins runs is cut at single underscores: the words, and an empty one between each
two runs. -/
theorem split_runs {runs : List (List String)} (hne : runs ≠ []) (h : ∀ ws ∈ runs, IsRun ws) :
    (("__".intercalate (runs.map ("_".intercalate ·))).split '_').toList.map (·.copy) =
      [""].intercalate runs := by
  have hclean : ∀ w ∈ [""].intercalate runs, ¬ '_' ∈ w.toList := by
    intro w hw hmem
    rcases mem_intercalate hw with hw | ⟨ws, hws, hw⟩
    · rw [List.mem_singleton.1 hw] at hmem
      exact absurd hmem (by decide)
    · exact (of_small (((h ws hws).isWord w hw).small '_' hmem)).1 rfl
  have hsplit : (("_".intercalate ([""].intercalate runs)).split '_').toList.map (·.copy) = _ :=
    String.toList_split_intercalate hclean
  rw [intercalate_runs fun ws hws => (h ws hws).ne_nil, hsplit,
    if_neg (intercalate_ne_nil hne fun ws hws => (h ws hws).ne_nil)]

/-- Runs of words are read back from the text that joins them. -/
theorem runs_inj {runs runs' : List (List String)} (hne : runs ≠ []) (hne' : runs' ≠ [])
    (h : ∀ ws ∈ runs, IsRun ws) (h' : ∀ ws ∈ runs', IsRun ws)
    (heq : "__".intercalate (runs.map ("_".intercalate ·)) =
      "__".intercalate (runs'.map ("_".intercalate ·))) : runs = runs' := by
  have hapart : ∀ rs : List (List String), (∀ ws ∈ rs, IsRun ws) → ∀ ws ∈ rs, "" ∉ ws :=
    fun rs hrs ws hws hmem => ((hrs ws hws).isWord "" hmem).ne_empty rfl
  have hjoined : [""].intercalate runs = [""].intercalate runs' := by
    rw [← split_runs hne h, ← split_runs hne' h', heq]
  calc runs = ([""].intercalate runs).splitOn "" :=
        (List.splitOn_intercalate "" (hapart runs h) hne).symm
    _ = ([""].intercalate runs').splitOn "" := by rw [hjoined]
    _ = runs' := List.splitOn_intercalate "" (hapart runs' h') hne'

/-- Paths of names whose parsers share a variable have the same identifiers. -/
theorem parserVariable_inj {p q : List String} (hp : p ≠ []) (hq : q ≠ [])
    (hnames : ∀ s ∈ p, Field.isName s = true) (hnames' : ∀ s ∈ q, Field.isName s = true)
    (h : parserVariable p = parserVariable q) : p.map identifier = q.map identifier := by
  have hruns : ∀ path : List String, (∀ s ∈ path, Field.isName s = true) →
      ∀ ws ∈ path.map words, IsRun ws := by
    intro path hpath ws hws
    obtain ⟨s, hs, rfl⟩ := List.mem_map.1 hws
    exact ⟨words_ne_nil (hpath s hs), fun w hw => isWord_of_mem_words (hpath s hs) hw⟩
  have hidentifiers (path : List String) :
      path.map identifier = (path.map words).map ("_".intercalate ·) := by
    rw [List.map_map]
    rfl
  rw [parserVariable, parserVariable, String.append_right_inj, hidentifiers, hidentifiers] at h
  rw [hidentifiers, hidentifiers,
    runs_inj (by simpa using hp) (by simpa using hq) (hruns p hnames) (hruns q hnames') h]

/-! ## The variables of a tree -/

namespace CommandTree

variable {maxDepth : Nat} {document : Value} {t : CommandTree}

/-- The commands above a level are known by their identifiers. -/
theorem Level.eq_of_identifiers (hbuild : build maxDepth document = .ok t)
    {ancestors ancestors' siblings siblings' : List Command} (h : t.Level ancestors siblings)
    (h' : t.Level ancestors' siblings')
    (heq : ancestors.map (identifier ·.name) = ancestors'.map (identifier ·.name)) :
    ancestors = ancestors' ∧ siblings = siblings' := by
  induction h generalizing ancestors' siblings' with
  | top =>
    cases h' with
    | top => exact ⟨rfl, rfl⟩
    | descend => simp at heq
  | @descend ancestors siblings c above mem ih =>
    cases h' with
    | top => simp at heq
    | @descend ancestors' siblings' d above' mem' =>
      rw [List.map_append, List.map_append, List.map_singleton, List.map_singleton] at heq
      obtain ⟨habove, hlast⟩ := List.append_inj' heq rfl
      obtain ⟨rfl, rfl⟩ := ih above' habove
      -- The last commands above are siblings, so they are known by their identifiers too.
      have hsame : c = d := List.inj_on_of_nodup_map (above.nodup_identifiers hbuild) mem mem'
        (List.cons.inj hlast).1
      rw [hsame]
      exact ⟨rfl, rfl⟩

/-- Commands of a tree whose paths have the same identifiers are one command. -/
theorem eq_of_identifiers (hbuild : build maxDepth document = .ok t) {c d : Command}
    (hc : c ∈ t.walk) (hd : d ∈ t.walk) (heq : c.path.map identifier = d.path.map identifier) :
    c = d := by
  obtain ⟨ancestors, siblings, hlevel, hmem⟩ := Level.exists_of_mem_walk hc
  obtain ⟨ancestors', siblings', hlevel', hmem'⟩ := Level.exists_of_mem_walk hd
  rw [Command.path, Command.path, (hlevel.parentPath_eq hbuild hmem).1,
    (hlevel'.parentPath_eq hbuild hmem').1, List.map_append, List.map_append] at heq
  obtain ⟨habove, hlast⟩ := List.append_inj' heq rfl
  rw [List.map_map, List.map_map] at habove
  obtain ⟨-, rfl⟩ := hlevel.eq_of_identifiers hbuild hlevel' habove
  exact List.inj_on_of_nodup_map (hlevel.nodup_identifiers hbuild) hmem hmem'
    (List.cons.inj hlast).1

/-- The variables of all parsers of a tree are different. -/
theorem nodup_variables_of_build (hbuild : build maxDepth document = .ok t) :
    (t.walk.map fun c => parserVariable c.path).Nodup := by
  refine List.Nodup.map_on ?_ (nodup_paths_of_build hbuild).of_map
  intro c hc d hd heq
  refine eq_of_identifiers hbuild hc hd (parserVariable_inj ?_ ?_ ?_ ?_ heq)
  · simp [Command.path]
  · simp [Command.path]
  · exact isName_of_mem_path hbuild hc
  · exact isName_of_mem_path hbuild hd

end CommandTree

end CliGen
