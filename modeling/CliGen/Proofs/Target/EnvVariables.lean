import CliGen.Proofs.Naming.Camel
import CliGen.Proofs.Target.Variables
import CliGen.Proofs.Text.Blank

/-!
# Environment variables of options

The variable of an option is made from the names that lead to it, with an underscore between them
and for every character of theirs that is no letter or digit. It tells the pieces between these
characters, but not which name a piece belongs to (`PlacedOption.envVar_eq_iff`). So two options of
a tree share a variable where the same pieces are spread over their names in different ways, and
only there (`CommandTree.shared_envVar_iff`).
-/

namespace CliGen

open Naming

/-! ## Pieces of names -/

/-- What stands between the characters of a name that are no letters or digits, in capitals. -/
def envPieces (name : String) : List (List Char) :=
  (Text.pieces (!·.isAlphanum) name.toList).map (·.map Char.toUpper)

/-- They are what the underscores of a segment separate. -/
theorem pieces_envSegment (s : String) :
    Text.pieces (· == '_') (NamedOption.envSegment s).toList = envPieces s := by
  have hseparates : ∀ c ∈ s.toList,
      ((if c.isAlphanum then c.toUpper else '_') == '_') = !c.isAlphanum := by
    intro c _
    by_cases hc : c.isAlphanum = true
    · have hupper : ¬ c.toUpper = '_' := by
        intro heq
        have halnum := isAlphanum_toUpper (toNat_lt_of_isAlphanum hc)
        rw [heq, hc] at halnum
        revert halnum
        decide
      simp [hc, hupper]
    · simp [hc]
  rw [NamedOption.envSegment, String.toList_ofList, Text.pieces_map hseparates, envPieces]
  refine List.map_congr_left fun p hp => List.map_congr_left fun c hc => ?_
  have halnum : c.isAlphanum = true := by simpa using Text.mem_pieces hp hc
  rw [if_pos halnum]

/-- The small form of a letter can be told from its capital. -/
theorem toLower_toUpper {c : Char} (h : c.isAlphanum = true) : c.toUpper.toLower = c.toLower :=
  forall_ascii (p := fun c => c.isAlphanum = true → c.toUpper.toLower = c.toLower) (by decide)
    (toNat_lt_of_isAlphanum h) h

/-- The identifier that belongs to some pieces. -/
def pieceIdentifier (ps : List (List Char)) : String :=
  "_".intercalate ((ps.filter (!·.isEmpty)).map fun p => String.ofList (p.map Char.toLower))

/-- A name is known by its pieces. -/
theorem identifier_eq_pieceIdentifier {name : String} (h : Field.isName name = true) :
    identifier name = pieceIdentifier (envPieces name) := by
  have hchars := isNameChar_of_mem h
  have hcut : Text.pieces isSeparator name.toList = Text.pieces (!·.isAlphanum) name.toList := by
    have hid := Text.pieces_map (f := id) fun c hc => (hchars c hc).isSeparator_eq
    simpa using hid
  rw [identifier, words, Text.words, hcut, pieceIdentifier, envPieces, List.filter_map,
    List.map_map]
  congr 1
  have hfilter : (fun p : List Char => !p.isEmpty) ∘ (fun p : List Char => p.map Char.toUpper) =
      fun p => !p.isEmpty := by
    funext p
    cases p <;> rfl
  rw [hfilter]
  refine List.map_congr_left fun p hp => ?_
  have halnum : ∀ c ∈ p, c.isAlphanum = true := fun c hc => by
    simpa using Text.mem_pieces (List.mem_of_mem_filter hp) hc
  show String.ofList (Text.lower p) = String.ofList ((p.map Char.toUpper).map Char.toLower)
  rw [Text.lower_ascii fun c hc => toNat_lt_of_isAlphanum (halnum c hc), List.map_map]
  refine congrArg String.ofList (List.map_congr_left fun c hc => ?_)
  exact (toLower_toUpper (halnum c hc)).symm

/-! ## Variables -/

/-- An option of a tree, and the path of the command that takes it. -/
structure PlacedOption where
  /-- It is empty for the options of the command line. -/
  path : List String
  option : NamedOption

namespace PlacedOption

/-- The names that lead to an option. -/
def address (p : PlacedOption) : List String := p.path ++ [p.option.name]

/-- The variable of an option. -/
def envVar (p : PlacedOption) (cliName : String) : String := p.option.envVar cliName p.path

/-- The pieces of the names that lead to an option. -/
def pieces (p : PlacedOption) : List (List Char) := p.address.flatMap envPieces

/-- How many pieces each of these names has. -/
def counts (p : PlacedOption) : List Nat := p.address.map fun name => (envPieces name).length

variable {p q : PlacedOption}

/-- A derived variable tells the pieces of the names that lead to its option, and nothing else. -/
theorem envVar_eq_iff (hp : p.option.env = none) (hq : q.option.env = none) (cliName : String) :
    p.envVar cliName = q.envVar cliName ↔ p.pieces = q.pieces := by
  have hjoined : ∀ {r : PlacedOption}, r.option.env = none →
      Text.pieces (· == '_') (r.envVar cliName).toList = envPieces cliName ++ r.pieces := by
    intro r hr
    rw [envVar, NamedOption.envVar, hr, Option.getD_none, String.toList_intercalate, List.map_map]
    rw [show "_".toList = ['_'] from rfl, Text.pieces_intercalate (by simp) (by simp),
      List.flatMap_map]
    simp only [Function.comp_apply, pieces_envSegment]
    rw [List.cons_append, List.flatMap_cons]
    rfl
  constructor
  · intro heq
    have hpieces := congrArg (fun v => Text.pieces (· == '_') v.toList) heq
    simp only [hjoined hp, hjoined hq] at hpieces
    exact List.append_cancel_left hpieces
  · intro heq
    rw [← String.toList_inj, ← Text.intercalate_pieces '_' (p.envVar cliName).toList, hjoined hp,
      heq, ← hjoined hq, Text.intercalate_pieces]

/-- Options whose names have the same pieces in the same places have the same identifiers on their
way. -/
theorem identifiers_of_pieces (hp : ∀ s ∈ p.address, Field.isName s = true)
    (hq : ∀ s ∈ q.address, Field.isName s = true) (hcounts : p.counts = q.counts)
    (hpieces : p.pieces = q.pieces) : p.address.map identifier = q.address.map identifier := by
  have heach : p.address.map envPieces = q.address.map envPieces := by
    refine List.eq_iff_flatten_eq.2 ⟨hpieces, ?_⟩
    rw [List.map_map, List.map_map]
    exact hcounts
  have hidentifiers : ∀ {r : PlacedOption}, (∀ s ∈ r.address, Field.isName s = true) →
      r.address.map identifier = (r.address.map envPieces).map pieceIdentifier := by
    intro r hr
    rw [List.map_map]
    exact List.map_congr_left fun s hs => identifier_eq_pieceIdentifier (hr s hs)
  rw [hidentifiers hp, hidentifiers hq, heach]

/-- The pieces of two options are spread in the same way if the two are options of one command, or
if no name is cut. -/
theorem counts_eq_of_pieces (hpieces : p.pieces = q.pieces)
    (h : p.path = q.path ∨ ∀ s ∈ p.address ++ q.address, ∀ c ∈ s.toList, c.isAlphanum = true) :
    p.counts = q.counts := by
  rcases h with hpath | hwhole
  · rw [pieces, pieces, address, address, hpath, List.flatMap_append,
      List.flatMap_append] at hpieces
    have hname := List.append_cancel_left hpieces
    rw [List.flatMap_singleton, List.flatMap_singleton] at hname
    rw [counts, counts, address, address, hpath, List.map_append, List.map_append,
      List.map_singleton, List.map_singleton, hname]
  · rw [List.forall_mem_append] at hwhole
    have hones : ∀ {r : PlacedOption}, (∀ s ∈ r.address, ∀ c ∈ s.toList, c.isAlphanum = true) →
        r.pieces.length = r.address.length ∧ r.counts = List.replicate r.address.length 1 := by
      intro r hr
      have hone : ∀ s ∈ r.address, envPieces s = [s.toList.map Char.toUpper] := by
        intro s hs
        rw [envPieces, Text.pieces_of_none fun c hc => by simp [hr s hs c hc]]
        rfl
      refine ⟨?_, ?_⟩
      · rw [pieces, List.flatMap_congr hone, ← List.map_eq_flatMap, List.length_map]
      · rw [counts, ← List.map_const']
        exact List.map_congr_left fun s hs => by rw [hone s hs]; rfl
    rw [(hones hwhole.1).2, (hones hwhole.2).2, ← (hones hwhole.1).1, hpieces, (hones hwhole.2).1]

end PlacedOption

/-! ## The variables of a tree -/

namespace CommandTree

/-- All options of a tree, those of the command line first. -/
def placedOptions (t : CommandTree) : List PlacedOption :=
  t.globalOptions.map (⟨[], ·⟩) ++ t.walk.flatMap fun c => c.options.map (⟨c.path, ·⟩)

variable {maxDepth : Nat} {document : Value} {t : CommandTree}

/-- An option is addressed by names. -/
theorem isName_of_mem_address (h : build maxDepth document = .ok t) {p : PlacedOption}
    (hp : p ∈ t.placedOptions) : ∀ s ∈ p.address, Field.isName s = true := by
  rcases List.mem_append.1 hp with hp | hp
  · obtain ⟨o, ho, rfl⟩ := List.mem_map.1 hp
    exact List.forall_mem_singleton.2 (isName_of_mem_globalOptions h o ho)
  · obtain ⟨c, hc, hp⟩ := List.mem_flatMap.1 hp
    obtain ⟨o, ho, rfl⟩ := List.mem_map.1 hp
    have hname : o.name ∈ c.parameterNames := List.mem_append_right _ (List.mem_map_of_mem ho)
    exact List.forall_mem_append.2 ⟨isName_of_mem_path h hc,
      List.forall_mem_singleton.2 (isName_of_mem_parameterNames h hc o.name hname)⟩

/-- The names that lead to different options have different identifiers. -/
theorem nodup_identifiers_of_placedOptions (h : build maxDepth document = .ok t) :
    (t.placedOptions.map fun p => p.address.map identifier).Nodup := by
  -- A list of options keeps its different identifiers behind a path.
  have happended : ∀ {os : List NamedOption} (path : List String),
      ((os.map (·.name)).map identifier).Nodup →
        (os.map fun o => (path ++ [o.name]).map identifier).Nodup := by
    intro os path hos
    have hbehind := hos.map (f := fun i => path.map identifier ++ [i]) fun i j heq => by
      simpa using heq
    rw [List.map_map, List.map_map] at hbehind
    simpa [Function.comp_def] using hbehind
  have hcommands : (t.walk.flatMap fun c => c.options.map fun o =>
      (c.path ++ [o.name]).map identifier).Nodup := by
    refine List.nodup_flatMap.2 ⟨fun c hc => ?_, ?_⟩
    · have hnames := nodup_identifiers_of_parameterNames h hc
      rw [Command.parameterNames, List.map_append] at hnames
      exact happended c.path hnames.of_append_right
    · refine (List.pairwise_map.1 (nodup_paths_of_build h)).imp_of_mem fun {c d} hc hd hne => ?_
      intro is hmem hmem'
      obtain ⟨o, -, rfl⟩ := List.mem_map.1 hmem
      obtain ⟨o', -, heq⟩ := List.mem_map.1 hmem'
      rw [List.map_append, List.map_append] at heq
      have hpath := (List.append_inj' heq rfl).1
      exact hne (congrArg Command.path (eq_of_identifiers h hd hc hpath)).symm
  have hglobals : (t.globalOptions.map fun o => ([] ++ [o.name]).map identifier).Nodup := by
    have hidentifiers := (optionsSound_of_build h).identifiers
    refine happended [] ?_
    rwa [List.map_map]
  rw [placedOptions, List.map_append, List.map_map, List.map_flatMap]
  simp only [List.map_map]
  refine List.nodup_append.2 ⟨hglobals, hcommands, fun is his js hjs heq => ?_⟩
  -- No path of a command is empty.
  obtain ⟨o, -, rfl⟩ := List.mem_map.1 his
  obtain ⟨c, -, hjs⟩ := List.mem_flatMap.1 hjs
  obtain ⟨o', -, rfl⟩ := List.mem_map.1 hjs
  have hlength := congrArg List.length heq
  simp [PlacedOption.address, Command.path] at hlength

/-- **Which options share a variable.** Two options of a tree without variables of their own share
one exactly where the names that lead to them have the same pieces. No two options of one command
share a variable, or of the command line, and no two whose names have as many pieces each or are not
cut at all: then the pieces are spread over the names in one way. -/
theorem shared_envVar_iff (h : build maxDepth document = .ok t) :
    t.placedOptions.Pairwise fun p q => p.option.env = none → q.option.env = none →
      (p.envVar t.cliName = q.envVar t.cliName ↔ p.pieces = q.pieces) ∧
      (p.path = q.path ∨ p.counts = q.counts ∨
        (∀ s ∈ p.address ++ q.address, ∀ c ∈ s.toList, c.isAlphanum = true) →
          p.envVar t.cliName ≠ q.envVar t.cliName) := by
  have hapart := List.pairwise_map.1 (nodup_identifiers_of_placedOptions h)
  refine hapart.imp_of_mem fun {p q} hp hq hne henv henv' => ?_
  have hiff := PlacedOption.envVar_eq_iff henv henv' t.cliName
  refine ⟨hiff, fun hspread hshared => hne ?_⟩
  have hpieces := hiff.1 hshared
  have hcounts : p.counts = q.counts := by
    rcases hspread with hpath | hcounts | hwhole
    · exact PlacedOption.counts_eq_of_pieces hpieces (.inl hpath)
    · exact hcounts
    · exact PlacedOption.counts_eq_of_pieces hpieces (.inr hwhole)
  exact PlacedOption.identifiers_of_pieces (isName_of_mem_address h hp) (isName_of_mem_address h hq)
    hcounts hpieces

/-- An option with a dash in its name, and one below a command of the name in front of the dash. -/
def dashed : Value :=
  .object [("name", .str "tool"), ("commands", .object [
    ("a", .object [("desc", .str "A"), ("options", .list [.object [("name", .str "b-c")]]),
      ("subcommands", .object [
        ("b", .object [("desc", .str "B"),
          ("options", .list [.object [("name", .str "c")]])])])])])]

/-- Two options that address the same words share a variable. -/
theorem shared_envVar_iff_dashed : ∃ t, build 16 dashed = .ok t ∧
    t.placedOptions.map (·.address) = [["a", "b-c"], ["a", "b", "c"]] ∧
    t.placedOptions.Pairwise fun p q => p.option.env = none → q.option.env = none →
      (p.envVar t.cliName = q.envVar t.cliName ↔ p.pieces = q.pieces) ∧
      (p.path = q.path ∨ p.counts = q.counts ∨
        (∀ s ∈ p.address ++ q.address, ∀ c ∈ s.toList, c.isAlphanum = true) →
          p.envVar t.cliName ≠ q.envVar t.cliName) := by
  have hbuilt : (build 16 dashed).toOption.any (fun t =>
      t.placedOptions.map (·.address) = [["a", "b-c"], ["a", "b", "c"]]) = true := by
    decide +kernel
  simp only [Option.any_eq_true, Outcome.toOption_eq_some, decide_eq_true_eq] at hbuilt
  obtain ⟨t, ht, haddresses⟩ := hbuilt
  exact ⟨t, ht, haddresses, shared_envVar_iff ht⟩

/-- The two options are different, and share a variable. -/
theorem shared_envVar_dashed : ∃ t, build 16 dashed = .ok t ∧
    t.placedOptions.map (fun p => (p.address, p.option.env, p.envVar t.cliName)) =
      [(["a", "b-c"], none, "TOOL_A_B_C"), (["a", "b", "c"], none, "TOOL_A_B_C")] ∧
    ¬ t.placedOptions.Pairwise fun p q => p.option.env = none → q.option.env = none →
      p.envVar t.cliName ≠ q.envVar t.cliName := by
  have hbuilt : (build 16 dashed).toOption.any (fun t =>
      t.placedOptions.map (fun p => (p.address, p.option.env, p.envVar t.cliName)) =
        [(["a", "b-c"], none, "TOOL_A_B_C"), (["a", "b", "c"], none, "TOOL_A_B_C")]) = true := by
    decide +kernel
  simp only [Option.any_eq_true, Outcome.toOption_eq_some, decide_eq_true_eq] at hbuilt
  obtain ⟨t, ht, hoptions⟩ := hbuilt
  refine ⟨t, ht, hoptions, fun hdifferent => ?_⟩
  have hall : (t.placedOptions.map fun p =>
      (p.address, p.option.env, p.envVar t.cliName)).Pairwise fun a b =>
        a.2.1 = none → b.2.1 = none → a.2.2 ≠ b.2.2 :=
    List.pairwise_map.2 hdifferent
  rw [hoptions] at hall
  simp at hall

end CommandTree

end CliGen
