import CliGen.Proofs.Config.RoundTrip

/-!
# Changing settings

A setting is changed by a name and a text. A text that is none of the setting's values leaves all
settings as they are. Any other changes this setting and no other, and the text that the setting is
then shown by stands for the same value (`Config.change_exact`).

## Shape of the proof

Each setting has its own texts, and one by which it is shown (`Key.shown?`): numbers lose their plus
sign and their zeros, lists their blanks, and levels their capitals. A text and the one that is
shown for it change settings alike (`set?_of_shown`), and what a change leaves alone is read off the
cases of `Changed`.
-/

namespace CliGen.Config

variable {c c' : Config} {key other : Key} {name text v : String}

/-! ## Texts of values -/

/-- A number is read from the text that shows it. -/
theorem readCount?_toString {n : Nat} (h : 0 < n ∧ n ≤ maxNumber) :
    readCount? (toString n) = some n := by
  have hnumber := Text.number?_toString n
  have hguard : (guard (0 < n ∧ n ≤ maxNumber) : Option Unit) = some () :=
    (Option.guard_eq_some' ()).2 h
  unfold readCount?
  split
  next digits rest hplus =>
    -- There is no plus sign among digits.
    rw [hplus] at hnumber
    cases hnumber
  next =>
    dsimp only
    rw [hnumber, Option.bind_eq_bind, Option.bind_some, hguard]
    rfl

/-- A truth value is read back from the text it is shown by. -/
theorem readTruth?_truthText (b : Bool) : readTruth? (truthText b) = some b := by
  cases b <;> rfl

/-- The items of a list are trimmed, not empty and without commas. -/
theorem of_mem_readItems {item : String} (h : item ∈ readItems text) :
    item ≠ "" ∧ Text.trim item = item ∧ ',' ∉ item.toList := by
  obtain ⟨hmem, hne⟩ := List.mem_filter.1 h
  obtain ⟨piece, hpiece, rfl⟩ := List.mem_map.1 hmem
  exact ⟨bne_iff_ne.1 hne, Text.trim_trim piece, fun hcomma =>
    Text.notMem_of_mem_splitAt hpiece (Text.mem_of_mem_trim hcomma)⟩

/-- The items of a list are read from the text that shows them. -/
theorem readItems_intercalate (h : readItems text ≠ []) :
    readItems (",".intercalate (readItems text)) = readItems text := by
  have hcut : Text.splitAt ',' (",".intercalate (readItems text)) = readItems text :=
    Text.splitAt_intercalate h fun item hitem => (of_mem_readItems hitem).2.2
  have htrimmed : (readItems text).map Text.trim = readItems text :=
    (List.map_congr_left fun item hitem => (of_mem_readItems hitem).2.1).trans (List.map_id _)
  rw [readItems, hcut, htrimmed, List.filter_eq_self]
  exact fun item hitem => bne_iff_ne.2 (of_mem_readItems hitem).1

/-- Levels are written in small letters. -/
theorem lowerAscii_of_mem_levels {level : String} (h : level ∈ levels) :
    Text.lowerAscii level = level := by
  have hall : ∀ level ∈ levels, Text.lowerAscii level = level := by decide
  exact hall level h

/-- The text that a setting is shown by after it is given a text, if that is one of its values. -/
def Key.shown? (key : Key) (text : String) : Option String :=
  match key with
  | .maxDepth | .hookThreshold => (readCount? text).map toString
  | .targets =>
    if readItems text = [] then none else some (",".intercalate (readItems text))
  | .outputDir => if Text.trim text = "" then none else some text
  | .parallel | .backup | .dryRun => (readTruth? text).map truthText
  | .level => if Text.lowerAscii text ∈ levels then some (Text.lowerAscii text) else none
  | .file => some (if text = "" then "None" else text)

/-! ## One setting -/

/-- A setting is changed by its values only, and is then shown as they are. -/
theorem map_get_set? (c : Config) (key : Key) (text : String) :
    (c.set? key text).map (·.get key) = key.shown? text := by
  cases key with
  | maxDepth | hookThreshold | parallel | backup | dryRun => exact Option.map_map ..
  | targets => by_cases h : readItems text = [] <;> simp [set?, get, Key.shown?, h]
  | outputDir => by_cases h : Text.trim text = "" <;> simp [set?, get, Key.shown?, h]
  | level => by_cases h : Text.lowerAscii text ∈ levels <;> simp [set?, get, Key.shown?, h]
  | file =>
    by_cases hempty : text = ""
    · simp [set?, get, Key.shown?, hempty]
    · by_cases hnone : text = "None" <;> simp [set?, get, Key.shown?, hempty, hnone]

/-- A text and the one that is shown for it change a setting alike. -/
theorem set?_of_shown (h : key.shown? text = some v) (c : Config) :
    c.set? key v = c.set? key text := by
  cases key with
  -- Counts and truth values are shown in another spelling than they may be given in.
  | maxDepth | hookThreshold =>
    obtain ⟨n, hn, rfl⟩ := Option.map_eq_some_iff.1 h
    have hsame : readCount? (toString n) = readCount? text := by
      rw [hn, readCount?_toString (of_readCount? hn)]
    simp only [set?, hsame]
  | parallel | backup | dryRun =>
    obtain ⟨b, hb, rfl⟩ := Option.map_eq_some_iff.1 h
    have hsame : readTruth? (truthText b) = readTruth? text := by rw [hb, readTruth?_truthText]
    simp only [set?, hsame]
  | targets =>
    obtain ⟨hne, h⟩ := Option.ite_none_left_eq_some.1 h
    cases h
    simp only [set?, readItems_intercalate hne]
  | outputDir =>
    obtain ⟨-, h⟩ := Option.ite_none_left_eq_some.1 h
    cases h
    rfl
  | level =>
    obtain ⟨hknown, h⟩ := Option.ite_none_right_eq_some.1 h
    cases h
    simp only [set?, lowerAscii_of_mem_levels hknown]
  | file =>
    cases h
    by_cases hempty : text = ""
    · simp [set?, hempty]
    · rw [if_neg hempty]

/-- Setting one key leaves the others as they were. -/
theorem get_of_changed (h : Changed c text key c') (hother : other ≠ key) :
    c'.get other = c.get other := by
  cases h <;> cases other <;> first | rfl | exact absurd rfl hother

/-- A change that is made twice is made once. -/
theorem set?_of_changed (h : Changed c text key c') : c'.set? key text = some c' := by
  cases h with
  | maxDepth h | hookThreshold h | parallel h | backup h | dryRun h => simp [set?, h]
  | targets h => simp [set?, h]
  | outputDir h => simp [set?, h]
  | level h => simp [set?, h]
  | file => rfl

/-! ## Settings by name -/

/-- A key is known by its name only. -/
theorem Key.parse?_eq_some : Key.parse? name = some key ↔ key.name = name := by
  constructor
  · intro h
    exact beq_iff_eq.1 (List.find?_some (p := fun k : Key => k.name == name) h)
  · rintro rfl
    cases key <;> rfl

/-- What it takes to set a key by its name. -/
theorem setNamed_eq_ok : c.setNamed name text = .ok c' ↔
    ∃ key, Key.parse? name = some key ∧ c.set? key text = some c' := by
  unfold setNamed
  split
  next hname => simp [hname]
  next key hname =>
    split
    next changed hset => simp [hname, hset]
    next hset => simp [hname, hset]

/-- The text that the setting of a name is shown by after it is given a text. -/
def shownAs? (name text : String) : Option String :=
  (Key.parse? name).bind (·.shown? text)

/-- Settings that are changed in place are those that the change gives, or as before if it is
refused. -/
theorem run_change (c : Config) (name text : String) : (change name text).run.run c =
    match c.setNamed name text with
    | .ok changed => (.ok (), changed)
    | .error problem => (.error problem, c) := by
  change ((MonadExcept.ofExcept (c.setNamed name text) >>= fun changed => MonadState.set changed :
    ExceptT Problem (StateM Config) Unit)).run.run c = _
  cases c.setNamed name text <;> rfl

/-- A change in place succeeds where setting the key does, and leaves its settings. -/
theorem run_change_eq_ok : (change name text).run.run c = (.ok (), c') ↔
    c.setNamed name text = .ok c' := by
  rw [run_change]
  cases c.setNamed name text with
  | ok changed => constructor <;> (rintro ⟨⟩; rfl)
  | error problem => constructor <;> rintro ⟨⟩

/-- A setting that is not the one of a name is shown as before. -/
theorem getNamed_of_setNamed (h : c.setNamed name text = .ok c') {other : String}
    (hother : other ≠ name) : c'.getNamed other = c.getNamed other := by
  obtain ⟨key, hkey, hset⟩ := setNamed_eq_ok.1 h
  unfold getNamed
  split
  next found hfound =>
    have hne : found ≠ key := by
      rintro rfl
      exact hother ((Key.parse?_eq_some.1 hfound).symm.trans (Key.parse?_eq_some.1 hkey))
    rw [get_of_changed (changed_of_set? hset) hne]
  next => rfl

/-- A setting that is given a text is shown by one that stands for the same value. -/
theorem exists_shown_of_setNamed (h : c.setNamed name text = .ok c') : ∃ v,
    shownAs? name text = some v ∧ c'.getNamed name = .ok v ∧ c'.setNamed name v = .ok c' := by
  obtain ⟨key, hkey, hset⟩ := setNamed_eq_ok.1 h
  have hshown : key.shown? text = some (c'.get key) := by
    rw [← map_get_set? c, hset]
    rfl
  refine ⟨c'.get key, ?_, ?_, setNamed_eq_ok.2 ⟨key, hkey, ?_⟩⟩
  · rw [shownAs?, hkey, Option.bind_some, hshown]
  · rw [getNamed, hkey]
  · rw [set?_of_shown hshown, set?_of_changed (changed_of_set? hset)]

/-- A setting can be given its values. -/
theorem exists_setNamed_of_shown (h : shownAs? name text = some v) (c : Config) :
    ∃ c', c.setNamed name text = .ok c' := by
  obtain ⟨key, hkey, hshown⟩ := Option.bind_eq_some_iff.1 h
  rw [← map_get_set? c] at hshown
  obtain ⟨c', hset, -⟩ := Option.map_eq_some_iff.1 hshown
  exact ⟨c', setNamed_eq_ok.2 ⟨key, hkey, hset⟩⟩

/-- **Changing a setting changes it alone.** A change is made exactly if the text is a value of the
setting; else it is refused, and all settings stay as they are. After a change all other settings
are as before and the settings are valid. The setting is shown by a text that stands for the same
value: giving it that text changes nothing. -/
theorem change_exact (hreached : c.Reached) {outcome : Outcome Unit}
    (h : (change name text).run.run c = (outcome, c')) :
    (outcome = .ok () ↔ ∃ v, shownAs? name text = some v) ∧
    (∀ problem, outcome = .error problem → c' = c) ∧
    (outcome = .ok () →
      (∀ other, other ≠ name → c'.getNamed other = c.getNamed other) ∧
      c'.Reached ∧ c'.validate = .ok () ∧
      ∃ v, shownAs? name text = some v ∧ c'.getNamed name = .ok v ∧
        (change name v).run.run c' = (.ok (), c')) := by
  rw [run_change] at h
  cases hset : c.setNamed name text with
  | error problem =>
    rw [hset] at h
    cases h
    refine ⟨iff_of_false (fun h => by cases h) ?_, fun _ _ => rfl, fun h => (by cases h)⟩
    rintro ⟨v, hv⟩
    obtain ⟨c', hc'⟩ := exists_setNamed_of_shown hv c
    rw [hset] at hc'
    cases hc'
  | ok changed =>
    rw [hset] at h
    cases h
    obtain ⟨v, hshown, hget, hagain⟩ := exists_shown_of_setNamed hset
    have hafter : c'.Reached := .set hreached hset
    refine ⟨iff_of_true rfl ⟨v, hshown⟩, fun _ h => (by cases h), fun _ => ?_⟩
    exact ⟨fun other hother => getNamed_of_setNamed hset hother, hafter, hafter.validate, v, hshown,
      hget, run_change_eq_ok.2 hagain⟩

/-- The targets are listed with blanks and an empty item, and shown without. -/
theorem change_exact_listed :
    ∃ c', (change "generation.targets" " rust , ,nodejs").run.run standard = (.ok (), c') ∧
      c'.getNamed "generation.targets" = .ok "rust,nodejs" ∧
      c'.getNamed "logging.level" = standard.getNamed "logging.level" ∧
      c'.validate = .ok () ∧
      (change "generation.targets" "rust,nodejs").run.run c' = (.ok (), c') := by
  have hrun : (change "generation.targets" " rust , ,nodejs").run.run standard =
      (.ok (), { standard with
        generation := { standard.generation with targets := ["rust", "nodejs"] } }) := by
    rfl
  obtain ⟨hothers, -, hvalid, v, hshown, hget, hagain⟩ :=
    (change_exact .standard hrun).2.2 rfl
  have hv : shownAs? "generation.targets" " rust , ,nodejs" = some "rust,nodejs" := by rfl
  obtain rfl : "rust,nodejs" = v := Option.some.inj (hv.symm.trans hshown)
  exact ⟨_, hrun, hget, hothers "logging.level" (by decide), hvalid, hagain⟩

end CliGen.Config
