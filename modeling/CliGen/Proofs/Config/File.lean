import CliGen.Config.File
import CliGen.Proofs.Storage.Steps

/-!
# Settings from files are valid

Settings that no run can use are refused while they are read, so the settings that a run gets are
valid wherever they come from (`ConfigFile.validate_of_load`).
-/

namespace CliGen

open Disk

/-- Settings that are read are valid. -/
theorem Config.validate_of_read {text : String} {config : Config} (h : read text = .ok config) :
    config.validate = .ok () := by
  unfold read at h
  split at h
  next => cases h
  next c _ =>
    obtain ⟨⟨⟩, hvalid, hread⟩ := Outcome.bind_eq_ok.1 h
    cases hread
    exact hvalid

namespace ConfigFile

variable {disk : Disk} {file : ConfigFile}

private theorem validate_of_readFile {path : String} {source : ConfigSource}
    (h : disk.outcome (read path source) = .ok file) : file.config.validate = .ok () := by
  obtain ⟨text, -, h⟩ := outcome_bind_eq_ok.1 h
  obtain ⟨config, hconfig, h⟩ := outcome_bind_eq_ok.1 h
  rw [outcome_ofExcept] at hconfig
  cases h
  exact Config.validate_of_read hconfig

private theorem validate_of_read? {path : Outcome String} {source : ConfigSource}
    (h : disk.outcome (read? path source) = .ok (some file)) : file.config.validate = .ok () := by
  unfold read? at h
  split at h
  · cases h
  · obtain ⟨standing, -, h⟩ := outcome_bind_eq_ok.1 h
    split at h
    · obtain ⟨found, hfound, h⟩ := outcome_bind_eq_ok.1 h
      cases h
      exact validate_of_readFile hfound
    · cases h

private theorem validate_of_withDefaults {home project : Option String}
    (h : withDefaults home project = .ok file) : file.config.validate = .ok () := by
  obtain ⟨path, -, h⟩ := Outcome.bind_eq_ok.1 h
  cases h
  rfl

/-- Loaded settings are valid. -/
theorem validate_of_load {home project explicit : Option String}
    (h : disk.outcome (load home project explicit) = .ok file) :
    file.config.validate = .ok () := by
  unfold load at h
  cases explicit with
  | some path =>
    obtain ⟨standing, -, h⟩ := outcome_bind_eq_ok.1 h
    split at h
    · exact validate_of_readFile h
    · cases h
  | none =>
    -- Without settings in the project, the home directory and then the standard ones are asked.
    extract_lets further at h
    have hfurther (d : Disk) (h : d.outcome (further ()) = .ok file) :
        file.config.validate = .ok () := by
      obtain ⟨found, hfound, h⟩ := outcome_bind_eq_ok.1 h
      cases found with
      | some found =>
        cases h
        exact validate_of_read? hfound
      | none => exact validate_of_withDefaults (outcome_ofExcept _ _ ▸ h)
    cases project with
    | none => exact hfurther _ h
    | some directory =>
      obtain ⟨found, hfound, h⟩ := outcome_bind_eq_ok.1 h
      cases found with
      | some found =>
        cases h
        exact validate_of_read? hfound
      | none => exact hfurther _ h

end ConfigFile

end CliGen
