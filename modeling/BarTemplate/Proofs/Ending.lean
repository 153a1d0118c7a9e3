import BarTemplate.Proofs.Run

/-!
# How runs end

Main statement: a run whose command line is accepted returns zero, one or two, with a message where it is two, unless it
comes upon an error that it does not handle (`run_ends`). Which these errors are is told exactly (`Escapes`), as far as
the machine that carries out the run tells what it fails at (`Host`). The words of the command line and the standard
input have to be texts, without lone surrogates. Among the errors are those of a configuration file that is there but is
no text, and of an output file that cannot be written (`config_and_output_escape`).
-/

namespace BarTemplate.Command

variable {a : Arguments} {disk : Disk} {host : Host} {stdin : Text} {frames : Int}

/-- A code that is returned is zero, one or two, and two exactly where the run is refused, with a message. -/
theorem code_of_returned {code : Nat} (h : (a.run disk stdin frames host).ending = .returned code) :
    (code = 0 ∨ code = 1 ∨ code = 2) ∧ (code = 2 ↔ Refused a disk host) ∧
      (code = 2 → ∃ message : Text, (a.run disk stdin frames host).stderr = "error: " ++ message ++ "\n") := by
  rcases Arguments.run_cases h with ⟨refused, message, hr⟩ | ⟨allowed, depth, ss, -, hr⟩
  · rw [hr] at h ⊢
    cases h
    exact ⟨Or.inr (Or.inr rfl), ⟨fun _ => refused, fun _ => rfl⟩, fun _ => ⟨message, rfl⟩⟩
  · rw [hr] at h
    have verdict : code = 0 ∨ code = 1 := (delivered_of_deliver h).verdict
    have other : code ≠ 2 := by omega
    exact ⟨by omega, ⟨fun two => absurd two other, fun refused => absurd refused allowed⟩, fun two => absurd two other⟩

/-- A run whose command line is accepted, and is given by code points without lone surrogates, ends by an error exactly
if it comes upon one that it does not handle, and by that. If there is none, it returns zero, one or two, and two
exactly if it is refused, with a message on the error stream. -/
theorem run_ends (codes : List (List Nat)) (words : List Text) (disk : Disk) (stdin : Text) (frames : Int) (host : Host)
    (a : Arguments) (decoded : codes.mapM Text.ofCodes? = some words) (accepted : Arguments.ofWords words = .ok a) :
    ∃ r, runOfCodes? codes disk stdin frames host = some r ∧
      (∀ e, r.ending = .escaped e ↔ Escapes a disk host stdin frames e) ∧
      ((∀ e, ¬ Escapes a disk host stdin frames e) → ∃ code, r.ending = .returned code ∧
        (code = 0 ∨ code = 1 ∨ code = 2) ∧ (code = 2 ↔ Refused a disk host) ∧
        (code = 2 → ∃ message : Text, r.stderr = "error: " ++ message ++ "\n")) := by
  have same : runOfCodes? codes disk stdin frames host = some (a.run disk stdin frames host) := by
    unfold runOfCodes? run
    rw [decoded, Option.map_some, accepted]
  have course := (run_course a disk host stdin frames).ending
  refine ⟨_, same, fun e => ⟨fun h => ?_, Escapes.ending⟩, fun none => ?_⟩
  · rcases course with ⟨code, returned⟩ | ⟨e', escaped, escapes⟩
    · cases h.symm.trans returned
    · cases h.symm.trans escaped
      exact escapes
  · rcases course with ⟨code, returned⟩ | ⟨e, -, escapes⟩
    · exact ⟨code, returned, code_of_returned returned⟩
    · exact absurd escapes (none e)

/-- A disk whose only file is a configuration that is not UTF-8. -/
def undecodableConfig : Disk where
  read p := if p.parts = [configFilename] then .ok [0xFF] else .error .notFound
  writeFault _ := none

/-- A disk on which the output would have to go where a directory is. -/
def directoryOutput : Disk where
  read _ := .error .notFound
  writeFault _ := some .isDirectory

/-- On a disk without files, and on a machine that fails at nothing, a run with templates only escapes by no error. -/
theorem not_escapes_empty {templates : List (Option Text)} (e : Escape) :
    ¬ Escapes { templates } emptyDisk {} stdin frames e := by
  have absent : ∀ p, emptyDisk.Absent p := fun p => Or.inr ⟨.notFound, rfl, rfl⟩
  have nameless : ∀ {p : Path}, ¬ Names none p := fun ⟨_, named, _⟩ => nomatch named
  have unbad : ∀ {config : Table} {v : Setting}, Configured { templates } emptyDisk {} config →
      ¬ FirstBad { templates } config v := by
    intro config v configured bad
    cases configured with
    | file _ present => exact present (absent _)
    | absent =>
      cases bad with
      | configured gives =>
        obtain ⟨parser, none, -⟩ := gives
        cases none
      | given _ given => cases given
  intro h
  cases h with
  | config _ _ present | reading _ _ present | integer _ _ present => exact present (absent _)
  | showing _ configured bad | value _ configured bad => exact unbad configured bad
  | input _ _ input => exact nameless input
  | output _ _ _ _ output => exact nameless output
  | printing _ _ _ _ _ fails => cases fails

/-- A configuration that is not UTF-8 is an error that a run does not handle. Without any files there is none, and the
run returns. -/
theorem undecodable_config_unhandled :
    Escapes { templates := [some ['x']] } undecodableConfig {} [] 1000 (.file (.undecodable ⟨0xFF, 0, 1, .startByte⟩)) ∧
      ∃ r code, runOfCodes? [[45, 116], [120]] emptyDisk [] 1000 = some r ∧ r.ending = .returned code ∧
        (code = 0 ∨ code = 1 ∨ code = 2) := by
  have decoded : [[45, 116], [120]].mapM Text.ofCodes? = some [['-', 't'], ['x']] := rfl
  have accepted : Arguments.ofWords [['-', 't'], ['x']] = .ok { templates := [some ['x']] } := rfl
  obtain ⟨_, ⟨⟩, escaped, -⟩ := run_ends _ _ undecodableConfig [] 1000 {} _ decoded accepted
  obtain ⟨r, run, -, returns⟩ := run_ends _ _ emptyDisk [] 1000 {} _ decoded accepted
  obtain ⟨code, returned, verdict, -⟩ := returns not_escapes_empty
  exact ⟨(escaped _).mp rfl, r, code, run, returned, verdict⟩

/-- A run need not return: not where the configuration is not UTF-8, and not where a directory is in the place of the
output file. -/
theorem config_and_output_escape :
    (run [['-', 't'], ['x']] undecodableConfig [] 1000).ending = .escaped (.file (.undecodable ⟨0xFF, 0, 1, .startByte⟩)) ∧
      (run [['-', 't'], ['x'], ['-', 'o'], ['d']] directoryOutput [] 1000).ending =
        .escaped (.file (.unreadable { parts := [['d']] } .isDirectory)) :=
  ⟨rfl, rfl⟩

end BarTemplate.Command
