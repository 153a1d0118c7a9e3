import BarTemplate.Disk.Basic

/-!
# Reading files

Under a path, a disk has no file (`Disk.Absent`), or something that can be read as a text (`Disk.Holds`), or something
that cannot (`Disk.Lacks`). Main statements: which of these a reader of the disk tells (`Disk.readText_ok_iff`,
`Disk.readText_error_iff`), and a reader of a file that may be absent (`Disk.readText?_none_iff`,
`Disk.readText?_some_iff`, `Disk.readText?_error_iff`).
-/

namespace BarTemplate.Disk

variable {d : Disk} {p : Path} {t : Text} {e : ReadError}

/-- A path names no file: what it names is special, or nothing can be read because no file is there. -/
def Absent (d : Disk) (p : Path) : Prop :=
  d.special p = true ∨ ∃ f, d.read p = .error f ∧ f.isAbsence = true

/-- What can be read under a path is a text in UTF-8. -/
def Holds (d : Disk) (p : Path) (t : Text) : Prop :=
  ∃ bytes, d.read p = .ok bytes ∧ Utf8.decode bytes = .ok t

/-- No text can be had under a path: nothing can be read there, or what can be read is not UTF-8. -/
inductive Lacks (d : Disk) (p : Path) : ReadError → Prop where
  | unreadable {f : DiskFault} (read : d.read p = .error f) : Lacks d p (.unreadable p f)
  | undecodable {bytes : List UInt8} {f : Utf8.Fault} (read : d.read p = .ok bytes)
      (decode : Utf8.decode bytes = .error f) : Lacks d p (.undecodable f)

/-- A path holds one text. -/
theorem Holds.unique {u : Text} (h : d.Holds p t) (h' : d.Holds p u) : t = u := by
  obtain ⟨bytes, read, decode⟩ := h
  obtain ⟨bytes', read', decode'⟩ := h'
  cases read.symm.trans read'
  exact Except.ok.inj (decode.symm.trans decode')

/-- The text of a file is read exactly if the disk holds it. -/
theorem readText_ok_iff : d.readText p = .ok t ↔ d.Holds p t := by
  unfold readText Holds
  cases read : d.read p with
  | error f => simp
  | ok bytes =>
    cases decode : Utf8.decode bytes with
    | error f => simp [decode]
    | ok u => simp [decode]

/-- Reading a file fails exactly as the disk lacks its text. -/
theorem readText_error_iff : d.readText p = .error e ↔ d.Lacks p e := by
  unfold readText
  constructor
  · intro h
    split at h
    case h_1 f read =>
      cases h
      exact .unreadable read
    case h_2 bytes read =>
      split at h
      case h_1 f decode =>
        cases h
        exact .undecodable read decode
      case h_2 => cases h
  · rintro (read | ⟨read, decode⟩)
    · rw [read]
    · rw [read]
      simp only [decode]

/-- There is a file under a path exactly if what the path names is not special and no fault of reading it is an absence.
-/
theorem not_absent_iff : ¬ d.Absent p ↔ d.special p = false ∧ ∀ f, d.read p = .error f → f.isAbsence = false := by
  unfold Absent
  simp only [not_or, Bool.not_eq_true, not_exists, not_and]

/-- What a reader of a file that may be absent does with a path that is not special. -/
theorem readText?_of_not_special (h : d.special p = false) :
    d.readText? p = match d.readText p with
      | .ok t => .ok (some t)
      | .error (.unreadable q f) => if f.isAbsence then .ok none else .error (.unreadable q f)
      | .error e => .error e := by
  unfold readText?
  rw [h]
  rfl

/-- A file is taken for absent exactly if it is. -/
theorem readText?_none_iff : d.readText? p = .ok none ↔ d.Absent p := by
  cases special : d.special p with
  | true => simp [readText?, special, Absent]
  | false =>
    rw [readText?_of_not_special special]
    unfold Absent
    rw [special]
    cases read : d.readText p with
    | ok t =>
      obtain ⟨bytes, hr, -⟩ := readText_ok_iff.mp read
      simp [hr]
    | error e =>
      cases readText_error_iff.mp read with
      | @unreadable f hr => cases absence : f.isAbsence <;> simp [hr, absence]
      | undecodable hr => simp [hr]

/-- The text of a file that may be absent is read exactly if there is a file and the disk holds that text. -/
theorem readText?_some_iff : d.readText? p = .ok (some t) ↔ ¬ d.Absent p ∧ d.Holds p t := by
  rw [← readText_ok_iff, not_absent_iff]
  cases special : d.special p with
  | true => simp [readText?, special]
  | false =>
    rw [readText?_of_not_special special]
    cases read : d.readText p with
    | ok u =>
      obtain ⟨bytes, hr, -⟩ := readText_ok_iff.mp read
      simp [hr]
    | error e =>
      cases readText_error_iff.mp read with
      | @unreadable f hr => cases absence : f.isAbsence <;> simp [absence]
      | undecodable hr => simp

/-- Reading a file that may be absent fails exactly if there is one and the disk lacks its text. -/
theorem readText?_error_iff : d.readText? p = .error e ↔ ¬ d.Absent p ∧ d.Lacks p e := by
  rw [← readText_error_iff, not_absent_iff]
  cases special : d.special p with
  | true => simp [readText?, special]
  | false =>
    rw [readText?_of_not_special special]
    cases read : d.readText p with
    | ok u => simp
    | error e' =>
      cases readText_error_iff.mp read with
      | @unreadable f hr => cases absence : f.isAbsence <;> simp [hr, absence]
      | undecodable hr => simp [hr]

end BarTemplate.Disk
