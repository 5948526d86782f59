/-
Checking files is parsing each of them. A check counts the files that `parse`
would print and reports each of the others, in their order, with the error on
which `parse` stops (`Agrees`). A report takes one line where the path and the
words of the system do (`lines_errors`).
-/
import MessageSchema.Command
import MessageSchema.Proofs.File.Batch
import MessageSchema.Proofs.File.Message
import MessageSchema.Proofs.Text.Lines

namespace MessageSchema

open Text

theorem Text.lines_of_oneLine {s : String} (h : OneLine s) : lines s = [s] := by
  have hone : ∀ l ∈ [s], '\n' ∉ l.toList := by
    intro l hl
    rw [List.mem_singleton.1 hl]
    exact h
  have hjoin := lines_joinLines (by simp) hone
  rwa [joinLines, String.intercalate_singleton] at hjoin

/-- Lines that each end in a line feed. -/
theorem Text.lines_join {ls : List String} (h : ∀ l ∈ ls, OneLine l) :
    lines (String.join (ls.map fun l => l ++ "\n")) = ls ++ [""] := by
  induction ls with
  | nil => rfl
  | cons l ls ih =>
    have hjoin : String.join ((l :: ls).map fun l => l ++ "\n") =
        l ++ "\n" ++ String.join (ls.map fun l => l ++ "\n") := by simp
    rw [hjoin, lines_append, lines_of_oneLine (h l (by simp)), ih fun l hl => h l (by simp [hl])]
    rfl

namespace Command

variable {files : FileSource} {source : Option String} {config : Config} {paths : List String}

/-- Checking the files comes to parsing each of them, with the same settings. -/
structure Agrees (files : FileSource) (source : Option String) (config : Config) (paths : List String) :
    Prop where
  /-- Whether all files are read. -/
  code : (run files ⟨source, .check paths⟩).ending.code = 0 ↔
    ∀ path ∈ paths, (run files ⟨source, .parse path⟩).ending.code = 0
  /-- How many files are read, and how many are not. -/
  output :
    let read := paths.countP fun path => (run files ⟨source, .parse path⟩).ending.code = 0
    (run files ⟨source, .check paths⟩).output =
      read.repr ++ " ok, " ++ (paths.length - read).repr ++ " failed\n"
  /-- The files that are not read, each with the error on which parsing it stops. -/
  errors : ∃ failures : List (String × FileError),
    failures.map Prod.fst = paths.filter (fun path => (run files ⟨source, .parse path⟩).ending.code ≠ 0) ∧
    (∀ f ∈ failures,
      (∃ assembled, Interface.ofFile files config f.1 = .error ⟨assembled, f.2⟩) ∧
      run files ⟨source, .parse f.1⟩ = ⟨"", "", .stopped (.file f.2)⟩) ∧
    (run files ⟨source, .check paths⟩).errors =
      String.join (failures.map fun f => f.1 ++ ": " ++ f.2.message ++ "\n")

theorem run_parse (h : settings files ⟨source, .check paths⟩ = .ok config) (path : String) :
    run files ⟨source, .parse path⟩ = runParse files config path := by
  have h : settings files ⟨source, .parse path⟩ = .ok config := h
  simp only [run, h]

theorem run_check (h : settings files ⟨source, .check paths⟩ = .ok config) :
    run files ⟨source, .check paths⟩ = runCheck files config paths := by
  simp only [run, h]

theorem code_runParse (files : FileSource) (config : Config) (path : String) :
    (runParse files config path).ending.code = 0 ↔ (Batch.interface? files config path).isSome = true := by
  unfold runParse Batch.interface?
  cases Interface.ofFile files config path with
  | ok interface => simp [Ending.code, Except.toOption]
  | error failure => simp [Ending.code, Except.toOption]

theorem code_runCheck (files : FileSource) (config : Config) (paths : List String) :
    (runCheck files config paths).ending.code = 0 ↔ (Batch.ofFiles files config paths).failures = [] := by
  simp only [runCheck, Batch.isOk, List.isEmpty_iff]
  split <;> simp_all [Ending.code]

theorem failure?_eq_some {path : String} {f : String × FileError}
    (h : Batch.failure? files config path = some f) :
    f.1 = path ∧ (∃ assembled, Interface.ofFile files config path = .error ⟨assembled, f.2⟩) ∧
      runParse files config path = ⟨"", "", .stopped (.file f.2)⟩ := by
  unfold Batch.failure? at h
  split at h
  · cases h
  · next failure hread =>
    cases h
    exact ⟨rfl, ⟨failure.assembled, hread⟩, by simp only [runParse, hread]⟩

theorem map_fst_failures (files : FileSource) (config : Config) (paths : List String) :
    (paths.filterMap (Batch.failure? files config)).map Prod.fst =
      paths.filter (fun path => (runParse files config path).ending.code ≠ 0) := by
  induction paths with
  | nil => rfl
  | cons path paths ih =>
    cases h : Interface.ofFile files config path with
    | ok interface => simpa [Batch.failure?, runParse, Ending.code, h] using ih
    | error failure => simpa [Batch.failure?, runParse, Ending.code, h] using ih

theorem agrees (h : settings files ⟨source, .check paths⟩ = .ok config) :
    Agrees files source config paths := by
  have hparse := run_parse h
  have hread : (paths.countP fun path => (run files ⟨source, .parse path⟩).ending.code = 0) =
      (Batch.ofFiles files config paths).parsed.length := by
    rw [Batch.ofFiles_eq, List.length_filterMap_eq_countP]
    simp only [hparse, code_runParse, Bool.decide_eq_true]
  have hlength := Batch.length_ofFiles files config paths
  have hfailures : (Batch.ofFiles files config paths).failures =
      paths.filterMap (Batch.failure? files config) := by rw [Batch.ofFiles_eq]
  constructor
  case code =>
    have hall : (∀ path ∈ paths, (run files ⟨source, .parse path⟩).ending.code = 0) ↔
        (Batch.ofFiles files config paths).parsed.length = paths.length := by
      rw [← hread, List.countP_eq_length]
      simp
    rw [run_check h, code_runCheck, ← List.length_eq_zero_iff, hall]
    omega
  case output =>
    simp only [run_check h, hread, runCheck]
    rw [← hlength, Nat.add_sub_cancel_left]
  case errors =>
    refine ⟨paths.filterMap (Batch.failure? files config), ?_, ?_, ?_⟩
    · simp only [hparse]
      exact map_fst_failures files config paths
    · intro f hf
      obtain ⟨path, -, hpath⟩ := List.mem_filterMap.1 hf
      obtain ⟨rfl, hfile, hrun⟩ := failure?_eq_some hpath
      exact ⟨hfile, by rw [hparse, hrun]⟩
    · rw [run_check h, runCheck, hfailures]
      rfl

/-- **A report takes one line** if the path does, and if the system has no other
words to say. -/
theorem lines_errors (h : settings files ⟨source, .check paths⟩ = .ok config)
    (hone : ∀ path ∈ paths, OneLine path ∧ ∀ e, files path = .error e → OneLine e.words) :
    lines (run files ⟨source, .check paths⟩).errors =
      (Batch.ofFiles files config paths).failures.map failureText ++ [""] := by
  have htexts : ∀ l ∈ (Batch.ofFiles files config paths).failures.map failureText, OneLine l := by
    intro l hl
    obtain ⟨f, hf, rfl⟩ := List.mem_map.1 hl
    rw [Batch.ofFiles_eq] at hf
    obtain ⟨path, hmem, hpath⟩ := List.mem_filterMap.1 hf
    obtain ⟨rfl, ⟨assembled, hfile⟩, -⟩ := failure?_eq_some hpath
    obtain ⟨hone, hwords⟩ := hone f.1 hmem
    exact (hone.append (by decide)).append (Interface.oneLine_of_ofFile hone hwords hfile)
  rw [← lines_join htexts, run_check h, runCheck, List.map_map]
  rfl

/-- **Files do not disturb each other.** A batch is the outcomes of its files
in their order, so batches can be put together and reordered; and checking
files agrees with parsing them one by one. -/
theorem check_agrees_with_parse (files : FileSource) :
    (∀ config paths paths', Batch.ofFiles files config (paths ++ paths') =
      (Batch.ofFiles files config paths).append (Batch.ofFiles files config paths')) ∧
    (∀ config paths,
      Batch.ofFiles files config paths =
        ⟨paths.filterMap (Batch.interface? files config), paths.filterMap (Batch.failure? files config)⟩ ∧
      (Batch.ofFiles files config paths).parsed.length +
        (Batch.ofFiles files config paths).failures.length = paths.length) ∧
    (∀ config (paths paths' : List String), paths.Perm paths' →
      (Batch.ofFiles files config paths).parsed.Perm (Batch.ofFiles files config paths').parsed ∧
      (Batch.ofFiles files config paths).failures.Perm (Batch.ofFiles files config paths').failures) ∧
    ∀ source config paths, settings files ⟨source, .check paths⟩ = .ok config →
      Agrees files source config paths := by
  refine ⟨?_, ?_, ?_, ?_⟩
  · exact Batch.ofFiles_append files
  · exact fun config paths => ⟨Batch.ofFiles_eq files config paths, Batch.length_ofFiles files config paths⟩
  · exact fun config _ _ hperm => Batch.ofFiles_perm files config hperm
  · exact fun _ _ _ hsettings => agrees hsettings

/-- A faulty file and a good one. -/
def twoFiles : FileSource := fun path =>
  if path = "p/msg/A.msg" then .ok "???"
  else if path = "p/msg/B.msg" then .ok "bool b"
  else .error .notFound

/-- The good file between the faulty one, a missing one and a path that names
no interface. -/
theorem check_agrees_with_parse_mixed :
    settings twoFiles ⟨none, .check ["p/msg/A.msg", "p/msg/B.msg", "p/msg/C.msg", "D"]⟩ = .ok .standard ∧
    (run twoFiles ⟨none, .check ["p/msg/A.msg", "p/msg/B.msg", "p/msg/C.msg", "D"]⟩).output =
      "1 ok, 3 failed\n" ∧
    Agrees twoFiles none .standard ["p/msg/A.msg", "p/msg/B.msg", "p/msg/C.msg", "D"] ∧
    (Batch.ofFiles twoFiles .standard ["p/msg/A.msg", "p/msg/B.msg"]).parsed.Perm
      (Batch.ofFiles twoFiles .standard ["p/msg/B.msg", "p/msg/A.msg"]).parsed := by
  obtain ⟨-, -, hperm, hcheck⟩ := check_agrees_with_parse twoFiles
  exact ⟨rfl, by decide +kernel, hcheck none .standard _ rfl, (hperm .standard _ _ (.swap _ _ _)).1⟩

end Command

end MessageSchema
