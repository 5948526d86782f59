/-
Batches, file by file. What a batch gives is read off the outcomes of its
files one by one, in their order (`ofFiles_eq`), so batches one after the
other give what they give together, and the order of a batch shows only in
the order of its results.
-/
import MessageSchema.File.Batch
import Mathlib.Data.List.Basic

namespace MessageSchema.Batch

variable (files : FileSource) (config : Config)

/-- What a path adds to the interfaces read. -/
def interface? (path : String) : Option Interface :=
  (Interface.ofFile files config path).toOption

/-- What a path adds to the failures. -/
def failure? (path : String) : Option (String × FileError) :=
  match Interface.ofFile files config path with
  | .ok _ => none
  | .error failure => some (path, failure.cause)

/-- Batches one after the other. -/
def append (b b' : Batch) : Batch :=
  ⟨b.parsed ++ b'.parsed, b.failures ++ b'.failures⟩

/-- **Each path gives its own outcome**, whatever the others do. -/
theorem ofFiles_eq (paths : List String) :
    ofFiles files config paths =
      ⟨paths.filterMap (interface? files config), paths.filterMap (failure? files config)⟩ := by
  induction paths with
  | nil => rfl
  | cons path paths ih =>
    rw [ofFiles, ih]
    cases h : Interface.ofFile files config path with
    | ok interface => simp [cons, interface?, failure?, h, Except.toOption]
    | error failure => simp [cons, interface?, failure?, h, Except.toOption]

theorem ofFiles_append (paths paths' : List String) :
    ofFiles files config (paths ++ paths') =
      (ofFiles files config paths).append (ofFiles files config paths') := by
  simp only [ofFiles_eq, append, List.filterMap_append]

/-- No path is lost and none counts twice. -/
theorem length_ofFiles (paths : List String) :
    (ofFiles files config paths).parsed.length + (ofFiles files config paths).failures.length =
      paths.length := by
  induction paths with
  | nil => rfl
  | cons path paths ih =>
    cases h : Interface.ofFile files config path with
    | ok interface =>
      simp only [ofFiles, cons, h, List.length_cons]
      omega
    | error failure =>
      simp only [ofFiles, cons, h, List.length_cons]
      omega

theorem ofFiles_perm {paths paths' : List String} (h : paths.Perm paths') :
    (ofFiles files config paths).parsed.Perm (ofFiles files config paths').parsed ∧
      (ofFiles files config paths).failures.Perm (ofFiles files config paths').failures := by
  simp only [ofFiles_eq]
  exact ⟨h.filterMap _, h.filterMap _⟩

end MessageSchema.Batch
