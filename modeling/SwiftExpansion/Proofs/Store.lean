import SwiftExpansion.Command.Store

/-!
# What writing a file does

Writing succeeds where a path leads to a file or to a free name, and nowhere else. What was written
is then read back by the same path, since every directory on the way is still there; the file at any
other place is what it was.
-/
namespace SwiftExpansion

/-- Whether a file can be written where a path leads: there is one, or the name is free. -/
def PathStatus.isWritable : PathStatus → Bool
  | .file _ | .free => true
  | _ => false

namespace Store

section

variable (files : List (Place × List UInt8)) (place : Place) (octets : List UInt8)

theorem lookup_cons_eq (key : Place) :
    List.lookup place ((key, octets) :: files) =
      if place = key then some octets else files.lookup place := by
  rw [List.lookup_cons]
  by_cases h : place = key
  · rw [if_pos h, beq_iff_eq.mpr h]
  · rw [if_neg h, beq_false_of_ne h]

theorem lookup_replace (other : Place) :
    (files.map fun f => if f.1 == place then (place, octets) else f).lookup other =
      if other = place then (files.lookup place).map fun _ => octets else files.lookup other := by
  induction files with
  | nil => simp
  | cons f files ih =>
    obtain ⟨key, old⟩ := f
    by_cases hkey : key = place
    · simp only [List.map_cons, hkey, BEq.rfl, if_true, lookup_cons_eq, ih]
      split <;> rfl
    · simp only [List.map_cons, beq_false_of_ne hkey, Bool.false_eq_true, if_false, lookup_cons_eq,
        ih, Ne.symm hkey]
      by_cases hother : other = place
      · simp [hother, Ne.symm hkey]
      · simp [hother]

theorem any_eq_isSome_lookup : (files.any (·.1 == place)) = (files.lookup place).isSome := by
  induction files with
  | nil => rfl
  | cons f files ih =>
    rw [List.any_cons, ih, List.lookup_cons, BEq.comm]
    cases place == f.1 <;> rfl

end

/-- Putting octets at a place changes the file there and no other. -/
theorem lookup_put (s : Store) (place : Place) (octets : List UInt8) (other : Place) :
    (s.put place octets).files.lookup other =
      if other = place then some octets else s.files.lookup other := by
  unfold put
  rw [any_eq_isSome_lookup]
  cases hplace : s.files.lookup place with
  | some old =>
    rw [Option.isSome_some, if_pos rfl, lookup_replace, hplace, Option.map_some]
  | none =>
    rw [Option.isSome_none, if_neg Bool.false_ne_true, List.lookup_append, lookup_cons_eq]
    by_cases hother : other = place
    · simp [hother, hplace]
    · simp [hother]

variable {s : Store} {place other : Place} {octets : List UInt8}

theorem directories_put (s : Store) (place : Place) (octets : List UInt8) :
    (s.put place octets).directories = s.directories := by
  unfold put
  split <;> rfl

theorem exists_mem_put {f : Place × List UInt8} (h : f ∈ s.files) :
    ∃ g ∈ (s.put place octets).files, g.1 = f.1 := by
  unfold put
  split
  · refine ⟨_, List.mem_map.mpr ⟨f, h, rfl⟩, ?_⟩
    split <;> simp_all
  · exact ⟨f, List.mem_append_left _ h, rfl⟩

theorem isDirectory_put (h : s.isDirectory other = true) :
    (s.put place octets).isDirectory other = true := by
  simp only [isDirectory, directories_put, Bool.or_eq_true, List.any_eq_true] at h ⊢
  refine h.imp_right ?_
  rintro ⟨f, hf, hbelow⟩
  obtain ⟨g, hg, hplace⟩ := exists_mem_put hf
  exact ⟨g, hg, by rwa [hplace]⟩

section

variable {start : Place} {name : String} {rest : List String}
  (hempty : ¬(name.isEmpty || name == ".") = true) (hparent : ¬(name == "..") = true)
  (hlong : ¬Path.maxName < name.utf8ByteSize)

include hempty hparent hlong

theorem follow_of_file (h : s.files.lookup (start ++ [name]) = some octets) :
    s.follow start (name :: rest) =
      (start ++ [name], if rest.isEmpty then .file octets else .notDirectory) := by
  rw [follow, if_neg hempty, if_neg hparent, if_neg hlong]
  simp only [h]

theorem follow_of_directory (h : s.files.lookup (start ++ [name]) = none)
    (hdirectory : s.isDirectory (start ++ [name]) = true) :
    s.follow start (name :: rest) = s.follow (start ++ [name]) rest := by
  rw [follow, if_neg hempty, if_neg hparent, if_neg hlong]
  simp only [h, hdirectory, if_true]

end

/-- A path that can be written to does not lead to a directory. -/
theorem follow_isWritable {start : Place} {names : List String} {status : PathStatus}
    (h : s.follow start names = (place, status)) (hstatus : status.isWritable = true)
    (hfree : s.files.lookup place = none) : s.isDirectory place = false := by
  fun_induction follow s start names with
  | case1 start =>
    cases h
    cases hstatus
  | case2 start name rest _ ih => exact ih h
  | case3 start name rest _ _ ih => exact ih h
  | case4 start name rest =>
    cases h
    cases hstatus
  | case5 start name rest _ _ _ next old hnext =>
    obtain ⟨rfl, -⟩ := Prod.mk.inj h
    rw [hnext] at hfree
    cases hfree
  | case6 start name rest _ _ _ next _ _ ih => exact ih h
  | case7 start name rest _ _ _ next _ hdirectory =>
    obtain ⟨rfl, -⟩ := Prod.mk.inj h
    simpa using hdirectory

/-- A path that can be written to leads to what is put at its place. -/
theorem follow_put {start : Place} {names : List String} {status : PathStatus}
    (h : s.follow start names = (place, status)) (hstatus : status.isWritable = true) :
    (s.put place octets).follow start names = (place, .file octets) := by
  have hplace := follow_isWritable h hstatus
  have hput : (s.put place octets).files.lookup place = some octets := by
    rw [lookup_put, if_pos rfl]
  fun_induction follow s start names with
  | case1 start =>
    cases h
    cases hstatus
  | case2 start name rest hempty ih =>
    rw [follow, if_pos hempty]
    exact ih h
  | case3 start name rest hempty hparent ih =>
    rw [follow, if_neg hempty, if_pos hparent]
    exact ih h
  | case4 start name rest =>
    cases h
    cases hstatus
  | case5 start name rest hempty hparent hlong next old hnext =>
    obtain ⟨rfl, rfl⟩ := Prod.mk.inj h
    cases rest with
    | nil => exact follow_of_file hempty hparent hlong hput
    | cons _ _ => cases hstatus
  | case6 start name rest hempty hparent hlong next hnext hdirectory ih =>
    -- a directory on the way is not the place itself, so it is still there
    have hne : next ≠ place := by
      rintro rfl
      rw [hplace hnext] at hdirectory
      cases hdirectory
    have hnextPut : (s.put place octets).files.lookup next = none := by
      rw [lookup_put, if_neg hne, hnext]
    rw [follow_of_directory hempty hparent hlong hnextPut (isDirectory_put hdirectory)]
    exact ih h
  | case7 start name rest hempty hparent hlong next hnext hdirectory =>
    obtain ⟨rfl, rfl⟩ := Prod.mk.inj h
    cases rest with
    | nil => exact follow_of_file hempty hparent hlong hput
    | cons _ _ => cases hstatus

theorem resolve_put {path : String} {status : PathStatus}
    (h : s.resolve path = (place, status)) (hstatus : status.isWritable = true) :
    (s.put place octets).resolve path = (place, .file octets) := by
  unfold resolve at h ⊢
  split
  · rename_i hempty
    rw [if_pos hempty] at h
    cases h
    cases hstatus
  · rename_i hnonempty
    rw [if_neg hnonempty] at h
    split
    · rename_i hlong
      rw [if_pos hlong] at h
      cases h
      cases hstatus
    · rename_i hshort
      rw [if_neg hshort] at h
      exact follow_put h hstatus

/-- The store after octets were written to a path: they are read back, every other file is what it
was, and the directories are those that were listed. -/
structure IsUpdate (s s' : Store) (path : String) (octets : List UInt8) : Prop where
  read : s'.read path = .ok octets
  others : ∀ place, place ≠ (s.resolve path).1 → s'.files.lookup place = s.files.lookup place
  directories : s'.directories = s.directories

theorem write_isUpdate {path : String} (h : (s.status path).isWritable = true)
    (octets : List UInt8) : ∃ s', s.write path octets = .ok s' ∧ s.IsUpdate s' path octets := by
  obtain ⟨⟨place, status⟩, hresolve⟩ : ∃ found, s.resolve path = found := ⟨_, rfl⟩
  have hstatus : status.isWritable = true := by
    simpa [Store.status, hresolve] using h
  refine ⟨s.put place octets, ?_, ?_, ?_, ?_⟩
  · rw [write, hresolve]
    cases status with
    | file _ => rfl
    | free => rfl
    | _ => cases hstatus
  · rw [read, Store.status, resolve_put hresolve hstatus]
  · intro other hother
    rw [hresolve] at hother
    rw [lookup_put, if_neg hother]
  · exact directories_put s place octets

theorem write_of_not_isWritable {path : String} (h : (s.status path).isWritable = false)
    (octets : List UInt8) : ∃ f, s.write path octets = .error f := by
  obtain ⟨⟨place, status⟩, hresolve⟩ : ∃ found, s.resolve path = found := ⟨_, rfl⟩
  have hstatus : status.isWritable = false := by
    simpa [Store.status, hresolve] using h
  rw [write, hresolve]
  cases status with
  | file _ => cases hstatus
  | free => cases hstatus
  | _ => exact ⟨_, rfl⟩

end Store

end SwiftExpansion
