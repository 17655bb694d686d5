import Mathlib.Data.String.Basic
import AbiBindings.Store

/-!
# Files of a store

Laws of putting and removing files under paths. A path holds what was put there last, all other
paths keep what they hold, and since the list of files follows the order of the paths, putting files
under two different paths gives the same store in either order.
-/

set_option autoImplicit false

namespace AbiBindings

/-- Without the entries under one name, what is under another name stays. -/
theorem lookup_filter_ne {α : Type} {name other : String} (h : other ≠ name)
    (entries : List (String × α)) :
    (entries.filter fun (n, _) => n ≠ name).lookup other = entries.lookup other := by
  induction entries with
  | nil => rfl
  | cons entry rest ih =>
    obtain ⟨n, a⟩ := entry
    by_cases hn : n = name
    · subst hn
      have hbeq : (other == n) = false := beq_false_of_ne h
      rw [List.lookup_cons, hbeq]
      simpa using ih
    · simp only [List.filter_cons, hn, ne_eq, not_false_eq_true, decide_true, if_true,
        List.lookup_cons]
      cases other == n with
      | true => rfl
      | false => exact ih

namespace FileList

variable {path other : String} {data before : List UInt8} {files : FileList}

/-! ## Where a file is put -/

/-- A file takes the place of the first one if it has the same path. -/
theorem put_cons_self : put path data ((path, before) :: files) = (path, data) :: files := by
  simp [put]

/-- A file whose path comes first is put in front. -/
theorem put_cons_of_lt (h : path < other) :
    put path data ((other, before) :: files) = (path, data) :: (other, before) :: files := by
  have hne : path ≠ other := by
    rintro rfl
    exact String.lt_irrefl path h
  simp [put, hne, h]

/-- A file whose path comes later is put behind the first one. -/
theorem put_cons_of_gt (h : other < path) :
    put path data ((other, before) :: files) = (other, before) :: put path data files := by
  have hne : path ≠ other := by
    rintro rfl
    exact String.lt_irrefl path h
  simp [put, hne, String.lt_asymm h]

/-- What was under a path before does not matter once a file is put there. -/
theorem put_put : put path data (put path before files) = put path data files := by
  induction files with
  | nil => exact put_cons_self
  | cons file rest ih =>
    obtain ⟨p, d⟩ := file
    rcases lt_trichotomy path p with hlt | rfl | hgt
    · rw [put_cons_of_lt hlt, put_cons_of_lt hlt, put_cons_self]
    · rw [put_cons_self, put_cons_self, put_cons_self]
    · rw [put_cons_of_gt hgt, put_cons_of_gt hgt, put_cons_of_gt hgt, ih]

/-- Two files may be put in either order, for the one whose path comes first. -/
theorem put_comm_of_lt (h : path < other) (d e : List UInt8) :
    put path d (put other e files) = put other e (put path d files) := by
  -- the greater path goes on to the end behind the smaller one, wherever that is put
  induction files with
  | nil =>
    show put path d [(other, e)] = put other e [(path, d)]
    rw [put_cons_of_lt h, put_cons_of_gt h]
    rfl
  | cons file rest ih =>
    obtain ⟨p, v⟩ := file
    rcases lt_trichotomy other p with hlt | rfl | hgt
    · have hpath := String.lt_trans h hlt
      rw [put_cons_of_lt hlt, put_cons_of_lt h, put_cons_of_lt hpath, put_cons_of_gt h,
        put_cons_of_lt hlt]
    · rw [put_cons_self, put_cons_of_lt h, put_cons_of_lt h, put_cons_of_gt h, put_cons_self]
    · rw [put_cons_of_gt hgt]
      rcases lt_trichotomy path p with hlt' | rfl | hgt'
      · rw [put_cons_of_lt hlt', put_cons_of_lt hlt', put_cons_of_gt h, put_cons_of_gt hgt]
      · rw [put_cons_self, put_cons_self, put_cons_of_gt h]
      · rw [put_cons_of_gt hgt', put_cons_of_gt hgt', put_cons_of_gt hgt, ih]

/-- Files under different paths may be put in either order. -/
theorem put_comm (h : path ≠ other) (d e : List UInt8) :
    put path d (put other e files) = put other e (put path d files) := by
  rcases lt_or_gt_of_ne h with hlt | hgt
  · exact put_comm_of_lt hlt d e
  · exact (put_comm_of_lt hgt e d).symm

/-! ## What is under a path -/

/-- Under a path stands what was put there. -/
theorem lookup_put : (put path data files).lookup path = some data := by
  induction files with
  | nil => simp [put]
  | cons file rest ih =>
    obtain ⟨p, d⟩ := file
    rcases lt_trichotomy path p with hlt | rfl | hgt
    · simp [put_cons_of_lt hlt]
    · simp [put_cons_self]
    · have hne : path ≠ p := ne_of_gt hgt
      rw [put_cons_of_gt hgt, List.lookup_cons, beq_false_of_ne hne]
      exact ih

/-- Putting a file leaves the other paths alone. -/
theorem lookup_put_of_ne (h : other ≠ path) :
    (put path data files).lookup other = files.lookup other := by
  have hbeq : (other == path) = false := beq_false_of_ne h
  induction files with
  | nil => simp [put, List.lookup_cons, hbeq]
  | cons file rest ih =>
    obtain ⟨p, d⟩ := file
    rcases lt_trichotomy path p with hlt | rfl | hgt
    · rw [put_cons_of_lt hlt, List.lookup_cons, hbeq]
    · rw [put_cons_self, List.lookup_cons, List.lookup_cons, hbeq]
    · rw [put_cons_of_gt hgt, List.lookup_cons, List.lookup_cons, ih]

/-- Nothing is left under a path that was removed. -/
theorem lookup_remove : (remove path files).lookup path = none := by
  rw [List.lookup_eq_none_iff]
  intro file hfile
  have hne : file.1 ≠ path := of_decide_eq_true (List.mem_filter.1 hfile).2
  exact bne_iff_ne.2 hne.symm

/-- Removing a file leaves the other paths alone. -/
theorem lookup_remove_of_ne (h : other ≠ path) :
    (remove path files).lookup other = files.lookup other :=
  lookup_filter_ne h files

end FileList

namespace Store

variable {store : Store} {path other : String} {data : List UInt8}

/-- A store holds what was put under a path. -/
@[simp]
theorem get?_put : (store.put path data).get? path = some data :=
  FileList.lookup_put

/-- Other paths hold what they held before. -/
@[simp]
theorem get?_put_of_ne (h : other ≠ path) : (store.put path data).get? other = store.get? other :=
  FileList.lookup_put_of_ne h

/-- A store holds nothing under a path that was removed. -/
@[simp]
theorem get?_remove : (store.remove path).get? path = none :=
  FileList.lookup_remove

/-- Other paths hold what they held before. -/
@[simp]
theorem get?_remove_of_ne (h : other ≠ path) : (store.remove path).get? other = store.get? other :=
  FileList.lookup_remove_of_ne h

/-- A store that refuses to write holds what it held before. -/
@[simp]
theorem get?_failWrites (failure : Option String) :
    (store.failWrites failure).get? path = store.get? path :=
  rfl

/-- Putting a file twice is putting it once. -/
theorem put_put (before : List UInt8) :
    (store.put path before).put path data = store.put path data :=
  congrArg (fun files => (⟨files, store.writeFailure⟩ : Store)) FileList.put_put

/-- Files under different paths may be put in either order. -/
theorem put_comm (h : path ≠ other) (d e : List UInt8) :
    (store.put other e).put path d = (store.put path d).put other e :=
  congrArg (fun files => (⟨files, store.writeFailure⟩ : Store)) (FileList.put_comm h d e)

/-- Reading depends on what is under the path alone. -/
theorem read_congr {first second : Store} (h : first.get? path = second.get? path) :
    first.read path = second.read path := by
  rw [read, read, h]

end Store

end AbiBindings
