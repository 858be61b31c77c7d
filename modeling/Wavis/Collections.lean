import Mathlib.Data.List.AList

/-! The program's maps and sets are association lists without repeated keys. Their iteration order
is the order of the list; nothing proved about the program depends on it. -/

namespace Wavis

abbrev HashMap (K V : Type) := AList fun _ : K => V

abbrev HashSet (K : Type) := HashMap K Unit

namespace HashMap

variable {K V : Type}

def retain (keep : K → V → Bool) (m : HashMap K V) : HashMap K V :=
  ⟨m.entries.filter fun entry => keep entry.1 entry.2, m.nodupKeys.sublist List.filter_sublist⟩

variable [DecidableEq K]

theorem lookup_retain (keep : K → V → Bool) (m : HashMap K V) (key : K) :
    (retain keep m).lookup key = (m.lookup key).filter (keep key) := by
  apply Option.ext
  intro value
  rw [← Option.mem_def, AList.mem_lookup_iff, ← Option.mem_def, Option.mem_filter_iff,
    AList.mem_lookup_iff]
  simp [retain]

theorem lookup_erase_insert {m : HashMap K V} {key : K} {value : V} (h : m.lookup key = none)
    (key' : K) : ((m.insert key value).erase key).lookup key' = m.lookup key' := by
  by_cases hkey : key' = key
  · rw [hkey, AList.lookup_erase, h]
  · rw [AList.lookup_erase_ne hkey, AList.lookup_insert_ne hkey]

end HashMap

namespace HashSet

variable {K : Type} [DecidableEq K]

def contains (s : HashSet K) (key : K) : Bool := (s.lookup key).isSome

end HashSet

def updateFirst {α : Type} (test : α → Bool) (change : α → α) : List α → List α
  | [] => []
  | a :: rest => if test a then change a :: rest else a :: updateFirst test change rest

end Wavis
