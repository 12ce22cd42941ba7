/-!
Entries under text keys, in the order in which the keys were first set. A key that is set again keeps its place, so
keys that are distinct stay distinct under every operation; an `OrderedMap` is a list of entries with distinct keys.
-/
namespace DeviceTwin

/-- A list of entries, each under a key. -/
abbrev Assoc (α : Type) : Type := List (String × α)

namespace Assoc
variable {α : Type}

def find? (key : String) : Assoc α → Option α
  | [] => none
  | (k, v) :: rest => if k = key then some v else find? key rest

/-- Sets a key: in its place if it is there, at the end otherwise. -/
def insert (key : String) (value : α) : Assoc α → Assoc α
  | [] => [(key, value)]
  | (k, v) :: rest => if k = key then (k, value) :: rest else (k, v) :: insert key value rest

/-- Removes a key, the others keep their order. -/
def erase (key : String) : Assoc α → Assoc α
  | [] => []
  | (k, v) :: rest => if k = key then rest else (k, v) :: erase key rest

def keys (entries : Assoc α) : List String :=
  entries.map (·.1)

def contains (key : String) (entries : Assoc α) : Bool :=
  (find? key entries).isSome

/-- Sets all keys of `more`, one after the other. -/
def extend (entries more : Assoc α) : Assoc α :=
  more.foldl (fun acc e => insert e.1 e.2 acc) entries

/-- Setting a key leaves the keys alone when it is there and puts it at the end when it is not. -/
theorem keys_insert (k : String) (v : α) (l : Assoc α) :
    keys (insert k v l) = if k ∈ keys l then keys l else keys l ++ [k] := by
  induction l with
  | nil => simp [insert, keys]
  | cons e rest ih =>
    obtain ⟨k', v'⟩ := e
    by_cases h : k' = k
    · simp [insert, keys, h]
    · have h' : k ≠ k' := fun e => h e.symm
      simp only [keys] at ih
      by_cases hm : k ∈ rest.map (·.1)
      · simp [insert, keys, h, ih, hm]
      · simp [insert, keys, h, h', ih, hm]

theorem nodup_keys_insert (k : String) (v : α) {l : Assoc α} (h : (keys l).Nodup) :
    (keys (insert k v l)).Nodup := by
  rw [keys_insert]
  split
  · exact h
  · next hk => exact List.nodup_append.2 ⟨h, by simp, fun a ha b hb e => hk (by simp_all)⟩

theorem keys_erase (k : String) (l : Assoc α) : keys (erase k l) = (keys l).erase k := by
  induction l with
  | nil => rfl
  | cons e rest ih =>
    obtain ⟨k', v'⟩ := e
    by_cases h : k' = k
    · simp [erase, keys, h]
    · simp only [keys] at ih
      simp [erase, keys, h, ih]

theorem nodup_keys_erase (k : String) {l : Assoc α} (h : (keys l).Nodup) : (keys (erase k l)).Nodup := by
  rw [keys_erase]
  exact h.erase k

end Assoc

/-- Entries with distinct keys. -/
structure OrderedMap (α : Type) where
  entries : Assoc α
  distinct : entries.keys.Nodup

namespace OrderedMap
variable {α : Type}

def empty : OrderedMap α := ⟨[], List.nodup_nil⟩

def insert (key : String) (value : α) (m : OrderedMap α) : OrderedMap α :=
  ⟨m.entries.insert key value, Assoc.nodup_keys_insert key value m.distinct⟩

def erase (key : String) (m : OrderedMap α) : OrderedMap α :=
  ⟨m.entries.erase key, Assoc.nodup_keys_erase key m.distinct⟩

def get? (key : String) (m : OrderedMap α) : Option α := m.entries.find? key

def contains (key : String) (m : OrderedMap α) : Bool := m.entries.contains key

def size (m : OrderedMap α) : Nat := m.entries.length

/-- The entries one after the other, of which a later one replaces an earlier one of the same key. -/
def ofEntries (entries : Assoc α) : OrderedMap α :=
  entries.foldl (fun m e => m.insert e.1 e.2) empty

end OrderedMap
end DeviceTwin
