/-!
Association lists that keep the order in which their keys first came: a new value for a known key
takes the place of the old one. The operations below keep the keys distinct.
-/
namespace Wallboard.Keyed

variable {α β γ : Type} [DecidableEq α]

def find? (key : α) : List (α × β) → Option β
  | [] => none
  | entry :: rest => if entry.1 = key then some entry.2 else find? key rest

def contains (key : α) (entries : List (α × β)) : Bool := (find? key entries).isSome

def keys (entries : List (α × β)) : List α := entries.map (·.1)

def put (key : α) (value : β) : List (α × β) → List (α × β)
  | [] => [(key, value)]
  | entry :: rest => if entry.1 = key then (key, value) :: rest else entry :: put key value rest

def erase (key : α) (entries : List (α × β)) : List (α × β) :=
  entries.filter fun entry => decide (entry.1 ≠ key)

def putAll (entries additions : List (α × β)) : List (α × β) :=
  additions.foldl (fun known entry => put entry.1 entry.2 known) entries

def Distinct (entries : List (α × β)) : Prop := (keys entries).Nodup

theorem find?_eq_none_iff {key : α} {entries : List (α × β)} :
    find? key entries = none ↔ key ∉ keys entries := by
  induction entries with
  | nil => simp [find?, keys]
  | cons entry rest ih =>
      by_cases same : entry.1 = key
      · simp [find?, keys, same]
      · simp only [find?, same, if_false, ih, keys, List.map_cons, List.mem_cons, not_or]
        exact ⟨fun absent => ⟨fun equal => same equal.symm, absent⟩, fun absent => absent.2⟩

theorem find?_put_self (key : α) (value : β) (entries : List (α × β)) :
    find? key (put key value entries) = some value := by
  induction entries with
  | nil => simp [put, find?]
  | cons entry rest ih =>
      by_cases same : entry.1 = key
      · simp [put, same, find?]
      · simp [put, same, find?, ih]

theorem find?_put_of_ne {key other : α} (differ : other ≠ key) (value : β)
    (entries : List (α × β)) : find? other (put key value entries) = find? other entries := by
  induction entries with
  | nil => simp [put, find?, Ne.symm differ]
  | cons entry rest ih =>
      by_cases same : entry.1 = key
      · simp [put, same, find?, Ne.symm differ]
      · simp [put, same, find?, ih]

theorem keys_put (key : α) (value : β) (entries : List (α × β)) :
    keys (put key value entries) =
      if key ∈ keys entries then keys entries else keys entries ++ [key] := by
  induction entries with
  | nil => simp [put, keys]
  | cons entry rest ih =>
      by_cases same : entry.1 = key
      · simp [put, keys, same]
      · simp only [keys] at ih
        simp only [put, same, if_false, keys, List.map_cons, ih, List.mem_cons]
        by_cases present : key ∈ rest.map (·.1)
        · simp [present]
        · simp [present, Ne.symm same]

end Wallboard.Keyed
