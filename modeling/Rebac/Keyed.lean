/-! # Keyed lists

A list of pairs as a map in order of insertion: a key keeps the place where it was first put and
has the value that was last put. -/

namespace Rebac.Keyed

variable {κ α β : Type} [DecidableEq κ]

/-- The value of `k`. -/
def find? : List (κ × α) → κ → Option α
  | [], _ => none
  | (k', v) :: rest, k => if k' = k then some v else find? rest k

/-- Sets the value of `k`, in place when it has one, else at the end. -/
def put : List (κ × α) → κ → α → List (κ × α)
  | [], k, v => [(k, v)]
  | (k', v') :: rest, k, v => if k' = k then (k', v) :: rest else (k', v') :: put rest k v

/-- Puts each pair of `new` in turn. -/
def putAll (entries new : List (κ × α)) : List (κ × α) :=
  new.foldl (fun acc (k, v) => put acc k v) entries

/-- The pairs with repeated keys put together. -/
def ofList (pairs : List (κ × α)) : List (κ × α) := putAll [] pairs

/-- The keys, in order. -/
def keys (entries : List (κ × α)) : List κ := entries.map Prod.fst

theorem keys_put (entries : List (κ × α)) (k : κ) (v : α) :
    keys (put entries k v) = if k ∈ keys entries then keys entries else keys entries ++ [k] := by
  induction entries with
  | nil => simp [put, keys]
  | cons head rest ih =>
    obtain ⟨k', v'⟩ := head
    simp only [keys] at ih
    by_cases h : k' = k
    · simp [put, keys, h]
    · have h' : ¬ k = k' := fun e => h e.symm
      by_cases hm : k ∈ rest.map Prod.fst
      · simp [put, keys, h, h', hm, ih]
      · simp [put, keys, h, h', hm, ih]

theorem nodup_keys_put {entries : List (κ × α)} (h : (keys entries).Nodup) (k : κ) (v : α) :
    (keys (put entries k v)).Nodup := by
  rw [keys_put]
  split
  · exact h
  · next hk => exact List.nodup_append.2 ⟨h, by simp, by
      intro a ha b hb e
      simp only [List.mem_singleton] at hb
      exact hk (hb ▸ e ▸ ha)⟩

theorem nodup_keys_putAll {entries : List (κ × α)} (h : (keys entries).Nodup)
    (new : List (κ × α)) : (keys (putAll entries new)).Nodup := by
  induction new generalizing entries with
  | nil => exact h
  | cons head rest ih => exact ih (nodup_keys_put h head.1 head.2)

theorem nodup_keys_ofList (pairs : List (κ × α)) : (keys (ofList pairs)).Nodup :=
  nodup_keys_putAll (by simp [keys]) pairs

end Rebac.Keyed
