-- SUMMARY: Parameter lists: finite maps from text to text, kept in increasing key order.

/-! # Parameters

The parameters of an action are a finite map from keys to values. The map keeps
its entries in strictly increasing key order, so two maps with the same lookups
are equal, and the entries are printed in the order in which they stand. -/

namespace AudioPolicy

/-- A finite map from text to text. -/
structure Params where
  /-- The pairs of a key and its value. -/
  entries : List (String × String) := []
  /-- The keys strictly increase. -/
  increasing : entries.Pairwise (fun a b => a.1 < b.1) := by exact List.Pairwise.nil
  deriving DecidableEq, Repr

namespace Params

/-- The map without entries. -/
def empty : Params := {}

/-! ## Insertion -/

/-- Puts `value` under `key` into increasing entries. -/
def insertEntry (key value : String) : List (String × String) → List (String × String)
  | [] => [(key, value)]
  | entry :: entries =>
    if key < entry.1 then (key, value) :: entry :: entries
    else if key = entry.1 then (key, value) :: entries
    else entry :: insertEntry key value entries

theorem mem_insertEntry {key value : String} {entries : List (String × String)}
    {entry : String × String} (h : entry ∈ insertEntry key value entries) :
    entry = (key, value) ∨ entry ∈ entries := by
  induction entries with
  | nil => exact Or.inl (by simpa [insertEntry] using h)
  | cons first entries ih =>
    unfold insertEntry at h
    split at h
    · exact (List.mem_cons.1 h).imp_right id
    · split at h
      · exact (List.mem_cons.1 h).imp_right (List.mem_cons_of_mem _)
      · rcases List.mem_cons.1 h with rfl | h
        · exact Or.inr List.mem_cons_self
        · exact (ih h).imp_right (List.mem_cons_of_mem _)

theorem insertEntry_increasing {key value : String} {entries : List (String × String)}
    (h : entries.Pairwise (fun a b => a.1 < b.1)) :
    (insertEntry key value entries).Pairwise (fun a b => a.1 < b.1) := by
  induction entries with
  | nil => simp [insertEntry]
  | cons first entries ih =>
    obtain ⟨hfirst, hrest⟩ := List.pairwise_cons.1 h
    unfold insertEntry
    split
    next hlt =>
      refine List.pairwise_cons.2 ⟨fun entry hentry => ?_, h⟩
      rcases List.mem_cons.1 hentry with rfl | hentry
      · exact hlt
      · exact String.lt_trans hlt (hfirst entry hentry)
    next hlt =>
      split
      next heq =>
        exact List.pairwise_cons.2 ⟨fun entry hentry => heq ▸ hfirst entry hentry, hrest⟩
      next hne =>
        refine List.pairwise_cons.2 ⟨fun entry hentry => ?_, ih hrest⟩
        rcases mem_insertEntry hentry with rfl | hentry
        · exact Std.lt_of_le_of_ne (Std.not_lt.1 hlt) (fun h => hne h.symm)
        · exact hfirst entry hentry

/-- The map with `value` under `key`, whatever stood there before. -/
def insert (params : Params) (key value : String) : Params where
  entries := insertEntry key value params.entries
  increasing := insertEntry_increasing params.increasing

/-- The map with the pairs of a list. Of two pairs with one key the later counts. -/
def ofList (pairs : List (String × String)) : Params :=
  pairs.foldl (fun params (key, value) => params.insert key value) empty

/-! ## Lookup -/

/-- The value under `key`. -/
def get? (params : Params) (key : String) : Option String := params.entries.lookup key

/-- Whether there is a value under `key`. -/
def has (params : Params) (key : String) : Bool := (params.get? key).isSome

/-- Whether there is a value under one of `keys`. -/
def hasAny (params : Params) (keys : List String) : Bool := keys.any params.has

/-- The map with `value` under `key`, unless there is a value already. -/
def insertIfNew (params : Params) (key value : String) : Params :=
  if params.has key then params else params.insert key value

end Params
end AudioPolicy
