/-! # Catalogs

Records kept under a key of their own, one record a key.  A record found under
a key has that key, since it is looked up by it; inserting a record replaces
the one of its key and leaves all others alone (`find?_insert`). -/
set_option autoImplicit false
namespace Semijoin

universe u

structure Catalog (α : Type u) (key : α → String) where
  entries : List α
  nodup : (entries.map key).Nodup

namespace Catalog

variable {α : Type u} {key : α → String}

def empty : Catalog α key := ⟨[], List.nodup_nil⟩

instance : EmptyCollection (Catalog α key) := ⟨empty⟩

def find? (c : Catalog α key) (name : String) : Option α := c.entries.find? (key · == name)

def erase (c : Catalog α key) (name : String) : Catalog α key where
  entries := c.entries.filter (key · != name)
  nodup := c.nodup.sublist (List.filter_sublist.map key)

def insert (c : Catalog α key) (a : α) : Catalog α key where
  entries := (c.erase (key a)).entries ++ [a]
  nodup := by
    simp only [List.map_append, List.map_cons, List.map_nil]
    refine List.nodup_append.mpr ⟨(c.erase (key a)).nodup, by simp, ?_⟩
    rintro _ hx _ hy rfl
    simp only [erase, List.mem_map, List.mem_filter, List.mem_singleton] at hx hy
    obtain ⟨b, ⟨-, hb⟩, rfl⟩ := hx
    simp [hy] at hb

def ofList (records : List α) : Catalog α key := records.foldl insert ∅

theorem key_of_find? {c : Catalog α key} {name : String} {a : α} (h : c.find? name = some a) :
    key a = name := by
  simpa using List.find?_some h

theorem find?_empty (name : String) : (∅ : Catalog α key).find? name = none := rfl

theorem find?_erase (c : Catalog α key) (erased name : String) :
    (c.erase erased).find? name = if name = erased then none else c.find? name := by
  simp only [find?, erase, List.find?_filter]
  split
  · next h => subst h; simp
  · next h =>
    congr 1; funext a
    by_cases ha : key a = name <;> simp [ha, h]

theorem find?_insert (c : Catalog α key) (a : α) (name : String) :
    (c.insert a).find? name = if name = key a then some a else c.find? name := by
  have h := find?_erase c (key a) name
  simp only [find?] at h
  simp only [find?, insert, List.find?_append, h]
  split
  · next e => simp [e]
  · next e => simp [Ne.symm e]

theorem find?_foldl_insert (name : String) : ∀ (records : List α) (c : Catalog α key),
    (records.foldl insert c).find? name =
      (records.reverse.find? (key · == name)).or (c.find? name) := by
  intro records
  induction records with
  | nil => intro c; rfl
  | cons a rest ih =>
      intro c
      rw [List.foldl_cons, ih, List.reverse_cons, List.find?_append, Option.or_assoc, find?_insert]
      by_cases h : name = key a
      · simp [h]
      · simp [h, Ne.symm h]

/-- Of the records of a list that share a key the last one is found. -/
theorem find?_ofList (records : List α) (name : String) :
    (ofList records : Catalog α key).find? name = records.reverse.find? (key · == name) := by
  rw [ofList, find?_foldl_insert, find?_empty, Option.or_none]

end Catalog
end Semijoin
