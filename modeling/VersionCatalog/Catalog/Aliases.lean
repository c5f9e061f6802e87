/-!
# Entries by alias

The entries of one section are found by their aliases. An alias is bound once, and the order of the
bindings is kept.
-/

namespace VersionCatalog

/-- Entries by alias, in the order of their bindings. -/
structure Aliases (α : Type) where
  /-- The aliases with their entries. -/
  toList : List (String × α)
  /-- No alias is bound twice. -/
  nodup : (toList.map Prod.fst).Nodup

namespace Aliases

variable {α : Type}

/-- No entries. -/
def empty : Aliases α := ⟨[], List.nodup_nil⟩

/-- The aliases in order. -/
def keys (aliases : Aliases α) : List String :=
  aliases.toList.map Prod.fst

/-- The number of entries. -/
def size (aliases : Aliases α) : Nat :=
  aliases.toList.length

/-- Whether an alias is bound. -/
def contains (aliases : Aliases α) (key : String) : Bool :=
  aliases.keys.contains key

/-- The entry that an alias is bound to. -/
def get? (aliases : Aliases α) (key : String) : Option α :=
  aliases.toList.lookup key

/-- Binds an alias that is not bound yet. -/
def bind? (aliases : Aliases α) (key : String) (entry : α) : Option (Aliases α) :=
  if fresh : key ∈ aliases.keys then none
  else
    some ⟨aliases.toList ++ [(key, entry)], by
      simp only [List.map_append, List.map_cons, List.map_nil]
      exact List.nodup_append.2 ⟨aliases.nodup, by simp, by
        intro bound member other same
        rintro rfl
        simp only [List.mem_singleton] at same
        exact fresh (same ▸ member)⟩⟩

theorem bind?_eq_none_iff {aliases : Aliases α} {key : String} {entry : α} :
    aliases.bind? key entry = none ↔ key ∈ aliases.keys := by
  unfold bind?
  split <;> simp_all

theorem toList_of_bind? {aliases bound : Aliases α} {key : String} {entry : α}
    (done : aliases.bind? key entry = some bound) :
    bound.toList = aliases.toList ++ [(key, entry)] := by
  unfold bind? at done
  split at done
  · simp at done
  · simp only [Option.some.injEq] at done
    subst done
    rfl

theorem contains_eq_true_iff {aliases : Aliases α} {key : String} :
    aliases.contains key = true ↔ key ∈ aliases.keys := by
  simp [contains]

end Aliases

end VersionCatalog
