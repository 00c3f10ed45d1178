import ContentEngine.Proofs.Memory.Reads
import ContentEngine.Proofs.Number.Identifier
import ContentEngine.Proofs.World.Linked

/-!
# Entries by their names

An entry of a type is named by its identifier or by its slug. A name in the letters of slugs that
reads as an identifier finds the entry with that identifier and no other one, even if it is the slug
of another entry (`Memory.entryNamed?_identifier`); any other slug finds the entry that has it
(`Memory.entryNamed?_slug`). The identifiers that the world issues read as such, so each entry is
found by its own (`Memory.entryNamed?_id`).
-/

namespace ContentEngine

namespace Memory

variable {w : World} {typeId name : String} {e : Entry}

/-- A name in the letters of slugs that reads as an identifier finds what has that identifier. -/
theorem entryNamed?_identifier (hw : w.entries.Sound) (hname : IsSlugText name)
    (hreads : (Identifier.ofText? name).isSome = true) :
    entryNamed? w typeId (.str name) = w.entries.find? typeId name := by
  have hid : (Value.str name).identifierText? = some name := by
    rw [Value.identifierText?, hname.trim_eq, if_pos hreads]
  rw [entryNamed?, hid]
  simp only [hname.lowerText_eq]
  cases hfind : (w.entries.ofType typeId).find? fun e => e.id == name with
  | none =>
    refine (Option.eq_none_iff_forall_not_mem.mpr fun e he => ?_).symm
    have hget := EntryStore.find?_eq_some_iff.mp he
    obtain rfl := hw.id_eq hget.1
    have hother := List.find?_eq_none.mp hfind e ((EntryStore.mem_ofType_iff hw).mpr hget)
    simp at hother
  | some e =>
    obtain rfl : e.id = name := by simpa using List.find?_some hfind
    exact (EntryStore.find?_eq_some_iff.mpr
      ((EntryStore.mem_ofType_iff hw).mp (List.mem_of_find?_eq_some hfind))).symm

/-- A slug that does not read as an identifier finds the entry that has it. -/
theorem entryNamed?_slug (hw : w.entries.Sound) (he : w.entries.find? typeId e.id = some e)
    (hslug : IsSlugText e.values.slug)
    (hreads : (Identifier.ofText? e.values.slug).isSome = false) :
    entryNamed? w typeId (.str e.values.slug) = some e := by
  have hget := EntryStore.find?_eq_some_iff.mp he
  have hnone : (Value.str e.values.slug).identifierText? = none := by
    rw [Value.identifierText?, hslug.trim_eq, if_neg (by simp [hreads])]
  rw [entryNamed?, hnone]
  simp only [Value.isText]
  cases hfind : (w.entries.ofType typeId).find? fun a => e.values.slug == a.values.slug with
  | none =>
    have hother := List.find?_eq_none.mp hfind e ((EntryStore.mem_ofType_iff hw).mpr hget)
    simp at hother
  | some a =>
    -- no other entry of the type has the slug
    have hsame : e.values.slug = a.values.slug := by simpa using List.find?_some hfind
    have ha := (EntryStore.mem_ofType_iff hw).mp (List.mem_of_find?_eq_some hfind)
    have hid : a.id = e.id := hw.slug_unique ha.1 hget.1 (ha.2.trans hget.2.symm) hsame.symm
    rw [hid] at ha
    exact ha.1.symm.trans hget.1

/-- Every entry is found by its identifier, as long as the identifiers that are issued have the form
of one. -/
theorem entryNamed?_id (hw : w.EntriesSound) (hissued : w.origin.issued < 16 ^ 12)
    (he : w.entries.find? typeId e.id = some e) :
    IsSlugText e.id ∧ (Identifier.ofText? e.id).isSome = true ∧
      entryNamed? w typeId (.str e.id) = some e := by
  have hhas : w.entries.entries.has e.id = true := by
    rw [Table.has, (EntryStore.find?_eq_some_iff.mp he).1, Option.isSome_some]
  obtain ⟨n, hn, hid⟩ := hw.issued hhas
  have hname : IsSlugText e.id := hid ▸ Origin.isSlugText_identifier n
  have hreads : (Identifier.ofText? e.id).isSome = true :=
    hid ▸ Origin.isSome_ofText?_identifier (by omega)
  exact ⟨hname, hreads, by rw [entryNamed?_identifier hw.sound hname hreads, he]⟩

end Memory

end ContentEngine
