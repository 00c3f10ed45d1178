import Mathlib.Tactic.Choose
import ContentEngine.Json.Stored
import ContentEngine.Proofs.Json.Document
import ContentEngine.Proofs.Json.Same

/-!
# What a document is written as

An exact document is written in each style whose separators the reader skips, and the text denotes
the document in the order of keys in which the style has written it
(`Value.IsExact.exists_written`). A style that sorts the keys writes the same text for documents that differ in their order alone
(`Value.SameDocument.writeJson_eq`).
-/

namespace ContentEngine

/-! ### Styles -/

/-- Whether the separators of a style are a comma and a colon with blanks after them. -/
structure JsonStyle.IsReadable (style : JsonStyle) : Prop where
  item : IsSeparator ',' style.itemSeparator
  key : IsSeparator ':' style.keySeparator

theorem JsonStyle.isReadable_canonical : JsonStyle.canonical.IsReadable where
  item := ⟨[], rfl, by simp⟩
  key := ⟨[], rfl, by simp⟩

theorem JsonStyle.isReadable_stored : JsonStyle.stored.IsReadable where
  item := ⟨[' '], rfl, by simp [isJsonBlank]⟩
  key := ⟨[' '], rfl, by simp [isJsonBlank]⟩

/-- A property that passes from a document to its parts, and under which a style writes a document:
the keys of each object are distinct, and there is nothing in it that JSON cannot hold. -/
structure JsonStyle.Writes (style : JsonStyle) (q : Value → Prop) : Prop where
  item {items : List Value} : q (.list items) → ∀ v ∈ items, q v
  nodup {members : Obj} : q (.obj members) → members.keys.Nodup
  member {members : Obj} : q (.obj members) → ∀ m ∈ members, q m.2
  written {v : Value} : q v → ∃ text, v.writeJson style = .ok text

/-! ### Scalars -/

theorem readValue_eq_readScalar {c : Char} (h : c ≠ '"' ∧ c ≠ '[' ∧ c ≠ '\x7b') (fuel : Nat)
    (rest : List Char) : readValue maxIntegerDigits (fuel + 1) (c :: rest) =
      readScalar maxIntegerDigits (c :: rest) := by
  rw [readValue]
  · exact fun _ heq => h.1 (List.cons.inj heq).1
  · exact fun _ heq => h.2.1 (List.cons.inj heq).1
  · exact fun _ heq => h.2.2 (List.cons.inj heq).1

/-- A text that starts like a scalar denotes what is read from it as one. -/
theorem denotes_scalar {c : Char} {text : List Char} {v : Value}
    (h : c ≠ '"' ∧ c ≠ '[' ∧ c ≠ '\x7b' ∧ c ≠ ']' ∧ isJsonBlank c = false)
    (hread : ∀ rest, EndsNumber rest →
      readScalar maxIntegerDigits (c :: text ++ rest) = some (v, rest)) :
    Denotes (c :: text) v where
  starts := ⟨c, text, rfl, h.2.2.2.2, h.2.2.2.1⟩
  read fuel rest hfuel hrest := by
    obtain ⟨fuel, rfl⟩ := Nat.exists_eq_succ_of_ne_zero (Nat.ne_zero_of_lt hfuel)
    rw [List.cons_append, readValue_eq_readScalar ⟨h.1, h.2.1, h.2.2.1⟩]
    exact hread rest hrest

theorem denotes_null : Denotes "null".toList .null := by
  have hchars : "null".toList = ['n', 'u', 'l', 'l'] := by simp
  rw [hchars]
  exact denotes_scalar (by decide) fun rest _ => by simp [readScalar, namedValues, dropPrefix?]

theorem denotes_bool (b : Bool) :
    Denotes (if b then "true".toList else "false".toList) (.bool b) := by
  have htrue : "true".toList = ['t', 'r', 'u', 'e'] := by simp
  have hfalse : "false".toList = ['f', 'a', 'l', 's', 'e'] := by simp
  rw [htrue, hfalse]
  cases b <;>
    exact denotes_scalar (by decide) fun rest _ => by simp [readScalar, namedValues, dropPrefix?]

theorem denotes_int {n : Int} (hshort : (Value.int n).IsShort) :
    Denotes (integerChars n) (.int n) := by
  have hread (rest : List Char) (hrest : EndsNumber rest) := readScalar_integer hshort hrest
  obtain ⟨c, digits, htext⟩ := List.exists_cons_of_ne_nil (digitText_ne_nil n.natAbs)
  have hdigit : isAsciiDigit c = true :=
    isAsciiDigit_of_mem_digitText (htext ▸ List.mem_cons_self)
  rw [integerChars, htext] at hread ⊢
  split
  · next hneg =>
    rw [if_pos hneg] at hread
    exact denotes_scalar (by decide) hread
  · next hpos =>
    rw [if_neg hpos] at hread
    have hne {d : Char} (hd : isAsciiDigit d = false) : c ≠ d := by
      rintro rfl
      simp [hd] at hdigit
    refine denotes_scalar ⟨hne rfl, hne rfl, hne rfl, hne rfl, ?_⟩ hread
    have hblank : c ≠ ' ' ∧ c ≠ '\t' ∧ c ≠ '\n' ∧ c ≠ '\r' :=
      ⟨hne rfl, hne rfl, hne rfl, hne rfl⟩
    simp [isJsonBlank, hblank]

theorem denotes_str (text : String) : Denotes (jsonString text) (.str text) where
  starts := ⟨'"', _, rfl, rfl, by decide⟩
  read fuel rest hfuel _ := by
    obtain ⟨fuel, rfl⟩ := Nat.exists_eq_succ_of_ne_zero (Nat.ne_zero_of_lt hfuel)
    rw [jsonString, List.cons_append, List.append_assoc, List.singleton_append, readValue,
      readString_written, Option.map_some]

/-! ### Documents -/

namespace Value

variable {style : JsonStyle}

theorem writeJsonItems_eq_ok {items : List Value} {text : Value → List Char}
    (h : ∀ v ∈ items, writeJson style v = .ok (text v)) :
    writeJsonItems style items = .ok (items.map text) := by
  induction items with
  | nil => rfl
  | cons v items ih =>
    rw [List.forall_mem_cons] at h
    rw [writeJsonItems, h.1, ih h.2]
    rfl

theorem writeJsonMembers_eq_ok {members : Obj} {text : String × Value → List Char}
    (h : ∀ m ∈ members, writeJson style m.2 = .ok (text m)) :
    writeJsonMembers style members = .ok (members.map fun m => (m.1, text m)) := by
  induction members with
  | nil => rfl
  | cons m members ih =>
    rw [List.forall_mem_cons] at h
    rw [writeJsonMembers, h.1, ih h.2]
    rfl

/-- Whether a style writes a document as a text that denotes the document, in some order of keys and
in its own one if the style does not sort them. -/
structure WrittenAs (style : JsonStyle) (v : Value) (text : List Char) (q : Value) : Prop where
  written : writeJson style v = .ok text
  denotes : Denotes text q
  isExact : q.IsExact
  same : q.SameDocument v
  ordered : style.sortKeys = false → q = v

/-- A document without parts is written as a text that denotes it. -/
theorem writtenAs_self {v : Value} {text : List Char} (hexact : v.IsExact)
    (hwritten : writeJson style v = .ok text) (hdenotes : Denotes text v) :
    WrittenAs style v text v :=
  ⟨hwritten, hdenotes, hexact, .refl v, fun _ => rfl⟩

theorem writtenAs_list (hstyle : style.IsReadable) {items : List Value}
    {text : Value → List Char} {q : Value → Value}
    (h : ∀ v ∈ items, WrittenAs style v (text v) (q v)) :
    WrittenAs style (list items) (bracketed '[' ']' style.itemSeparator (items.map text))
      (list (items.map q)) where
  written := by
    rw [writeJson, writeJsonItems_eq_ok fun v hv => (h v hv).written]
    rfl
  denotes := by
    refine denotes_list hstyle.item ?_
    rw [List.forall₂_map_left_iff, List.forall₂_map_right_iff, List.forall₂_same]
    exact fun v hv => (h v hv).denotes
  isExact := .list (List.forall_mem_map.mpr fun v hv => (h v hv).isExact)
  same := .list (List.length_map q) fun i hi hj => by
    rw [List.getElem_map]
    exact (h _ (List.getElem_mem hj)).same
  ordered hsort := by
    rw [List.map_congr_left (fun v hv => (h v hv).ordered hsort), List.map_id']

theorem exists_writtenAs_obj (hstyle : style.IsReadable) {members : Obj}
    (hnodup : members.keys.Nodup) {text : String × Value → List Char} {q : String × Value → Value}
    (h : ∀ m ∈ members, WrittenAs style m.2 (text m) (q m)) :
    ∃ chars u, WrittenAs style (obj members) chars u := by
  have hkeys : Table.keys (members.map fun m => (m.1, q m)) = Table.keys members := by
    simp [Table.keys]
  have hnodup' : (Table.keys (members.map fun m => (m.1, q m))).Nodup := hkeys ▸ hnodup
  have hdenotes : List.Forall₂ DenotesMember (members.map fun m => (m.1, text m))
      (members.map fun m => (m.1, q m)) := by
    rw [List.forall₂_map_left_iff, List.forall₂_map_right_iff, List.forall₂_same]
    exact fun m hm => ⟨rfl, (h m hm).denotes⟩
  have hsame : SameDocument (obj (members.map fun m => (m.1, q m))) (obj members) := by
    refine SameDocument.obj_of_forall₂ ?_
    rw [List.forall₂_map_left_iff, List.forall₂_same]
    exact fun m hm => ⟨rfl, (h m hm).same⟩
  have hwritten := writeJsonMembers_eq_ok fun m hm => (h m hm).written
  have hexact : ∀ n ∈ members.map fun m => (m.1, q m), n.2.IsExact :=
    List.forall_mem_map.mpr fun m hm => (h m hm).isExact
  cases hsort : style.sortKeys with
  | false =>
    refine ⟨_, _, ?_, denotes_obj hstyle.item hstyle.key hnodup' hdenotes, .obj hnodup' hexact,
      hsame, fun _ => ?_⟩
    · rw [writeJson, hwritten]
      simp only [hsort, Bool.false_eq_true, if_false]
      rfl
    · rw [List.map_congr_left (g := id) fun m hm => by rw [(h m hm).ordered hsort]; rfl,
        List.map_id]
  | true =>
    have hsorted := nodup_keys_sortMembers hnodup'
    refine ⟨_, _, ?_, denotes_obj hstyle.item hstyle.key hsorted (forall₂_sortMembers hdenotes),
      .obj hsorted fun n hn => hexact n ((sortMembers_perm _).mem_iff.mp hn), ?_,
      fun hunsorted => by simp [hsort] at hunsorted⟩
    · rw [writeJson, hwritten]
      simp only [hsort, if_true]
      rfl
    · exact (SameDocument.obj_of_get? (get?_sortMembers hnodup')).trans hsame

/-- An exact document is written as a text that denotes it. -/
theorem IsExact.exists_written {v : Value} (hv : v.IsExact) (hstyle : style.IsReadable) :
    ∃ text q, WrittenAs style v text q := by
  induction hv with
  | null => exact ⟨_, _, writtenAs_self .null (by rw [writeJson]) denotes_null⟩
  | bool b => exact ⟨_, _, writtenAs_self (.bool b) (by rw [writeJson]) (denotes_bool b)⟩
  | int short =>
    refine ⟨_, _, writtenAs_self (.int short) ?_ (denotes_int short)⟩
    rw [writeJson, integerText_eq short, Outcome.ok_bind, String.toList_ofList]
    rfl
  | str text => exact ⟨_, _, writtenAs_self (.str text) (by rw [writeJson]) (denotes_str text)⟩
  | list _ ih =>
    choose! text q h using ih
    exact ⟨_, _, writtenAs_list hstyle h⟩
  | obj nodup _ ih =>
    choose! text q h using ih
    exact exists_writtenAs_obj hstyle nodup h

/-- With sorted keys, documents that differ in the order of keys alone are written alike. -/
theorem SameDocument.writeJson_eq {q : Value → Prop} {v w : Value} (h : v.SameDocument w)
    (hwrites : style.Writes q) (hsort : style.sortKeys = true) (hv : q v) (hw : q w) :
    writeJson style v = writeJson style w := by
  have htexts : ∀ u : Value, q u → ∃ text, writeJson style u = .ok text :=
    fun u hu => hwrites.written hu
  choose! text htexts using htexts
  induction h with
  | refl v => rfl
  | @list a b length items ih =>
    have ha := hwrites.item hv
    have hb := hwrites.item hw
    have hitems : a.map text = b.map text := by
      refine List.ext_getElem (by simpa using length) fun i hi hj => ?_
      rw [List.length_map] at hi hj
      have hsame := ih i hi hj (ha _ (List.getElem_mem hi)) (hb _ (List.getElem_mem hj))
      rw [htexts _ (ha _ (List.getElem_mem hi)), htexts _ (hb _ (List.getElem_mem hj))] at hsame
      simpa using hsame
    rw [writeJson, writeJson, writeJsonItems_eq_ok fun u hu => htexts u (ha u hu),
      writeJsonItems_eq_ok fun u hu => htexts u (hb u hu), hitems]
  | @obj a b has values ih =>
    have ha := hwrites.nodup hv
    have hb := hwrites.nodup hw
    have hvalues := hwrites.member hv
    have hvalues' := hwrites.member hw
    have hkeys (t : Obj) :
        Table.keys (t.map fun m => (m.1, text m.2)) = Table.keys t := by simp [Table.keys]
    have hmembers : sortMembers (a.map fun m => (m.1, text m.2)) =
        sortMembers (b.map fun m => (m.1, text m.2)) := by
      refine sortMembers_eq_of_get? (hkeys a ▸ ha) (hkeys b ▸ hb) fun key => ?_
      have hhas : (Table.get? a key).isSome = (Table.get? b key).isSome := has key
      rw [Table.get?_map, Table.get?_map]
      cases hx : Table.get? a key with
      | none =>
        rw [hx, Option.isSome_none, eq_comm, Option.isSome_eq_false_iff, Option.isNone_iff_eq_none]
          at hhas
        rw [hhas]
      | some x =>
        rw [hx, Option.isSome_some, eq_comm] at hhas
        obtain ⟨y, hy⟩ := Option.isSome_iff_exists.mp hhas
        have hx' := hvalues (key, x) ((Table.mem_iff_get? ha).mpr hx)
        have hy' := hvalues' (key, y) ((Table.mem_iff_get? hb).mpr hy)
        have hsame := ih key x y hx hy hx' hy'
        rw [htexts x hx', htexts y hy', Except.ok.injEq] at hsame
        rw [hy, Option.map_some, Option.map_some, hsame]
    rw [writeJson, writeJson, writeJsonMembers_eq_ok fun m hm => htexts m.2 (hvalues m hm),
      writeJsonMembers_eq_ok fun m hm => htexts m.2 (hvalues' m hm)]
    simp only [Outcome.ok_bind, hsort, if_true, hmembers]

theorem IsExact.writes (hstyle : style.IsReadable) : style.Writes IsExact where
  item := by
    rintro items (_ | _ | _ | _ | h | _)
    exact h
  nodup := by
    rintro members (_ | _ | _ | _ | _ | ⟨h, -⟩)
    exact h
  member := by
    rintro members (_ | _ | _ | _ | _ | ⟨-, h⟩)
    exact h
  written hv := by
    obtain ⟨text, q, hq⟩ := hv.exists_written hstyle
    exact ⟨text, hq.written⟩

theorem IsExact.writeJson_congr {v w : Value} (hv : v.IsExact) (hw : w.IsExact)
    (hstyle : style.IsReadable) (hsort : style.sortKeys = true) (h : v.SameDocument w) :
    writeJson style v = writeJson style w :=
  h.writeJson_eq (IsExact.writes hstyle) hsort hv hw

end Value

end ContentEngine
