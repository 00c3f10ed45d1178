import ContentEngine.Proofs.Json.Written

/-!
# Stored and canonical texts

A value has an exact plain form if its plain form has no doubles and no long integers in it
(`Value.isExact_of_plain`): the keys of a mapping are distinct, and bringing it to plain form keeps
them.

What is stored reads back as the plain form of the value, key order included, and the canonical text
reads back as the same document (`Value.stored_reads_back`). Two values have one canonical text
exactly if their plain forms are the same document (`Value.canonicalText_eq_iff`).
-/

namespace ContentEngine

/-! ### Reading back -/

section ReadBack

variable {text : List Char} {v w : Value}

theorem Denotes.readJson_eq (h : Denotes text v) : readJson text = some v := by
  have hread := h.read (text.length + 1) [] (Nat.le_succ _) endsNumber_nil
  have hskip := h.starts.skipJsonBlanks_eq []
  rw [List.append_nil] at hread hskip
  rw [readJson, readJsonWithin, hskip, hread]
  rfl

/-- A text denotes one value at most. -/
theorem Denotes.unique (hv : Denotes text v) (hw : Denotes text w) : v = w :=
  Option.some.inj (hv.readJson_eq.symm.trans hw.readJson_eq)

/-- No value is written with a byte order mark before it. -/
theorem Denotes.parseJson_eq (h : Denotes text v) : parseJson (String.ofList text) = some v := by
  rw [parseJson, String.toList_ofList]
  split
  · next rest =>
    have hread := h.read _ [] le_rfl endsNumber_nil
    rw [List.length_cons, List.append_nil, readValue_eq_readScalar (by decide)] at hread
    simp [readScalar, namedValues, dropPrefix?, readNumber, takeWhole?, isAsciiDigit] at hread
  · exact h.readJson_eq

theorem Denotes.ofStored_eq (h : Denotes text v) :
    (Value.str (String.ofList text)).ofStored = .ok v := by
  rw [Value.ofStored, Value.ofStoredText, h.parseJson_eq, Option.getD_some]

end ReadBack

namespace Value

/-! ### Plain forms -/

/-- Whether the keys of every mapping in a value are distinct, as the keys of a mapping are. -/
def KeysDistinct (v : Value) : Prop :=
  ∀ u, v.Holds u → u.members.keys.Nodup

/-- Whether there is no double in a value. -/
def HasNoDouble (v : Value) : Prop :=
  ∀ x, ¬v.Holds (float x)

theorem keysDistinct_iff {v : Value} :
    v.KeysDistinct ↔ v.members.keys.Nodup ∧ ∀ p ∈ v.parts, p.KeysDistinct :=
  forall_holds_iff

/-- A value without parts has no keys. -/
theorem keysDistinct_of_parts_eq_nil {v : Value} (h : v.parts = []) : v.KeysDistinct := by
  refine keysDistinct_iff.mpr ⟨?_, by simp [h]⟩
  cases v with
  | obj members => exact (List.map_eq_nil_iff.mp h) ▸ List.nodup_nil
  | table rows =>
    cases rows with
    | nil => exact List.nodup_nil
    | cons row rows => simp [parts] at h
  | _ => exact List.nodup_nil

@[simp] theorem keysDistinct_null : null.KeysDistinct := keysDistinct_of_parts_eq_nil rfl

@[simp] theorem keysDistinct_bool (b : Bool) : (bool b).KeysDistinct :=
  keysDistinct_of_parts_eq_nil rfl

@[simp] theorem keysDistinct_int (n : Int) : (int n).KeysDistinct :=
  keysDistinct_of_parts_eq_nil rfl

@[simp] theorem keysDistinct_str (text : String) : (str text).KeysDistinct :=
  keysDistinct_of_parts_eq_nil rfl

theorem keysDistinct_list {items : List Value} :
    (list items).KeysDistinct ↔ ∀ v ∈ items, v.KeysDistinct :=
  keysDistinct_iff.trans (and_iff_right List.nodup_nil)

theorem keysDistinct_tuple {items : List Value} :
    (tuple items).KeysDistinct ↔ ∀ v ∈ items, v.KeysDistinct :=
  keysDistinct_iff.trans (and_iff_right List.nodup_nil)

theorem keysDistinct_obj {members : Obj} :
    (obj members).KeysDistinct ↔ members.keys.Nodup ∧ ∀ m ∈ members, m.2.KeysDistinct :=
  keysDistinct_iff.trans (and_congr_right fun _ => List.forall_mem_map)

theorem keysDistinct_table {rows : List (Value × Value)} :
    (table rows).KeysDistinct ↔
      (textRows rows).keys.Nodup ∧ ∀ row ∈ rows, row.1.KeysDistinct ∧ row.2.KeysDistinct := by
  refine keysDistinct_iff.trans (and_congr_right fun _ => ?_)
  rw [parts, List.forall_mem_flatMap]
  simp

theorem hasNoDouble_iff {v : Value} :
    v.HasNoDouble ↔ (∀ x, v ≠ float x) ∧ ∀ p ∈ v.parts, p.HasNoDouble := by
  constructor
  · exact fun h => ⟨fun x hx => h x (hx ▸ .self v), fun p hp x hx => h x (.part hp hx)⟩
  · rintro ⟨hself, hparts⟩ x hx
    rcases holds_iff.mp hx with heq | ⟨p, hp, hx⟩
    · exact hself x heq.symm
    · exact hparts p hp x hx

/-- A value without parts that is no double. -/
theorem hasNoDouble_of_parts_eq_nil {v : Value} (hparts : v.parts = []) (h : ∀ x, v ≠ float x) :
    v.HasNoDouble :=
  hasNoDouble_iff.mpr ⟨h, by simp [hparts]⟩

@[simp] theorem hasNoDouble_null : null.HasNoDouble := hasNoDouble_of_parts_eq_nil rfl nofun

@[simp] theorem hasNoDouble_bool (b : Bool) : (bool b).HasNoDouble :=
  hasNoDouble_of_parts_eq_nil rfl nofun

@[simp] theorem hasNoDouble_int (n : Int) : (int n).HasNoDouble :=
  hasNoDouble_of_parts_eq_nil rfl nofun

@[simp] theorem hasNoDouble_str (text : String) : (str text).HasNoDouble :=
  hasNoDouble_of_parts_eq_nil rfl nofun

theorem hasNoDouble_list {items : List Value} :
    (list items).HasNoDouble ↔ ∀ v ∈ items, v.HasNoDouble :=
  hasNoDouble_iff.trans (and_iff_right nofun)

theorem hasNoDouble_obj {members : Obj} :
    (obj members).HasNoDouble ↔ ∀ m ∈ members, m.2.HasNoDouble :=
  hasNoDouble_iff.trans ((and_iff_right nofun).trans List.forall_mem_map)

theorem HasNoDouble.part {v p : Value} (h : v.HasNoDouble) (hp : p ∈ v.parts) : p.HasNoDouble :=
  fun x hx => h x (.part hp hx)

theorem HasText.part {v p : Value} (h : v.HasText) (hp : p ∈ v.parts) : p.HasText :=
  (hasText_iff.mp h).2 p hp

/-- The plain forms of items are the plain forms of the items, each at its own place. -/
theorem exists_of_plainItems {path : String} {index : Nat} {items outs : List Value}
    (h : plainItems path index items = .ok outs) :
    ∀ q ∈ outs, ∃ v ∈ items, ∃ place, plain place v = .ok q := by
  induction items generalizing index outs with
  | nil =>
    rw [plainItems, Except.ok.injEq] at h
    simp [← h]
  | cons v items ih =>
    simp only [plainItems, Outcome.bind_eq_ok_iff, Outcome.pure_eq_ok_iff] at h
    obtain ⟨q, hq, others, hothers, rfl⟩ := h
    refine List.forall_mem_cons.mpr ⟨⟨v, List.mem_cons_self, _, hq⟩, fun u hu => ?_⟩
    obtain ⟨w, hw, hplain⟩ := ih hothers u hu
    exact ⟨w, List.mem_cons_of_mem v hw, hplain⟩

theorem exists_of_plainMembers {path : String} {members outs : Obj}
    (h : plainMembers path members = .ok outs) :
    outs.keys = members.keys ∧
      ∀ m ∈ outs, ∃ v ∈ members.map (·.2), ∃ place, plain place v = .ok m.2 := by
  induction members generalizing outs with
  | nil =>
    rw [plainMembers, Except.ok.injEq] at h
    simp [← h]
  | cons member members ih =>
    simp only [plainMembers, Outcome.bind_eq_ok_iff, Outcome.pure_eq_ok_iff] at h
    obtain ⟨q, hq, others, hothers, rfl⟩ := h
    obtain ⟨hkeys, hvalues⟩ := ih hothers
    refine ⟨congrArg (member.1 :: ·) hkeys, List.forall_mem_cons.mpr
      ⟨⟨member.2, List.mem_cons_self, _, hq⟩, fun m hm => ?_⟩⟩
    obtain ⟨w, hw, hplain⟩ := hvalues m hm
    exact ⟨w, List.mem_cons_of_mem member.2 hw, hplain⟩

theorem exists_of_plainRows {path : String} {rows : List (Value × Value)} {outs : Obj}
    (h : plainRows path rows = .ok outs) :
    outs.keys = (textRows rows).keys ∧
      ∀ m ∈ outs, ∃ v ∈ (table rows).parts, ∃ place, plain place v = .ok m.2 := by
  induction rows generalizing outs with
  | nil =>
    rw [plainRows, Except.ok.injEq] at h
    simp [← h, textRows]
  | cons row rows ih =>
    obtain ⟨key, value⟩ := row
    cases key with
    | str name =>
      simp only [plainRows, Outcome.bind_eq_ok_iff, Outcome.pure_eq_ok_iff] at h
      obtain ⟨q, hq, others, hothers, rfl⟩ := h
      obtain ⟨hkeys, hvalues⟩ := ih hothers
      refine ⟨congrArg (name :: ·) hkeys, List.forall_mem_cons.mpr
        ⟨⟨value, by simp [parts], _, hq⟩, fun m hm => ?_⟩⟩
      obtain ⟨w, hw, hplain⟩ := hvalues m hm
      exact ⟨w, List.mem_append_right _ hw, hplain⟩
    | _ =>
      rw [plainRows] at h
      · contradiction
      · intro name heq
        cases heq

/-- The plain form of a value with distinct keys is exact, unless there is a double or a long
integer in it. -/
theorem isExact_of_plain {v p : Value} {path : String} (h : plain path v = .ok p)
    (hkeys : v.KeysDistinct) (hdouble : p.HasNoDouble) (htext : p.HasText) : p.IsExact := by
  induction v using induction_parts generalizing p path with
  | h v ih =>
    obtain ⟨hnodup, hparts⟩ := keysDistinct_iff.mp hkeys
    have hmembers {outs : Obj} (hp : p = obj outs) (hsame : outs.keys = v.members.keys ∧
        ∀ m ∈ outs, ∃ u ∈ v.parts, ∃ place, plain place u = .ok m.2) : p.IsExact := by
      subst hp
      refine .obj (hsame.1 ▸ hnodup) fun m hm => ?_
      obtain ⟨u, hu, place, hplain⟩ := hsame.2 m hm
      have hpart : m.2 ∈ (obj outs).parts := List.mem_map_of_mem hm
      exact ih u hu hplain (hparts u hu) (hdouble.part hpart) (htext.part hpart)
    cases v with
    | null | bool b | str s | identifier u | moment m | day d =>
      rw [plain, Except.ok.injEq] at h
      subst h
      constructor
    | int n =>
      rw [plain, Except.ok.injEq] at h
      subst h
      exact .int (hasText_int.mp htext)
    | float x =>
      rw [plain] at h
      split at h
      · rw [Except.ok.injEq] at h
        subst h
        exact absurd (.self _) (hdouble x)
      · contradiction
    | decimal d =>
      rw [plain, plainDecimal] at h
      split at h
      · split at h
        · rw [Except.ok.injEq] at h
          subst h
          exact .int (hasText_int.mp htext)
        · rw [Except.ok.injEq] at h
          subst h
          exact absurd (.self _) (hdouble _)
      · contradiction
    | bytes data | set items =>
      rw [plain] at h
      contradiction
    | list items | tuple items =>
      rw [plain] at h
      simp only [Outcome.bind_eq_ok_iff, Outcome.pure_eq_ok_iff] at h
      obtain ⟨outs, houts, rfl⟩ := h
      refine .list fun q hq => ?_
      obtain ⟨u, hu, place, hplain⟩ := exists_of_plainItems houts q hq
      exact ih u hu hplain (hparts u hu) (hdouble.part hq) (htext.part hq)
    | obj members =>
      rw [plain] at h
      simp only [Outcome.bind_eq_ok_iff, Outcome.pure_eq_ok_iff] at h
      obtain ⟨outs, houts, hp⟩ := h
      exact hmembers hp.symm (exists_of_plainMembers houts)
    | table rows =>
      rw [plain] at h
      simp only [Outcome.bind_eq_ok_iff, Outcome.pure_eq_ok_iff] at h
      obtain ⟨outs, houts, hp⟩ := h
      exact hmembers hp.symm (exists_of_plainRows houts)

/-! ### Texts of values -/

/-- A value with an exact plain form has a text in each style, which denotes its plain form. -/
theorem exists_jsonText {style : JsonStyle} {v p : Value} (hstyle : style.IsReadable)
    (hplain : plain "$" v = .ok p) (hp : p.IsExact) :
    ∃ text q, v.jsonText style = .ok (String.ofList text) ∧ WrittenAs style p text q := by
  obtain ⟨text, q, hq⟩ := hp.exists_written hstyle
  refine ⟨text, q, ?_, hq⟩
  rw [jsonText, hplain, Outcome.ok_bind, hq.written]
  rfl

/-- What is stored reads back as the plain form of the value, key order included, and the canonical
text reads back as a document that is equal to it. -/
theorem stored_reads_back {v p : Value} (hkeys : v.KeysDistinct) (hplain : plain "$" v = .ok p)
    (hdouble : p.HasNoDouble) (htext : p.HasText) :
    (∃ text, v.storedText = .ok text ∧ (str text).ofStored = .ok p) ∧
      ∃ text q, v.canonicalText = .ok text ∧ (str text).ofStored = .ok q ∧
        q.SameDocument p ∧ q.same p = true := by
  have hp := isExact_of_plain hplain hkeys hdouble htext
  obtain ⟨stored, u, hstored, hu⟩ := exists_jsonText JsonStyle.isReadable_stored hplain hp
  obtain ⟨canonical, q, hcanonical, hq⟩ := exists_jsonText JsonStyle.isReadable_canonical hplain hp
  obtain rfl := hu.ordered rfl
  exact ⟨⟨_, hstored, hu.denotes.ofStored_eq⟩,
    _, q, hcanonical, hq.denotes.ofStored_eq, hq.same, hq.same.same hq.isExact hp⟩

/-- A mapping with a tuple, an object and texts that need escapes. -/
theorem stored_reads_back_nested :
    let v : Value := .table [(.str "b\"\\", .tuple [.str "é\n\x01", .int (-12)]),
      (.str "a", .obj [("y", .null), ("x", .bool true)])]
    let p : Value := .obj [("b\"\\", .list [.str "é\n\x01", .int (-12)]),
      ("a", .obj [("y", .null), ("x", .bool true)])]
    (∃ text, v.storedText = .ok text ∧ (str text).ofStored = .ok p) ∧
      ∃ text q, v.canonicalText = .ok text ∧ (str text).ofStored = .ok q ∧
        q.SameDocument p ∧ q.same p = true := by
  intro v p
  have hshort : (int (-12)).IsShort := show (digitText 12).length ≤ maxIntegerDigits by decide
  refine stored_reads_back ?_ rfl ?_ ?_
  · simp [v, keysDistinct_table, keysDistinct_tuple, keysDistinct_obj, textRows, Obj.keys,
      Table.keys]
  · simp [p, hasNoDouble_obj, hasNoDouble_list]
  · simp [p, hasText_obj, hasText_list, hasText_int, hshort]

/-- Two values have one canonical text exactly if their plain forms are the same up to the order of
keys. -/
theorem canonicalText_eq_iff {v w p q : Value}
    (hvkeys : v.KeysDistinct) (hvplain : plain "$" v = .ok p)
    (hvdouble : p.HasNoDouble) (hvtext : p.HasText)
    (hwkeys : w.KeysDistinct) (hwplain : plain "$" w = .ok q)
    (hwdouble : q.HasNoDouble) (hwtext : q.HasText) :
    ∃ s t, v.canonicalText = .ok s ∧ w.canonicalText = .ok t ∧ (s = t ↔ p.SameDocument q) := by
  have hp := isExact_of_plain hvplain hvkeys hvdouble hvtext
  have hq := isExact_of_plain hwplain hwkeys hwdouble hwtext
  obtain ⟨s, p', hs, hp'⟩ := exists_jsonText JsonStyle.isReadable_canonical hvplain hp
  obtain ⟨t, q', ht, hq'⟩ := exists_jsonText JsonStyle.isReadable_canonical hwplain hq
  refine ⟨_, _, hs, ht, fun heq => ?_, fun hsame => ?_⟩
  · -- one text denotes one document only
    obtain rfl : s = t := by simpa using congrArg String.toList heq
    obtain rfl := hp'.denotes.unique hq'.denotes
    exact hp'.same.symm.trans hq'.same
  · have hwritten := hp.writeJson_congr hq JsonStyle.isReadable_canonical rfl hsame
    rw [hp'.written, hq'.written, Except.ok.injEq] at hwritten
    rw [hwritten]

/-- The keys of two mappings in two orders, at both levels. -/
theorem canonicalText_eq_in_any_order :
    let v : Value := .obj [("b", .int 1), ("a", .list [.bool true,
      .obj [("y", .str "\""), ("x", .null)]])]
    let w : Value := .table [(.str "a", .tuple [.bool true,
      .obj [("x", .null), ("y", .str "\"")]]), (.str "b", .int 1)]
    let q : Value := .obj [("a", .list [.bool true, .obj [("x", .null), ("y", .str "\"")]]),
      ("b", .int 1)]
    ∃ s t, v.canonicalText = .ok s ∧ w.canonicalText = .ok t ∧ (s = t ↔ v.SameDocument q) := by
  intro v w q
  have hshort : (int 1).IsShort := show (digitText 1).length ≤ maxIntegerDigits by decide
  refine canonicalText_eq_iff ?_ rfl ?_ ?_ ?_ rfl ?_ ?_
  · simp [v, keysDistinct_list, keysDistinct_obj, Obj.keys, Table.keys]
  · simp [v, hasNoDouble_obj, hasNoDouble_list]
  · simp [v, hasText_obj, hasText_list, hasText_int, hshort]
  · simp [w, keysDistinct_table, keysDistinct_tuple, keysDistinct_obj, textRows, Obj.keys,
      Table.keys]
  · simp [q, hasNoDouble_obj, hasNoDouble_list]
  · simp [q, hasText_obj, hasText_list, hasText_int, hshort]

end Value

end ContentEngine
