import JoinPaths.Proofs.Catalog.Listing
import JoinPaths.Proofs.Json.Members

/-!
# Which JSON values are rows

A row is an object that has the kind and the fields of the row among its members, or a list of just
the kind and the fields (`Row.GivenBy`). No other value is a row (`ofJson_eq_ok_iff_givenBy`). So
the order of the members does not matter, and neither does any member that the kind of the row does
not ask for.

1. What a draft has collected is the kind and all other members, wherever the kind stands
   (`addAll_kind`).
2. Of the members those with the names of fields are picked, and must be strings
   (`ofMembers_eq_ok_iff`). As the keys are different, none is picked twice.
3. Of the items behind the kind all must be strings, and there must be as many as fields
   (`ofItems_eq_ok_iff`).
-/

namespace JoinPaths.Catalog

open Json (Mismatch asString)

/-! ## Rows and values -/

/-- The kind of a row. -/
def Row.kind : Row → Kind
  | primary _ _ => .primary
  | foreign _ _ _ _ => .foreign

/-- The fields of a row with their texts. -/
def Row.fields : Row → List (String × String)
  | primary table column => [("table_name", table), ("column_name", column)]
  | foreign table column referencedTable referencedColumn =>
    [("table_name", table), ("column_name", column), ("foreign_table_name", referencedTable),
      ("foreign_column_name", referencedColumn)]

/-- How a row may be given as a JSON value. -/
inductive Row.GivenBy : Row → Json → Prop where
  /-- A primary key is an object with these members, among others. -/
  | primaryObject {members : List (String × Json)} {table column : String}
      (hkind : ("key_type", .string "primary") ∈ members)
      (htable : ("table_name", .string table) ∈ members)
      (hcolumn : ("column_name", .string column) ∈ members) :
    GivenBy (.primary table column) (.object members)
  /-- A primary key is the list of just these strings. -/
  | primaryList {table column : String} :
    GivenBy (.primary table column)
      (.array [.string "primary", .string table, .string column])
  /-- A foreign key is an object with these members, among others. -/
  | foreignObject {members : List (String × Json)}
      {table column referencedTable referencedColumn : String}
      (hkind : ("key_type", .string "foreign") ∈ members)
      (htable : ("table_name", .string table) ∈ members)
      (hcolumn : ("column_name", .string column) ∈ members)
      (hreferencedTable : ("foreign_table_name", .string referencedTable) ∈ members)
      (hreferencedColumn : ("foreign_column_name", .string referencedColumn) ∈ members) :
    GivenBy (.foreign table column referencedTable referencedColumn) (.object members)
  /-- A foreign key is the list of just these strings. -/
  | foreignList {table column referencedTable referencedColumn : String} :
    GivenBy (.foreign table column referencedTable referencedColumn)
      (.array [.string "foreign", .string table, .string column, .string referencedTable,
        .string referencedColumn])

variable {v : Json} {items : List Json} {members : List (String × Json)} {kind : Kind} {row : Row}
  {names : List String} {picked : List (String × String)}

theorem map_fst_fields (row : Row) : row.fields.map Prod.fst = row.kind.fields := by
  cases row <;> rfl

theorem fst_ne_kindField {f : String × String} (hf : f ∈ row.fields) : f.1 ≠ kindField := by
  have hname : f.1 ∈ row.kind.fields := map_fst_fields row ▸ List.mem_map_of_mem hf
  have hnot : ∀ kind : Kind, kindField ∉ kind.fields := by
    intro kind
    cases kind <;> decide
  exact fun h => hnot row.kind (h ▸ hname)

theorem givenBy_object_iff :
    row.GivenBy (.object members) ↔ (kindField, .string row.kind.name) ∈ members ∧
      ∀ f ∈ row.fields, (f.1, .string f.2) ∈ members := by
  constructor
  · intro h
    cases h with
    | primaryObject hkind htable hcolumn => exact ⟨hkind, by simp [Row.fields, htable, hcolumn]⟩
    | foreignObject hkind htable hcolumn hreferencedTable hreferencedColumn =>
      exact ⟨hkind, by
        simp [Row.fields, htable, hcolumn, hreferencedTable, hreferencedColumn]⟩
  · rintro ⟨hkind, hfields⟩
    cases row with
    | primary table column =>
      simp only [Row.fields, List.forall_mem_cons] at hfields
      exact .primaryObject hkind hfields.1 hfields.2.1
    | foreign table column referencedTable referencedColumn =>
      simp only [Row.fields, List.forall_mem_cons] at hfields
      exact .foreignObject hkind hfields.1 hfields.2.1 hfields.2.2.1 hfields.2.2.2.1

theorem givenBy_array_iff :
    row.GivenBy (.array items) ↔
      items = .string row.kind.name :: row.fields.map fun f => .string f.2 := by
  constructor
  · intro h
    cases h with
    | primaryList => rfl
    | foreignList => rfl
  · rintro rfl
    cases row with
    | primary table column => exact .primaryList
    | foreign table column referencedTable referencedColumn => exact .foreignList

/-! ## Kinds -/

theorem asString_eq_ok_iff {s : String} : asString v = .ok s ↔ v = .string s := by
  cases v <;> simp [asString]

theorem ofShape_eq_ok_iff : Kind.ofShape v.shape = .ok kind ↔ v = .string kind.name := by
  constructor
  · intro h
    obtain ⟨s, rfl⟩ := eq_string_of_ofShape h
    simp only [Json.shape, Kind.ofShape] at h
    split_ifs at h with hprimary hforeign
    · obtain rfl := Except.ok.inj h
      rw [hprimary]
    · obtain rfl := Except.ok.inj h
      rw [hforeign]
  · rintro rfl
    cases kind <;> rfl

theorem Kind.row_eq_ok_iff {field : String → Except Mismatch String} :
    kind.row field = .ok row ↔
      row.kind = kind ∧ ∀ f ∈ row.fields, field f.1 = .ok f.2 := by
  constructor
  · intro h
    cases kind with
    | primary =>
      obtain ⟨table, htable, h⟩ := bind_eq_ok_iff.1 h
      obtain ⟨column, hcolumn, rfl⟩ := map_eq_ok_iff.1 h
      exact ⟨rfl, by simp [Row.fields, htable, hcolumn]⟩
    | foreign =>
      obtain ⟨table, htable, h⟩ := bind_eq_ok_iff.1 h
      obtain ⟨column, hcolumn, h⟩ := bind_eq_ok_iff.1 h
      obtain ⟨refTable, hrefTable, h⟩ := bind_eq_ok_iff.1 h
      obtain ⟨refColumn, hrefColumn, rfl⟩ := map_eq_ok_iff.1 h
      exact ⟨rfl, by simp [Row.fields, htable, hcolumn, hrefTable, hrefColumn]⟩
  · rintro ⟨rfl, hfields⟩
    cases row with
    | primary table column =>
      simp only [Row.fields, List.forall_mem_cons] at hfields
      exact bind_eq_ok_iff.2 ⟨_, hfields.1, map_eq_ok_iff.2 ⟨_, hfields.2.1, rfl⟩⟩
    | foreign table column referencedTable referencedColumn =>
      simp only [Row.fields, List.forall_mem_cons] at hfields
      obtain ⟨htable, hcolumn, hrefTable, hrefColumn, -⟩ := hfields
      exact bind_eq_ok_iff.2 ⟨_, htable, bind_eq_ok_iff.2 ⟨_, hcolumn, bind_eq_ok_iff.2
        ⟨_, hrefTable, map_eq_ok_iff.2 ⟨_, hrefColumn, rfl⟩⟩⟩⟩

theorem found_eq_ok_iff {found : Option String} {name s : String} :
    (match found with
      | some s => .ok s
      | none => .error (.missingField name) : Except Mismatch String) = .ok s ↔
      found = some s := by
  cases found <;> simp

/-! ## Fields by name -/

/-- Picking goes on behind a member with the name of a field exactly if the member is a string and
its name has not been picked before. -/
theorem pickFields_cons_eq_ok_iff {key : String} {picked' : List (String × String)}
    (hkey : key ∈ names) :
    pickFields names picked ((key, v) :: members) = .ok picked' ↔
      picked.lookup key = none ∧ ∃ s, v = .string s ∧
        pickFields names ((key, s) :: picked) members = .ok picked' := by
  rw [pickFields, if_pos hkey]
  cases hlookup : picked.lookup key with
  | some s => simp
  | none =>
    cases hv : asString v with
    | error m =>
      simp only [Option.isSome_none, Bool.false_eq_true, if_false, reduceCtorEq, true_and,
        false_iff]
      rintro ⟨s, hs, -⟩
      rw [asString_eq_ok_iff.2 hs] at hv
      cases hv
    | ok s =>
      obtain rfl := asString_eq_ok_iff.1 hv
      simp

theorem lookup_of_pickFields {picked' : List (String × String)} {name s : String}
    (h : pickFields names picked members = .ok picked') :
    picked'.lookup name = some s ↔
      picked.lookup name = some s ∨ name ∈ names ∧ (name, .string s) ∈ members := by
  induction members generalizing picked with
  | nil =>
    obtain rfl := Except.ok.inj h
    simp
  | cons m members ih =>
    obtain ⟨key, v⟩ := m
    by_cases hkey : key ∈ names
    · obtain ⟨hnew, t, rfl, hrest⟩ := (pickFields_cons_eq_ok_iff hkey).1 h
      rw [ih hrest, List.lookup_cons]
      by_cases hname : name = key
      · subst hname
        simp [hkey, hnew, eq_comm]
      · rw [beq_false_of_ne hname]
        simp [hname]
    · rw [pickFields, if_neg hkey] at h
      rw [ih h]
      have hne : name ∈ names → name ≠ key := by
        rintro hname rfl
        exact hkey hname
      constructor
      · exact Or.imp_right fun hname => ⟨hname.1, List.mem_cons_of_mem _ hname.2⟩
      · refine Or.imp_right fun hname => ⟨hname.1, ?_⟩
        have hmem := hname.2
        simpa [hne hname.1] using hmem

theorem exists_pickFields (hkeys : (members.map Prod.fst).Nodup)
    (hnew : ∀ m ∈ members, picked.lookup m.1 = none)
    (hstrings : ∀ m ∈ members, m.1 ∈ names → ∃ s, m.2 = .string s) :
    ∃ picked', pickFields names picked members = .ok picked' := by
  induction members generalizing picked with
  | nil => exact ⟨picked, rfl⟩
  | cons m members ih =>
    obtain ⟨key, v⟩ := m
    obtain ⟨hkeyNew, hrestKeys⟩ := List.nodup_cons.1 hkeys
    obtain ⟨hnewKey, hnewRest⟩ := List.forall_mem_cons.1 hnew
    obtain ⟨hstring, hrestStrings⟩ := List.forall_mem_cons.1 hstrings
    by_cases hkey : key ∈ names
    · obtain ⟨s, rfl⟩ := hstring hkey
      have hnewRest' : ∀ m ∈ members, List.lookup m.1 ((key, s) :: picked) = none := by
        intro m hm
        have hmem : m.1 ∈ members.map Prod.fst := List.mem_map_of_mem hm
        have hne : m.1 ≠ key := fun h => hkeyNew (h ▸ hmem)
        rw [List.lookup_cons, beq_false_of_ne hne]
        exact hnewRest m hm
      obtain ⟨picked', h⟩ := ih hrestKeys hnewRest' hrestStrings
      exact ⟨picked', (pickFields_cons_eq_ok_iff hkey).2 ⟨hnewKey, s, rfl, h⟩⟩
    · rw [pickFields, if_neg hkey]
      exact ih hrestKeys hnewRest hrestStrings

theorem ofMembers_eq_ok_iff (hkeys : (members.map Prod.fst).Nodup) :
    kind.ofMembers members = .ok row ↔
      row.kind = kind ∧ ∀ f ∈ row.fields, (f.1, .string f.2) ∈ members := by
  unfold Kind.ofMembers
  constructor
  · intro h
    obtain ⟨picked, hpicked, hrow⟩ := bind_eq_ok_iff.1 h
    obtain ⟨hkind, hfields⟩ := Kind.row_eq_ok_iff.1 hrow
    refine ⟨hkind, fun f hf => ?_⟩
    have hlookup := found_eq_ok_iff.1 (hfields f hf)
    rcases (lookup_of_pickFields hpicked).1 hlookup with hnone | ⟨-, hmem⟩
    · cases hnone
    · exact hmem
  · rintro ⟨rfl, hfields⟩
    have hstrings : ∀ m ∈ members, m.1 ∈ row.kind.fields → ∃ s, m.2 = .string s := by
      intro m hm hname
      rw [← map_fst_fields, List.mem_map] at hname
      obtain ⟨f, hf, hname⟩ := hname
      exact ⟨f.2, Json.eq_of_mem_members hkeys hm (hname ▸ hfields f hf)⟩
    have hnone : ∀ m ∈ members, List.lookup m.1 ([] : List (String × String)) = none :=
      fun _ _ => rfl
    obtain ⟨picked, hpicked⟩ := exists_pickFields hkeys hnone hstrings
    refine bind_eq_ok_iff.2 ⟨picked, hpicked, Kind.row_eq_ok_iff.2 ⟨rfl, fun f hf => ?_⟩⟩
    have hname : f.1 ∈ row.kind.fields := map_fst_fields row ▸ List.mem_map_of_mem hf
    exact found_eq_ok_iff.2 ((lookup_of_pickFields hpicked).2 (.inr ⟨hname, hfields f hf⟩))

/-! ## Drafts -/

theorem Draft.addAll_append (d : Draft) (members members' : List (String × Json)) :
    d.addAll (members ++ members') = (d.addAll members).bind fun d => d.addAll members' := by
  induction members generalizing d with
  | nil => rfl
  | cons m members ih =>
    obtain ⟨key, v⟩ := m
    rw [List.cons_append, Draft.addAll, Draft.addAll]
    cases d.add key v with
    | error m => rfl
    | ok d => exact ih d

theorem Draft.addAll_of_not_mem (d : Draft) (h : kindField ∉ members.map Prod.fst) :
    d.addAll members = .ok ⟨d.kind, d.members ++ members⟩ := by
  induction members generalizing d with
  | nil => rw [Draft.addAll, List.append_nil]
  | cons m members ih =>
    obtain ⟨key, v⟩ := m
    obtain ⟨hkey, hrest⟩ := not_or.1 (mt List.mem_cons.2 h)
    rw [Draft.addAll, Draft.add, if_neg (Ne.symm hkey)]
    show (d.addMember key v).addAll members = _
    rw [ih _ hrest, Draft.addMember, List.append_assoc]
    rfl

/-- Wherever the kind stands, all other members are collected. -/
theorem addAll_kind {before after : List (String × Json)}
    (hbefore : kindField ∉ before.map Prod.fst) (hafter : kindField ∉ after.map Prod.fst) :
    Draft.empty.addAll (before ++ (kindField, v) :: after) =
      (Kind.ofShape v.shape).map fun kind => ⟨some kind, before ++ after⟩ := by
  rw [Draft.addAll_append, Draft.addAll_of_not_mem _ hbefore]
  show Draft.addAll ⟨none, before⟩ ((kindField, v) :: after) = _
  rw [Draft.addAll, Draft.add, if_pos rfl, Draft.setKind]
  cases Kind.ofShape v.shape with
  | error m => rfl
  | ok kind => exact Draft.addAll_of_not_mem _ hafter

theorem ofJson_object_eq_ok_iff (hkeys : (members.map Prod.fst).Nodup) :
    Row.ofJson (.object members) = .ok row ↔ row.GivenBy (.object members) := by
  rw [givenBy_object_iff, Row.ofJson]
  by_cases hkind : kindField ∈ members.map Prod.fst
  · obtain ⟨⟨key, v⟩, hmem, rfl⟩ := List.mem_map.1 hkind
    obtain ⟨before, after, rfl⟩ := List.append_of_mem hmem
    have hmiddle := hkeys
    rw [List.map_append, List.map_cons, List.nodup_middle, ← List.map_append] at hmiddle
    obtain ⟨hnew, hothers⟩ := List.nodup_cons.1 hmiddle
    rw [List.map_append, List.mem_append, not_or] at hnew
    have hfield : ∀ f ∈ row.fields, (f.1, Json.string f.2) ∈ before ++ (kindField, v) :: after ↔
        (f.1, Json.string f.2) ∈ before ++ after := by
      intro f hf
      have hne := fst_ne_kindField hf
      simp [hne]
    rw [addAll_kind hnew.1 hnew.2, bind_eq_ok_iff]
    constructor
    · rintro ⟨d, hd, hrow⟩
      obtain ⟨kind, hkind, rfl⟩ := map_eq_ok_iff.1 hd
      obtain ⟨rfl, hfields⟩ := (ofMembers_eq_ok_iff hothers).1 hrow
      obtain rfl := ofShape_eq_ok_iff.1 hkind
      exact ⟨hmem, fun f hf => (hfield f hf).2 (hfields f hf)⟩
    · rintro ⟨htag, hfields⟩
      obtain rfl := Json.eq_of_mem_members hkeys hmem htag
      refine ⟨_, map_eq_ok_iff.2 ⟨row.kind, ofShape_eq_ok_iff.2 rfl, rfl⟩, ?_⟩
      exact (ofMembers_eq_ok_iff hothers).2 ⟨rfl, fun f hf => (hfield f hf).1 (hfields f hf)⟩
  · rw [Draft.addAll_of_not_mem _ hkind]
    constructor
    · intro h
      cases h
    · rintro ⟨hmem, -⟩
      exact absurd (List.mem_map_of_mem hmem) hkind

/-! ## Fields by position -/

theorem takeStrings_eq_ok_iff {taken count : Nat} {texts : List String} :
    takeStrings kind taken count items = .ok texts ↔
      texts.length = count ∧ ∃ rest, items = texts.map .string ++ rest := by
  induction count generalizing taken items texts with
  | zero =>
    rw [takeStrings, Except.ok.injEq, List.length_eq_zero_iff]
    constructor
    · rintro rfl
      exact ⟨rfl, items, rfl⟩
    · rintro ⟨rfl, -⟩
      rfl
  | succ count ih =>
    cases items with
    | nil =>
      constructor
      · intro h
        cases h
      · rintro ⟨hlen, rest, hitems⟩
        obtain ⟨hnil, -⟩ := List.append_eq_nil_iff.1 hitems.symm
        rw [List.map_eq_nil_iff.1 hnil] at hlen
        cases hlen
    | cons v items =>
      rw [takeStrings]
      cases hv : asString v with
      | error m =>
        constructor
        · intro h
          cases h
        · rintro ⟨hlen, rest, hitems⟩
          cases texts with
          | nil => cases hlen
          | cons s texts =>
            rw [asString_eq_ok_iff.2 (List.cons.inj hitems).1] at hv
            cases hv
      | ok s =>
        obtain rfl := asString_eq_ok_iff.1 hv
        dsimp only
        rw [map_eq_ok_iff]
        constructor
        · rintro ⟨texts, htexts, rfl⟩
          obtain ⟨hlen, rest, rfl⟩ := ih.1 htexts
          exact ⟨congrArg (· + 1) hlen, rest, rfl⟩
        · rintro ⟨hlen, rest, hitems⟩
          cases texts with
          | nil => cases hlen
          | cons t texts =>
            obtain ⟨hst, hbehind⟩ := List.cons.inj hitems
            obtain rfl := Json.string.inj hst
            exact ⟨texts, ih.2 ⟨Nat.succ.inj hlen, rest, hbehind⟩, rfl⟩

theorem lookup_zip_iff {texts : List String} (hlen : texts.length = row.kind.fields.length) :
    (∀ f ∈ row.fields, (row.kind.fields.zip texts).lookup f.1 = some f.2) ↔
      texts = row.fields.map Prod.snd := by
  cases row with
  | primary table column =>
    match texts, hlen with
    | [a, b], _ => simp [Row.fields, Row.kind, Kind.fields, List.lookup_cons]
  | foreign table column referencedTable referencedColumn =>
    match texts, hlen with
    | [a, b, c, d], _ => simp [Row.fields, Row.kind, Kind.fields, List.lookup_cons]

theorem ofItems_eq_ok_iff :
    kind.ofItems items = .ok row ↔
      row.kind = kind ∧ items = row.fields.map fun f => .string f.2 := by
  unfold Kind.ofItems
  constructor
  · intro h
    cases htake : takeStrings kind 0 kind.fields.length items with
    | error m => simp [htake] at h
    | ok texts =>
      simp only [htake] at h
      split_ifs at h with hlong
      obtain ⟨rfl, hfields⟩ := Kind.row_eq_ok_iff.1 h
      obtain ⟨hlen, rest, rfl⟩ := takeStrings_eq_ok_iff.1 htake
      obtain rfl := (lookup_zip_iff hlen).1 fun f hf => found_eq_ok_iff.1 (hfields f hf)
      have hrest : rest = [] := by
        rw [List.length_append, List.length_map, hlen] at hlong
        exact List.eq_nil_of_length_eq_zero (by omega)
      rw [hrest, List.append_nil, List.map_map]
      exact ⟨rfl, rfl⟩
  · rintro ⟨rfl, rfl⟩
    have hlen : (row.fields.map Prod.snd).length = row.kind.fields.length := by
      rw [← map_fst_fields, List.length_map, List.length_map]
    have htake : takeStrings row.kind 0 row.kind.fields.length
        (row.fields.map fun f => .string f.2) = .ok (row.fields.map Prod.snd) :=
      takeStrings_eq_ok_iff.2 ⟨hlen, [], by rw [List.append_nil, List.map_map]; rfl⟩
    have hshort : ¬ row.kind.fields.length <
        (row.fields.map fun f => Json.string f.2).length := by
      rw [← hlen, List.length_map, List.length_map]
      exact Nat.lt_irrefl _
    simp only [htake, if_neg hshort]
    exact Kind.row_eq_ok_iff.2 ⟨rfl, fun f hf =>
      found_eq_ok_iff.2 ((lookup_zip_iff hlen).2 rfl f hf)⟩

theorem ofJson_array_eq_ok_iff :
    Row.ofJson (.array items) = .ok row ↔ row.GivenBy (.array items) := by
  rw [givenBy_array_iff]
  cases items with
  | nil => simp [Row.ofJson]
  | cons tag items =>
    rw [Row.ofJson, bind_eq_ok_iff, List.cons.injEq]
    constructor
    · rintro ⟨kind, hkind, hrow⟩
      obtain ⟨rfl, hitems⟩ := ofItems_eq_ok_iff.1 hrow
      exact ⟨ofShape_eq_ok_iff.1 hkind, hitems⟩
    · rintro ⟨htag, hitems⟩
      exact ⟨row.kind, ofShape_eq_ok_iff.2 htag, ofItems_eq_ok_iff.2 ⟨rfl, hitems⟩⟩

/-! ## Values -/

/-- A value with different keys is a row exactly if the row is given by it. -/
theorem ofJson_eq_ok_iff (hkeys : v.HasDistinctKeys) :
    Row.ofJson v = .ok row ↔ row.GivenBy v := by
  cases v with
  | object members => exact ofJson_object_eq_ok_iff hkeys
  | array items => exact ofJson_array_eq_ok_iff
  | null | bool _ | integer _ | double _ | string _ =>
    constructor
    · intro h
      cases h
    · intro h
      cases h

/-- Where a member stands does not matter for how an object gives a row, and members that the row
does not need may stand among the others. -/
theorem givenBy_object_of_perm {extra members' : List (String × Json)}
    (hperm : members'.Perm (members ++ extra))
    (hextra : ∀ m ∈ extra, m.1 ≠ kindField ∧ m.1 ∉ row.kind.fields) :
    row.GivenBy (.object members') ↔ row.GivenBy (.object members) := by
  have hneeded : ∀ {key : String} {v : Json}, (key = kindField ∨ key ∈ row.kind.fields) →
      ((key, v) ∈ members' ↔ (key, v) ∈ members) := by
    intro key v hkey
    have hnot : (key, v) ∉ extra := fun hmem =>
      hkey.elim (hextra _ hmem).1 (hextra _ hmem).2
    rw [hperm.mem_iff, List.mem_append, or_iff_left hnot]
  rw [givenBy_object_iff, givenBy_object_iff, hneeded (.inl rfl)]
  refine and_congr_right fun _ => forall₂_congr fun f hf => hneeded (.inr ?_)
  rw [← map_fst_fields]
  exact List.mem_map_of_mem hf

/-- Of the values with different keys, those that give a row are decoded to that row and all others
are refused. So members may stand in any order and among others that the row does not need, and all
values that give a row are decoded alike, whether they are objects or lists. -/
theorem ofJson_eq_ok_iff_givenBy :
    (∀ v : Json, v.HasDistinctKeys → (∀ row, Row.ofJson v = .ok row ↔ row.GivenBy v) ∧
        ((∃ m, Row.ofJson v = .error m) ↔ ∀ row : Row, ¬ row.GivenBy v)) ∧
      (∀ (row : Row) (members extra members' : List (String × Json)),
        (members'.map Prod.fst).Nodup → members'.Perm (members ++ extra) →
        (∀ m ∈ extra, m.1 ≠ kindField ∧ m.1 ∉ row.kind.fields) →
        (Row.ofJson (.object members') = .ok row ↔ Row.ofJson (.object members) = .ok row)) ∧
      ∀ (row : Row) (v w : Json), v.HasDistinctKeys → w.HasDistinctKeys →
        row.GivenBy v → row.GivenBy w → Row.ofJson v = Row.ofJson w := by
  refine ⟨fun v hkeys => ⟨fun row => ofJson_eq_ok_iff hkeys, ?_⟩, ?_, ?_⟩
  · constructor
    · rintro ⟨m, hm⟩ row hrow
      rw [(ofJson_eq_ok_iff hkeys).2 hrow] at hm
      cases hm
    · intro hnone
      cases h : Row.ofJson v with
      | error m => exact ⟨m, rfl⟩
      | ok row => exact absurd ((ofJson_eq_ok_iff hkeys).1 h) (hnone row)
  · intro row members extra members' hkeys hperm hextra
    have hkeys' : ((members ++ extra).map Prod.fst).Nodup := (hperm.map Prod.fst).nodup_iff.1 hkeys
    rw [List.map_append] at hkeys'
    rw [ofJson_object_eq_ok_iff hkeys, ofJson_object_eq_ok_iff hkeys'.of_append_left]
    exact givenBy_object_of_perm hperm hextra
  · intro row v w hv hw hrowV hrowW
    rw [(ofJson_eq_ok_iff hv).2 hrowV, (ofJson_eq_ok_iff hw).2 hrowW]

/-- The members of a primary key with the kind behind all others, some of which it does not need. -/
def kindLast : List (String × Json) :=
  [("foreign_table_name", .null), ("comment", .array [.object []]),
    ("column_name", .string "id"), ("table_name", .string "orders"),
    ("key_type", .string "primary")]

/-- A primary key is decoded from these members as from those it needs and from a list; without a
table it is refused. -/
theorem ofJson_of_kindLast :
    Row.ofJson (.object kindLast) = .ok (.primary "orders" "id") ∧
      Row.ofJson (.object [("key_type", .string "primary"), ("table_name", .string "orders"),
        ("column_name", .string "id")]) = .ok (.primary "orders" "id") ∧
      Row.ofJson (.object kindLast) =
        Row.ofJson (.array [.string "primary", .string "orders", .string "id"]) ∧
      ∃ m, Row.ofJson (.object (kindLast.eraseIdx 3)) = .error m := by
  obtain ⟨hvalues, hmembers, halike⟩ := ofJson_eq_ok_iff_givenBy
  have hkeys : (kindLast.map Prod.fst).Nodup := by decide
  have hgiven : (Row.primary "orders" "id").GivenBy (.object kindLast) :=
    .primaryObject (by simp [kindLast]) (by simp [kindLast]) (by simp [kindLast])
  have hrow := ((hvalues (.object kindLast) hkeys).1 _).2 hgiven
  refine ⟨hrow, ?_, halike _ _ _ hkeys trivial hgiven .primaryList, ?_⟩
  · refine (hmembers _ _ [("comment", .array [.object []]), ("foreign_table_name", .null)] kindLast
      hkeys (List.reverse_perm kindLast).symm ?_).1 hrow
    simp [kindField, Row.kind, Kind.fields]
  · refine (hvalues (.object (kindLast.eraseIdx 3)) ?_).2.2 fun row hrow => ?_
    · show List.Nodup ["foreign_table_name", "comment", "column_name", "key_type"]
      decide
    · have htable := (givenBy_object_iff.1 hrow).2
      cases row <;> simp [kindLast, Row.fields] at htable

end JoinPaths.Catalog
