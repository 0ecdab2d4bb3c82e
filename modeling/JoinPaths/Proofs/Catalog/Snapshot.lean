import JoinPaths.Catalog.Snapshot
import JoinPaths.Proofs.Json.Reader

/-!
# Snapshots are read as their values are decoded

The text of a snapshot is gone through once, while a live catalog hands over values that have been
read already. On the compact text of exact values both come to the same: to the same rows, or to the
same mismatch of the first value that is no row (`parseRows_compact`).

1. Of the value under the kind of a row no more is read than its beginning. That is enough: only a
   string can be a kind, and a string is read as a whole (`scanOpening_text`).
2. A member is added to a draft as it is read, and the kind is looked at as soon as it is there. As
   the decoder goes through the members in the same order, it stops at the same member
   (`Draft.scanMembers_membersText`).
3. All that is found out later is found out from the same members or items (`scanRow_text`).
-/

namespace JoinPaths.Catalog

open Json

variable {α : Type} {text rest : List Char} {depth : Nat} {v : Json} {items : List Json}
  {members : List (String × Json)} {d d' : Draft}

/-- Whether a reader of rows ends as a decoder does: it gives the same and leaves this rest, or it
stops because of the same mismatch. -/
def Settles (r : Except Problem (Scan α text)) (x : Except Mismatch α) (rest : List Char) : Prop :=
  match x with
  | .ok a => Gives r a rest
  | .error m => r = .error (.mismatch m)

theorem gives_of_eq_ok {ε : Type} {r : Except ε (Scan α text)} {s : Scan α text} (hr : r = .ok s)
    (h : s.rest = rest) : Gives r s.value rest := by
  obtain ⟨a, rest', le⟩ := s
  obtain rfl : rest' = rest := h
  exact ⟨le, hr⟩

/-! ## The beginning of a value -/

theorem scanOpening_array (rest : List Char) :
    ∃ lt, scanOpening ('[' :: rest) = .ok (.array rest lt) := by
  unfold scanOpening
  split
  · next h =>
    obtain ⟨-, rfl⟩ := skipBlanks_eq_cons (by decide) h
    exact ⟨Nat.lt_succ_self _, rfl⟩
  · next h => exact absurd (skipBlanks_eq_cons (by decide) h).1 (by decide)
  · next h _ => exact absurd (skipBlanks_of_not_isBlank rest (by decide)) (h rest)

theorem scanOpening_object (rest : List Char) :
    ∃ lt, scanOpening ('\x7b' :: rest) = .ok (.object rest lt) := by
  unfold scanOpening
  split
  · next h => exact absurd (skipBlanks_eq_cons (by decide) h).1 (by decide)
  · next h =>
    obtain ⟨-, rfl⟩ := skipBlanks_eq_cons (by decide) h
    exact ⟨Nat.lt_succ_self _, rfl⟩
  · next _ h => exact absurd (skipBlanks_of_not_isBlank rest (by decide)) (h rest)

theorem scanOpening_scalar (hv : ReadsAs 0 v.text v) (hrest : Delimited rest) :
    ∃ le, scanOpening (v.text ++ rest) = .ok (.scalar ⟨v, rest, le⟩) := by
  obtain ⟨le, hscan⟩ := hv rest hrest
  unfold scanOpening
  split
  · next h =>
    rw [scanValue_zero_opening h (.inl rfl)] at hscan
    cases hscan
  · next h =>
    rw [scanValue_zero_opening h (.inr rfl)] at hscan
    cases hscan
  · rw [hscan]
    exact ⟨le, rfl⟩

theorem exact_cases (h : IsExact depth v) :
    (∃ items, v = .array items) ∨ (∃ members, v = .object members) ∨
      IsExact 0 v ∧ v.shape ≠ .sequence ∧ v.shape ≠ .map := by
  cases h with
  | null => exact .inr (.inr ⟨.null, nofun, nofun⟩)
  | bool b => exact .inr (.inr ⟨.bool b, nofun, nofun⟩)
  | integer hmin hmax => exact .inr (.inr ⟨.integer hmin hmax, nofun, nofun⟩)
  | string s => exact .inr (.inr ⟨.string s, nofun, nofun⟩)
  | array _ => exact .inl ⟨_, rfl⟩
  | object _ _ => exact .inr (.inl ⟨_, rfl⟩)

/-- The beginning of a value tells its shape, and a string is read up to its end. -/
theorem scanOpening_text (hv : IsExact depth v) (hrest : Delimited rest) :
    ∃ o, scanOpening (v.text ++ rest) = .ok o ∧ o.shape = v.shape ∧
      ∀ s, v = .string s → o.rest = rest := by
  rcases exact_cases hv with ⟨items, rfl⟩ | ⟨members, rfl⟩ | ⟨hscalar, -, -⟩
  · rw [text_array_append]
    obtain ⟨lt, ho⟩ := scanOpening_array (itemsText items ++ ']' :: rest)
    exact ⟨_, ho, rfl, nofun⟩
  · rw [text_object_append]
    obtain ⟨lt, ho⟩ := scanOpening_object (membersText members ++ '\x7d' :: rest)
    exact ⟨_, ho, rfl, nofun⟩
  · obtain ⟨le, ho⟩ := scanOpening_scalar hscalar.readsAs hrest
    exact ⟨_, ho, rfl, fun _ _ => rfl⟩

theorem eq_string_of_ofShape {kind : Kind} (h : Kind.ofShape v.shape = .ok kind) :
    ∃ s, v = .string s := by
  cases v with
  | string s => exact ⟨s, rfl⟩
  | null | bool _ | integer _ | double _ | array _ | object _ => cases h

/-! ## Members -/

/-- Whether a key is the one of the kind, and the draft has a kind already. -/
abbrev Draft.Repeats (d : Draft) (key : String) : Prop :=
  key = kindField ∧ d.kind.isSome = true

theorem eq_string_of_setKind (h : d.setKind v.shape = .ok d') : ∃ s, v = .string s := by
  unfold Draft.setKind at h
  split at h
  · cases h
  · obtain ⟨kind, hkind, -⟩ := map_eq_ok_iff.1 h
    exact eq_string_of_ofShape hkind

theorem Draft.add_of_repeats {key : String} (h : d.Repeats key) (v : Json) :
    d.add key v = .error (.duplicateField kindField) := by
  obtain ⟨rfl, hkind⟩ := h
  obtain ⟨kind, hkind⟩ := Option.isSome_iff_exists.1 hkind
  rw [Draft.add, if_pos rfl, Draft.setKind, hkind]

theorem Draft.scanMember_text (d : Draft) (key : String) (hv : IsExact fieldDepth v)
    (hrest : Delimited rest) :
    Settles (d.scanMember key (v.text ++ rest)) (d.add key v) rest := by
  unfold Draft.scanMember Draft.add
  by_cases hkey : key = kindField
  · rw [if_pos hkey, if_pos hkey]
    obtain ⟨o, ho, hshape, hstring⟩ := scanOpening_text hv hrest
    rw [ho]
    dsimp only
    rw [hshape]
    cases hset : d.setKind v.shape with
    | error m => rfl
    | ok d' =>
      obtain ⟨s, hs⟩ := eq_string_of_setKind hset
      exact gives_of_eq_ok rfl (hstring s hs)
  · rw [if_neg hkey, if_neg hkey]
    obtain ⟨le, hscan⟩ := hv.readsAs rest hrest
    rw [hscan]
    exact ⟨le, rfl⟩

theorem Draft.scanMembers_repeated {key : String} {afterName : List Char}
    (hname : scanName text = .ok (key, afterName)) (h : d.Repeats key) :
    d.scanMembers text = .error (.mismatch (.duplicateField kindField)) := by
  unfold Draft.scanMembers
  split
  · next he =>
    rw [hname] at he
    cases he
  · next hr =>
    rw [hname] at hr
    obtain ⟨rfl, rfl⟩ := Prod.mk.inj (Except.ok.inj hr)
    exact if_pos h

/-- What becomes of the members once the first one has been read: it is refused, it is the last one
or others come behind it. -/
theorem Draft.scanMembers_of_scanMember {key : String} {afterName afterColon : List Char}
    (hname : scanName text = .ok (key, afterName)) (hcolon : skipColon afterName = .ok afterColon)
    (hnew : ¬ d.Repeats key) :
    (∀ p, d.scanMember key afterColon = .error p → d.scanMembers text = .error p) ∧
      (∀ d' rest, Gives (d.scanMember key afterColon) d' ('\x7d' :: rest) →
        Gives (d.scanMembers text) d' rest) ∧
      ∀ d' middle x rest, Gives (d.scanMember key afterColon) d' (',' :: middle) →
        Settles (d'.scanMembers middle) x rest → Settles (d.scanMembers text) x rest := by
  -- only the outer reading is unfolded, not that of the members behind the first one
  generalize hr : d.scanMembers text = r
  unfold Draft.scanMembers at hr
  split at hr
  · next he =>
    rw [hname] at he
    cases he
  · next hkey =>
    rw [hname] at hkey
    obtain ⟨rfl, rfl⟩ := Prod.mk.inj (Except.ok.inj hkey)
    rw [if_neg hnew] at hr
    split at hr
    · next he =>
      rw [hcolon] at he
      cases he
    · next hbehind =>
      rw [hcolon] at hbehind
      obtain rfl := Except.ok.inj hbehind
      subst hr
      refine ⟨?_, ?_, ?_⟩
      · intro p hmember
        rw [hmember]
      · rintro d' rest ⟨le, hmember⟩
        rw [hmember]
        dsimp only
        split
        · next hnil => cases hnil
        · next hcons =>
          obtain ⟨rfl, rfl⟩ := skipBlanks_eq_cons (by decide) hcons
          rw [if_pos rfl]
          exact ⟨_, rfl⟩
      · rintro d' middle x rest ⟨le, hmember⟩ hrest
        rw [hmember]
        dsimp only
        split
        · next hnil => cases hnil
        · next hcons =>
          obtain ⟨rfl, rfl⟩ := skipBlanks_eq_cons (by decide) hcons
          rw [if_neg (by decide), if_pos rfl]
          cases x with
          | error m =>
            rw [show d'.scanMembers _ = _ from hrest]
            rfl
          | ok a =>
            obtain ⟨le', hrest⟩ := hrest
            rw [hrest]
            exact ⟨_, rfl⟩

theorem addAll_cons_of_error {key : String} {m : Mismatch} (h : d.add key v = .error m)
    (members : List (String × Json)) : d.addAll ((key, v) :: members) = .error m := by
  rw [Draft.addAll, h]

theorem addAll_cons_of_ok {key : String} (h : d.add key v = .ok d')
    (members : List (String × Json)) : d.addAll ((key, v) :: members) = d'.addAll members := by
  rw [Draft.addAll, h]

theorem membersText_append (key : String) (v : Json) (members : List (String × Json))
    (rest : List Char) :
    membersText ((key, v) :: members) ++ '\x7d' :: rest =
      stringText key ++ ':' :: (v.text ++ (membersRestText members ++ '\x7d' :: rest)) := by
  rw [membersText_cons, List.append_assoc, List.cons_append, List.append_assoc]

/-- The first member ends the reading if it is refused; otherwise all depends on what comes behind
it. -/
theorem Draft.scanMembers_stringText (d : Draft) (key : String) {behind : List Char}
    (hv : IsExact fieldDepth v) (hbehind : Delimited behind)
    (hnext : ∀ d', ¬ d.Repeats key → Gives (d.scanMember key (v.text ++ behind)) d' behind →
      Settles (d.scanMembers (stringText key ++ ':' :: (v.text ++ behind))) (d'.addAll members)
        rest) :
    Settles (d.scanMembers (stringText key ++ ':' :: (v.text ++ behind)))
      (d.addAll ((key, v) :: members)) rest := by
  by_cases hnew : d.Repeats key
  · rw [addAll_cons_of_error (d.add_of_repeats hnew v)]
    exact d.scanMembers_repeated (scanName_stringText key _) hnew
  · have hmember := d.scanMember_text key hv hbehind
    cases hadd : d.add key v with
    | error m =>
      rw [hadd] at hmember
      rw [addAll_cons_of_error hadd]
      exact (d.scanMembers_of_scanMember (scanName_stringText key _) (skipColon_cons _) hnew).1 _
        hmember
    | ok d' =>
      rw [hadd] at hmember
      rw [addAll_cons_of_ok hadd]
      exact hnext d' hnew hmember

theorem Draft.scanMembers_membersText (d : Draft) {m : String × Json} (hv : IsExact fieldDepth m.2)
    (hmembers : ∀ m ∈ members, IsExact fieldDepth m.2) :
    Settles (d.scanMembers (membersText (m :: members) ++ '\x7d' :: rest)) (d.addAll (m :: members))
      rest := by
  induction members generalizing d m with
  | nil =>
    obtain ⟨key, v⟩ := m
    rw [membersText_append]
    refine d.scanMembers_stringText key hv (delimited_membersRestText [] rest)
      fun d' hnew hmember => ?_
    exact (d.scanMembers_of_scanMember (scanName_stringText key _) (skipColon_cons _) hnew).2.1
      d' rest hmember
  | cons m' members ih =>
    obtain ⟨key, v⟩ := m
    rw [membersText_append]
    refine d.scanMembers_stringText key hv (delimited_membersRestText (m' :: members) rest)
      fun d' hnew hmember => ?_
    have hrest := ih d' (hmembers m' List.mem_cons_self) fun u hu =>
      hmembers u (List.mem_cons_of_mem m' hu)
    rw [membersRestText_cons] at hmember ⊢
    exact (d.scanMembers_of_scanMember (scanName_stringText key _) (skipColon_cons _) hnew).2.2
      d' _ _ rest hmember hrest

theorem scanDraft_membersText (hmembers : ∀ m ∈ members, IsExact fieldDepth m.2) :
    Settles (scanDraft (membersText members ++ '\x7d' :: rest)) (Draft.empty.addAll members)
      rest := by
  cases members with
  | nil =>
    show Gives (scanDraft ('\x7d' :: rest)) Draft.empty rest
    unfold scanDraft
    split
    · next h =>
      obtain ⟨-, rfl⟩ := skipBlanks_eq_cons (by decide) h
      exact ⟨_, rfl⟩
    · next h => exact absurd (skipBlanks_of_not_isBlank rest (by decide)) (h rest)
  | cons m members =>
    unfold scanDraft
    split
    · next h =>
      -- a key would begin with the closing bracket
      rw [membersText_append, stringText_append, skipBlanks_of_not_isBlank _ (by decide)] at h
      cases h
    · exact Draft.empty.scanMembers_membersText (hmembers m List.mem_cons_self) fun u hu =>
        hmembers u (List.mem_cons_of_mem m hu)

/-! ## Rows -/

theorem scanObjectRow_membersText (hmembers : ∀ m ∈ members, IsExact fieldDepth m.2) :
    Settles (scanObjectRow (membersText members ++ '\x7d' :: rest)) (Row.ofJson (.object members))
      rest := by
  have hdraft : Settles (scanDraft (membersText members ++ '\x7d' :: rest))
      (Draft.empty.addAll members) rest := scanDraft_membersText hmembers
  show Settles _ ((Draft.empty.addAll members).bind Draft.row) rest
  unfold scanObjectRow
  cases hadd : Draft.empty.addAll members with
  | error m =>
    rw [hadd] at hdraft
    rw [show scanDraft _ = _ from hdraft]
    rfl
  | ok d =>
    rw [hadd] at hdraft
    obtain ⟨le, hdraft⟩ := hdraft
    rw [hdraft]
    show Settles _ d.row rest
    dsimp only
    cases d.row with
    | error m => rfl
    | ok row => exact ⟨le, rfl⟩

theorem scanFields_itemsRestText (hitems : ∀ w ∈ items, IsExact fieldDepth w) :
    Gives (scanFields (itemsRestText items ++ ']' :: rest)) items rest := by
  cases items with
  | nil =>
    show Gives (scanFields (']' :: rest)) [] rest
    unfold scanFields
    split
    · next h => cases h
    · next h =>
      obtain ⟨-, rfl⟩ := skipBlanks_eq_cons (by decide) h
      exact ⟨_, rfl⟩
    · next h => exact absurd (skipBlanks_eq_cons (by decide) h).1 (by decide)
    · next _ h _ => exact absurd (skipBlanks_of_not_isBlank rest (by decide)) (h rest)
  | cons v items =>
    have hscan : Gives (scanItems fieldDepth (itemsText (v :: items) ++ ']' :: rest)) (v :: items)
        rest := by
      rw [itemsText_eq]
      exact scanItems_intercalate (List.forall₂_map_left_iff.2 (List.forall₂_same.2 fun w hw =>
        (hitems w hw).readsAs)) (List.cons_ne_nil _ _)
    rw [itemsRestText_cons, List.cons_append]
    unfold scanFields
    split
    · next h => cases h
    · next h => exact absurd (skipBlanks_eq_cons (by decide) h).1 (by decide)
    · next h =>
      obtain ⟨-, rfl⟩ := skipBlanks_eq_cons (by decide) h
      obtain ⟨le, hscan⟩ := hscan
      rw [hscan]
      exact ⟨_, rfl⟩
    · next h => exact absurd (skipBlanks_of_not_isBlank _ (by decide)) (h _)

/-- A kind that is a string is read as a whole, and then the fields behind it are. -/
theorem scanArrayRow_itemsText (hitems : ∀ w ∈ items, IsExact fieldDepth w) :
    Settles (scanArrayRow (itemsText items ++ ']' :: rest)) (Row.ofJson (.array items)) rest := by
  cases items with
  | nil =>
    show scanArrayRow (']' :: rest) = _
    unfold scanArrayRow
    rw [skipBlanks_of_not_isBlank rest (by decide)]
    rfl
  | cons tag items =>
    have htag := hitems tag List.mem_cons_self
    obtain ⟨o, ho, hshape, hstring⟩ := scanOpening_text htag (delimited_itemsRestText items rest)
    show Settles _ ((Kind.ofShape tag.shape).bind fun kind => kind.ofItems items) rest
    rw [itemsText, List.append_assoc]
    unfold scanArrayRow
    split
    · next h =>
      -- the kind would begin with the closing bracket
      obtain ⟨le, hscan⟩ := htag.readsAs _ (delimited_itemsRestText items rest)
      rw [scanValue_closing h] at hscan
      cases hscan
    · rw [ho]
      dsimp only
      rw [hshape]
      cases hkind : Kind.ofShape tag.shape with
      | error m => rfl
      | ok kind =>
        obtain ⟨s, rfl⟩ := eq_string_of_ofShape hkind
        have hfields : Gives (scanFields o.rest) items rest := by
          rw [hstring s rfl]
          exact scanFields_itemsRestText fun w hw => hitems w (List.mem_cons_of_mem _ hw)
        obtain ⟨le, hfields⟩ := hfields
        dsimp only
        rw [hfields]
        show Settles _ (kind.ofItems items) rest
        dsimp only
        cases kind.ofItems items with
        | error m => rfl
        | ok row => exact ⟨_, rfl⟩

theorem Settles.within {r : Except Problem (Scan α rest)} {x : Except Mismatch α}
    {rest' : List Char} (h : Settles r x rest') (lt : rest.length < text.length) :
    Settles (r.map fun s => s.within lt) x rest' := by
  cases x with
  | error m =>
    rw [show r = _ from h]
    rfl
  | ok a =>
    obtain ⟨le, rfl⟩ := h
    exact ⟨_, rfl⟩

/-- A row is read as its value is decoded. -/
theorem scanRow_text (hv : IsExact (fieldDepth + 1) v) (hrest : Delimited rest) :
    Settles (scanRow (v.text ++ rest)) (Row.ofJson v) rest := by
  unfold scanRow
  cases hv with
  | array hitems =>
    rw [text_array_append]
    obtain ⟨lt, ho⟩ := scanOpening_array (itemsText _ ++ ']' :: rest)
    rw [ho]
    exact (scanArrayRow_itemsText hitems).within lt
  | object _ hmembers =>
    rw [text_object_append]
    obtain ⟨lt, ho⟩ := scanOpening_object (membersText _ ++ '\x7d' :: rest)
    rw [ho]
    exact (scanObjectRow_membersText hmembers).within lt
  | null =>
    obtain ⟨le, ho⟩ := scanOpening_scalar IsExact.null.readsAs hrest
    rw [ho]
    rfl
  | bool b =>
    obtain ⟨le, ho⟩ := scanOpening_scalar (IsExact.bool b).readsAs hrest
    rw [ho]
    rfl
  | integer hmin hmax =>
    obtain ⟨le, ho⟩ := scanOpening_scalar (IsExact.integer hmin hmax).readsAs hrest
    rw [ho]
    rfl
  | string s =>
    obtain ⟨le, ho⟩ := scanOpening_scalar (IsExact.string s).readsAs hrest
    rw [ho]
    rfl

/-! ## Snapshots -/

theorem scanRows_last {row : Row} (h : Gives (scanRow text) row (']' :: rest)) :
    scanRows text = .ok ([row], rest) := by
  obtain ⟨le, h⟩ := h
  unfold scanRows
  rw [h]
  dsimp only
  split
  · next hnil => cases hnil
  · next hcons =>
    obtain ⟨-, rfl⟩ := skipBlanks_eq_cons (by decide) hcons
    rfl
  · next hcons => exact absurd (skipBlanks_eq_cons (by decide) hcons).1 (by decide)
  · next _ hother _ => exact absurd (skipBlanks_of_not_isBlank rest (by decide)) (hother rest)

theorem scanRows_more {row : Row} {middle : List Char}
    (h : Gives (scanRow text) row (',' :: middle)) :
    scanRows text = (scanRows middle).map fun (rows, rest) => (row :: rows, rest) := by
  obtain ⟨le, h⟩ := h
  -- only the outer reading is unfolded, not that of the rows behind the first one
  generalize hrows : scanRows middle = r
  unfold scanRows
  rw [h]
  dsimp only
  split
  · next hnil => cases hnil
  · next hcons => exact absurd (skipBlanks_eq_cons (by decide) hcons).1 (by decide)
  · next hcons =>
    obtain ⟨-, rfl⟩ := skipBlanks_eq_cons (by decide) hcons
    rw [← hrows]
  · next _ _ hother => exact absurd (skipBlanks_of_not_isBlank middle (by decide)) (hother middle)

theorem scanRows_refused {p : Problem} (h : scanRow text = .error p) :
    scanRows text = .error p := by
  unfold scanRows
  rw [h]

theorem scanRows_itemsText (hv : IsExact (fieldDepth + 1) v)
    (hitems : ∀ w ∈ items, IsExact (fieldDepth + 1) w) :
    scanRows (itemsText (v :: items) ++ ']' :: rest) =
      ((Row.ofJsonAll (v :: items)).mapError .mismatch).map fun rows => (rows, rest) := by
  induction items generalizing v with
  | nil =>
    have hrow := scanRow_text hv (delimited_itemsRestText [] rest)
    rw [itemsText, List.append_assoc, Row.ofJsonAll]
    cases hjson : Row.ofJson v with
    | error m =>
      rw [hjson] at hrow
      exact scanRows_refused hrow
    | ok row =>
      rw [hjson] at hrow
      exact scanRows_last hrow
  | cons w items ih =>
    have hrow := scanRow_text hv (delimited_itemsRestText (w :: items) rest)
    have hrest := ih (hitems w List.mem_cons_self) fun u hu => hitems u (List.mem_cons_of_mem w hu)
    rw [itemsText, List.append_assoc, Row.ofJsonAll]
    rw [itemsRestText_cons] at hrow ⊢
    cases hjson : Row.ofJson v with
    | error m =>
      rw [hjson] at hrow
      exact scanRows_refused hrow
    | ok row =>
      rw [hjson] at hrow
      rw [scanRows_more hrow]
      show (scanRows (itemsText (w :: items) ++ ']' :: rest)).map _ = _
      rw [hrest]
      cases Row.ofJsonAll (w :: items) with
      | error m => rfl
      | ok rows => rfl

theorem scanList_itemsText (hitems : ∀ w ∈ items, IsExact (fieldDepth + 1) w) :
    scanList (itemsText items ++ ']' :: rest) =
      ((Row.ofJsonAll items).mapError .mismatch).map fun rows => (rows, rest) := by
  cases items with
  | nil =>
    show scanList (']' :: rest) = .ok ([], rest)
    unfold scanList
    rw [skipBlanks_of_not_isBlank rest (by decide)]
    rfl
  | cons v items =>
    have hv := hitems v List.mem_cons_self
    unfold scanList
    split
    · next h =>
      -- a row would begin with the closing bracket
      obtain ⟨le, hscan⟩ := hv.readsAs _ (delimited_itemsRestText items rest)
      rw [itemsText, List.append_assoc] at h
      rw [scanValue_closing h] at hscan
      cases hscan
    · exact scanRows_itemsText hv fun w hw => hitems w (List.mem_cons_of_mem v hw)

/-- The compact text of a list of exact values is read as the values are decoded. -/
theorem parseRows_compact (h : IsExact Json.maxDepth (.array items)) :
    parseRows (Json.compact (.array items)) = (Row.ofJsonAll items).mapError .mismatch := by
  cases h with
  | array hitems =>
    have htext : '[' :: (itemsText items ++ ']' :: []) = (Json.compact (.array items)).toList := by
      rw [Json.compact, String.toList_ofList, ← text_array_append, List.append_nil]
    have ho := scanOpening_array (itemsText items ++ ']' :: [])
    rw [htext] at ho
    obtain ⟨lt, ho⟩ := ho
    unfold parseRows
    rw [ho]
    dsimp only
    rw [scanList_itemsText hitems]
    cases Row.ofJsonAll items with
    | error m => rfl
    | ok rows => rfl

end JoinPaths.Catalog
