import JoinPaths.Proofs.JoinGraph.ExplicitPath
import JoinPaths.Proofs.JoinGraph.Outcome
import JoinPaths.Proofs.Membership.Run

/-!
# What comes of naming tables

Names of tables can be at fault in several ways at once: there are too few of them, a name is
unknown or occurs a second time, a table does not lead to the one behind it. `NamesTo` says which
fault is reported, place by place and without any recursion. Too few names come first. Then the
first name decides that is unknown or stands before, wherever linkages are missing; and only if
there is none, the first table does that does not lead on.

1. Names have one of these faults or are those of a path (`exists_namesTo`): of two kinds of fault
   each, a list has none or there is a first one (`eq_append_of_not`).
2. Checking names goes through those before the first fault (`distinctNodes_append`), and looking
   for linkages through the tables before the first one that does not lead on
   (`hopsAlong_eq_unlinked`).
3. So what is named is what `NamesTo` says, and it is asked for with one call if it is a path and
   with none otherwise (`explicitPath_eq_iff_namesTo`).
-/

namespace JoinPaths

open Catalog (Row)

/-! ## First faults -/

/-- What holds of the empty list holds of a list, or there is a first item up to which it fails. -/
theorem eq_append_of_not {α : Type} {P : List α → Prop} (hnil : P []) {l : List α} (h : ¬ P l) :
    ∃ before a after, l = before ++ a :: after ∧ P before ∧ ¬ P (before ++ [a]) := by
  induction l using List.reverseRecOn with
  | nil => exact absurd hnil h
  | append_singleton l a ih =>
    by_cases hl : P l
    · exact ⟨l, a, [], rfl, hl, h⟩
    · obtain ⟨before, b, after, rfl, hbefore, hb⟩ := ih hl
      exact ⟨before, b, after ++ [a], by rw [List.append_assoc]; rfl, hbefore, hb⟩

namespace JoinGraph

variable {g : JoinGraph} {names before : List String} {name source target : String}

/-- Whether names are those of different tables. -/
structure AreDistinct (g : JoinGraph) (names : List String) : Prop where
  known : ∀ name ∈ names, name ∈ g.tableNames
  nodup : names.Nodup

/-- What comes of naming tables one by one. -/
inductive NamesTo (g : JoinGraph) (names : List String) : Except Error Path → Prop where
  /-- There are fewer than two names. -/
  | tooShort (hlen : names.length < 2) :
    NamesTo g names (.error (.invalidPath (.tooShort names.length)))
  /-- The first name at fault is unknown. -/
  | unknown {before after : List String} {name : String} (hlen : 2 ≤ names.length)
      (heq : names = before ++ name :: after) (hbefore : g.AreDistinct before)
      (hname : name ∉ g.tableNames) : NamesTo g names (.error (.unknownTable name))
  /-- The first name at fault stands before. -/
  | repeated {before after : List String} {name : String} (hlen : 2 ≤ names.length)
      (heq : names = before ++ name :: after) (hbefore : g.AreDistinct before)
      (hname : name ∈ before) : NamesTo g names (.error (.invalidPath (.repeated name)))
  /-- No name is at fault, and this is the first table that does not lead to the one behind it. -/
  | unlinked {before after : List String} {source target : String} (hnames : g.AreDistinct names)
      (heq : names = before ++ source :: target :: after)
      (hbefore : (before ++ [source]).IsChain fun a b => g.isLinked a b = true)
      (hlink : g.isLinked source target = false) :
    NamesTo g names (.error (.invalidPath (.unlinked source target)))
  /-- Every table leads to the one behind it: they are the tables of a path. -/
  | path {p : Path} (hlen : 2 ≤ names.length) (hnames : g.AreDistinct names)
      (hlinked : names.IsChain fun a b => g.isLinked a b = true) (heq : p.names = names)
      (hp : g.Carries p) : NamesTo g names (.ok p)

/-! ## Every list of names comes to something -/

theorem areDistinct_nil (g : JoinGraph) : g.AreDistinct [] :=
  ⟨fun _ hname => absurd hname List.not_mem_nil, .nil⟩

theorem AreDistinct.concat (h : g.AreDistinct before) (hname : name ∈ g.tableNames)
    (hnew : name ∉ before) : g.AreDistinct (before ++ [name]) := by
  refine ⟨fun a ha => ?_, List.nodup_append.2 ⟨h.nodup, List.nodup_singleton name, ?_⟩⟩
  · rcases List.mem_append.1 ha with ha | ha
    · exact h.known a ha
    · rwa [List.mem_singleton.1 ha]
  · rintro a ha b hb rfl
    rw [List.mem_singleton.1 hb] at ha
    exact hnew ha

/-- Different tables that lead on to one another are those of a path. -/
theorem AreDistinct.exists_carries (h : g.AreDistinct names) (hne : names ≠ [])
    (hlinked : names.IsChain fun a b => g.isLinked a b = true) :
    ∃ p, p.names = names ∧ g.Carries p := by
  obtain ⟨source, hs⟩ := Option.ne_none_iff_exists'.1 (mt List.head?_eq_none_iff.1 hne)
  obtain ⟨target, ht⟩ := Option.ne_none_iff_exists'.1 (mt List.getLast?_eq_none_iff.1 hne)
  have hchain : g.IsSimpleChain source target names := ⟨h.known, hs, ht, h.nodup, hlinked⟩
  exact hchain.exists_carries

theorem exists_namesTo (g : JoinGraph) (names : List String) : ∃ r, g.NamesTo names r := by
  by_cases hlen : names.length < 2
  · exact ⟨_, .tooShort hlen⟩
  have hlen := Nat.le_of_not_lt hlen
  by_cases hnames : g.AreDistinct names
  · by_cases hlinked : names.IsChain fun a b => g.isLinked a b = true
    · obtain ⟨p, heq, hp⟩ := hnames.exists_carries (by rintro rfl; cases hlen) hlinked
      exact ⟨_, .path hlen hnames hlinked heq hp⟩
    · obtain ⟨before, target, after, heq, hbefore, hnot⟩ := eq_append_of_not .nil hlinked
      rcases List.eq_nil_or_concat' before with rfl | ⟨before, source, rfl⟩
      · exact absurd (.singleton target) hnot
      · refine ⟨_, .unlinked hnames (heq.trans (List.append_assoc ..)) hbefore ?_⟩
        rw [Bool.eq_false_iff]
        intro hlink
        refine hnot (hbefore.append (.singleton target) fun a ha b hb => ?_)
        rw [List.getLast?_concat, Option.mem_some_iff] at ha
        rw [List.head?_cons, Option.mem_some_iff] at hb
        rwa [← ha, ← hb]
  · obtain ⟨before, name, after, heq, hbefore, hnot⟩ := eq_append_of_not g.areDistinct_nil hnames
    by_cases hname : name ∈ g.tableNames
    · by_cases hmem : name ∈ before
      · exact ⟨_, .repeated hlen heq hbefore hmem⟩
      · exact absurd (hbefore.concat hname hmem) hnot
    · exact ⟨_, .unknown hlen heq hbefore hname⟩

/-! ## Checking names -/

theorem AreDistinct.exists_nodes (h : g.AreDistinct names) :
    ∃ nodes : List (Fin g.tables.size), nodes.map (fun i => (g.tables.get i).name) = names ∧
      nodes.Nodup := by
  obtain ⟨nodes, rfl⟩ : names ∈ Set.range (List.map fun i => (g.tables.get i).name) := by
    rw [Set.range_list_map]
    exact fun name hname => mem_tableNames_iff.1 (h.known name hname)
  exact ⟨nodes, rfl, List.Nodup.of_map _ h.nodup⟩

/-- Names of different tables are gone through, and their nodes are seen behind them. -/
theorem distinctNodes_append {seen nodes : List (Fin g.tables.size)} (hnodup : nodes.Nodup)
    (hnew : ∀ i ∈ nodes, i ∉ seen) (names : List String) :
    g.distinctNodes seen (nodes.map (fun i => (g.tables.get i).name) ++ names) =
      (g.distinctNodes (nodes.reverse ++ seen) names).map (nodes ++ ·) := by
  induction nodes generalizing seen with
  | nil =>
    show g.distinctNodes seen names = (g.distinctNodes seen names).map ([] ++ ·)
    cases g.distinctNodes seen names <;> rfl
  | cons i nodes ih =>
    obtain ⟨hi, hnodup⟩ := List.nodup_cons.1 hnodup
    obtain ⟨hseen, hnew⟩ := List.forall_mem_cons.1 hnew
    have hbehind : ∀ j ∈ nodes, j ∉ i :: seen := by
      intro j hj hmem
      rcases List.mem_cons.1 hmem with rfl | hmem
      · exact hi hj
      · exact hnew j hj hmem
    rw [List.map_cons, List.cons_append, distinctNodes, node_name_get]
    dsimp only
    rw [if_neg hseen, ih hnodup hbehind, List.reverse_cons, List.append_assoc, List.singleton_append]
    cases g.distinctNodes (nodes.reverse ++ i :: seen) names <;> rfl

theorem distinctNodes_eq_unknown (hbefore : g.AreDistinct before) (hname : name ∉ g.tableNames)
    (after : List String) :
    g.distinctNodes [] (before ++ name :: after) = .error (.unknownTable name) := by
  obtain ⟨nodes, rfl, hnodup⟩ := hbefore.exists_nodes
  rw [distinctNodes_append hnodup fun _ _ => List.not_mem_nil, distinctNodes, node_eq_error hname]
  rfl

theorem distinctNodes_eq_repeated (hbefore : g.AreDistinct before) (hname : name ∈ before)
    (after : List String) :
    g.distinctNodes [] (before ++ name :: after) = .error (.invalidPath (.repeated name)) := by
  obtain ⟨nodes, rfl, hnodup⟩ := hbefore.exists_nodes
  obtain ⟨i, hi, rfl⟩ := List.mem_map.1 hname
  have hseen : i ∈ nodes.reverse ++ [] := List.mem_append_left _ (List.mem_reverse.2 hi)
  rw [distinctNodes_append hnodup fun _ _ => List.not_mem_nil, distinctNodes, node_name_get]
  dsimp only
  rw [if_pos hseen]
  rfl

/-! ## Looking for linkages -/

theorem hopsAlong_eq_unlinked {i : Fin g.tables.size} {nodes : List (Fin g.tables.size)}
    {after : List String}
    (heq : (i :: nodes).map (fun k => (g.tables.get k).name) = before ++ source :: target :: after)
    (hbefore : (before ++ [source]).IsChain fun a b => g.isLinked a b = true)
    (hlink : g.isLinked source target = false) :
    g.hopsAlong i nodes = .error (.invalidPath (.unlinked source target)) := by
  induction before generalizing i nodes with
  | nil =>
    obtain ⟨rfl, hbehind⟩ := List.cons.inj heq
    obtain ⟨j, nodes, rfl, rfl, -⟩ := List.map_eq_cons_iff.1 hbehind
    rw [isLinked_name_get, Option.isSome_eq_false_iff, Option.isNone_iff_eq_none] at hlink
    rw [hopsAlong, hlink]
  | cons name before ih =>
    rw [List.cons_append] at heq hbefore
    obtain ⟨rfl, hbehind⟩ := List.cons.inj heq
    obtain ⟨hfirst, hrest⟩ := List.isChain_cons.1 hbefore
    cases nodes with
    | nil => cases before <;> cases hbehind
    | cons j nodes =>
      have hhead : (before ++ [source]).head? = some (g.tables.get j).name := by
        have h := congrArg List.head? hbehind
        rw [List.head?_append] at h ⊢
        exact h.symm
      have hij := hfirst _ hhead
      rw [isLinked_name_get] at hij
      obtain ⟨l, hl⟩ := Option.isSome_iff_exists.1 hij
      rw [hopsAlong, hl]
      dsimp only
      rw [ih hbehind hrest]
      rfl

/-! ## Naming -/

/-- Names of which one is at fault are no path. -/
theorem explicitPath_eq_error (hlen : 2 ≤ names.length) {e : Error}
    (h : g.distinctNodes [] names = .error e) : g.explicitPath names = .error e := by
  match names, hlen with
  | first :: second :: rest, _ =>
    rw [distinctNodes_cons] at h
    unfold explicitPath
    dsimp only
    cases hi : g.node first with
    | error e' =>
      rw [hi] at h
      obtain rfl := Except.error.inj h
      rfl
    | ok i =>
      rw [hi] at h
      dsimp only [Except.bind] at h ⊢
      rw [map_eq_error_iff.1 h]

theorem explicitPath_eq_map (hlen : 2 ≤ names.length) {i : Fin g.tables.size}
    {nodes : List (Fin g.tables.size)} (h : g.distinctNodes [] names = .ok (i :: nodes)) :
    g.explicitPath names = (g.hopsAlong i nodes).map fun hops => ⟨g.tables.get i, hops⟩ := by
  match names, hlen with
  | first :: second :: rest, _ =>
    rw [distinctNodes_cons] at h
    obtain ⟨j, hj, h⟩ := bind_eq_ok_iff.1 h
    obtain ⟨nodes', hnodes, heq⟩ := map_eq_ok_iff.1 h
    obtain ⟨rfl, rfl⟩ := List.cons.inj heq
    unfold explicitPath
    dsimp only
    rw [hj]
    dsimp only [Except.bind]
    rw [hnodes]

theorem explicitPath_of_namesTo {r : Except Error Path} (h : g.NamesTo names r) :
    g.explicitPath names = r := by
  cases h with
  | tooShort hlen =>
    match names, hlen with
    | [], _ => rfl
    | [_], _ => rfl
  | unknown hlen heq hbefore hname =>
    refine explicitPath_eq_error hlen ?_
    rw [heq, distinctNodes_eq_unknown hbefore hname]
  | repeated hlen heq hbefore hname =>
    refine explicitPath_eq_error hlen ?_
    rw [heq, distinctNodes_eq_repeated hbefore hname]
  | unlinked hnames heq hbefore hlink =>
    obtain ⟨nodes, hnodes, hnodup⟩ := hnames.exists_nodes
    have hdistinct : g.distinctNodes [] names = .ok nodes :=
      distinctNodes_eq_ok_iff.2 ⟨hnodes, hnodup, fun _ _ => List.not_mem_nil⟩
    rw [heq] at hnodes
    cases nodes with
    | nil => exact absurd hnodes.symm (by simp)
    | cons i nodes =>
      have hlen : 2 ≤ names.length := by
        rw [heq, List.length_append, List.length_cons, List.length_cons]
        omega
      rw [explicitPath_eq_map hlen hdistinct, hopsAlong_eq_unlinked hnodes hbefore hlink]
      rfl
  | path hlen hnames _ heq hp =>
    exact explicitPath_eq_ok_iff.2 ⟨hlen, heq, hnames.nodup, hp⟩

/-- Naming tables comes to one thing, that which is said place by place, and an error of names tells
how many there are, which table is named twice or which two are not linked. What is no path is not
asked for, and a path is asked for with one call. -/
theorem explicitPath_eq_iff_namesTo (g : JoinGraph) (names : List String) :
    (∀ r, g.explicitPath names = r ↔ g.NamesTo names r) ∧
    (∀ count, (Error.invalidPath (.tooShort count)).message =
      "Invalid join path: expected at least two tables, got " ++ Nat.repr count) ∧
    (∀ table, (Error.invalidPath (.repeated table)).message =
      "Invalid join path: table `" ++ table ++ "` appears more than once") ∧
    (∀ source target, (Error.invalidPath (.unlinked source target)).message =
      "Invalid join path: no foreign key links `" ++ source ++ "` to `" ++ target ++ "`") ∧
    ∀ executor sourceKey targetKey,
      match g.explicitPath names with
      | .error e => g.belongsToVia executor names sourceKey targetKey = ⟨[], .error e⟩
      | .ok p => ∃ q, p.query g.schema = .ok q ∧
          g.belongsToVia executor names sourceKey targetKey =
            ⟨[q.call sourceKey targetKey], executor.ask [] (q.call sourceKey targetKey)⟩ := by
  refine ⟨fun r => ⟨?_, explicitPath_of_namesTo⟩, fun count => ?_, fun table => ?_,
    fun source target => ?_, fun executor sourceKey targetKey => ?_⟩
  · rintro rfl
    obtain ⟨r, hr⟩ := g.exists_namesTo names
    rwa [explicitPath_of_namesTo hr]
  · show "Invalid join path: " ++ ("expected at least two tables, got " ++ Nat.repr count) = _
    simp [← String.append_assoc]
  · show "Invalid join path: " ++ ("table `" ++ table ++ "` appears more than once") = _
    simp [← String.append_assoc]
  · show "Invalid join path: " ++
      ("no foreign key links `" ++ source ++ "` to `" ++ target ++ "`") = _
    simp [← String.append_assoc]
  · cases hpath : g.explicitPath names with
    | error e => exact belongsToVia_eq_error hpath
    | ok p =>
      have htrivial := isTrivial_of_explicitPath hpath
      exact ⟨_, Path.query_eq_ok g.schema htrivial, belongsToVia_eq hpath htrivial⟩

/-- Three tables, the first of which refers to the second. -/
def oneWayRows : List Row :=
  [.primary "a" "id", .primary "b" "id", .primary "c" "id", .foreign "a" "x" "b" "id"]

/-- Of names with several faults the first one at fault decides, and a linkage that is missing only
if no name is at fault. -/
theorem explicitPath_of_oneWayRows :
    ∃ g, ofRows oneWayRows "s" true = .ok g ∧
      g.explicitPath ["z"] = .error (.invalidPath (.tooShort 1)) ∧
      g.explicitPath ["c", "z", "c"] = .error (.unknownTable "z") ∧
      g.explicitPath ["c", "a", "c", "z"] = .error (.invalidPath (.repeated "c")) ∧
      g.explicitPath ["a", "b", "c"] = .error (.invalidPath (.unlinked "b" "c")) ∧
      (∃ p, g.explicitPath ["a", "b"] = .ok p ∧ p.linkages = [⟨"x", "id"⟩]) ∧
      ∀ executor, (g.belongsToVia executor ["a", "b", "c"] "1" "2").calls = [] ∧
        (g.belongsToVia executor ["a", "b"] "1" "2").calls.length = 1 := by
  obtain ⟨g, hg⟩ := exists_ofRows oneWayRows "s" true (by decide) (by decide)
  have hknown : ∀ name ∈ ["a", "b", "c"], name ∈ g.tableNames := by
    intro name hname
    refine (mem_tableNames_ofRows hg).2 ⟨"id", ?_⟩
    revert name
    decide
  have hunknown : "z" ∉ g.tableNames := by
    rw [mem_tableNames_ofRows hg]
    simp [oneWayRows]
  have hab : g.linkage? "a" "b" = .ok (some ⟨"x", "id"⟩) := by
    rw [linkage?_ofRows hg (hknown _ (by decide)) (hknown _ (by decide))]
    rfl
  have hbc : g.isLinked "b" "c" = false := by
    rw [Bool.eq_false_iff, ne_eq, isLinked_ofRows hg]
    decide
  have hdistinct : ∀ names : List String, names ⊆ ["a", "b", "c"] → names.Nodup →
      g.AreDistinct names := fun names hsub hnodup =>
    ⟨fun name hname => hknown name (hsub hname), hnodup⟩
  have hchain : ["a", "b"].IsChain fun a b => g.isLinked a b = true :=
    .cons_cons (isLinked_iff.2 ⟨_, hab⟩) (.singleton _)
  have hp : g.NamesTo ["a", "b"] (.ok ⟨⟨"a", "id"⟩, [(⟨"x", "id"⟩, ⟨"b", "id"⟩)]⟩) :=
    .path (by decide) (hdistinct _ (by decide) (by decide)) hchain rfl (carries_cons_iff.2
      ⟨table?_ofRows hg (by decide), hab, carries_nil_iff.2 (table?_ofRows hg (by decide))⟩)
  obtain ⟨hshort, -⟩ := explicitPath_eq_iff_namesTo g ["z"]
  obtain ⟨hunknown', -⟩ := explicitPath_eq_iff_namesTo g ["c", "z", "c"]
  obtain ⟨hrepeated, -⟩ := explicitPath_eq_iff_namesTo g ["c", "a", "c", "z"]
  obtain ⟨hunlinked, -, -, -, hnone⟩ := explicitPath_eq_iff_namesTo g ["a", "b", "c"]
  obtain ⟨hpath, -, -, -, hone⟩ := explicitPath_eq_iff_namesTo g ["a", "b"]
  have hfail := (hunlinked _).2 (.unlinked (hdistinct _ (List.Subset.refl _) (by decide))
    (show ["a", "b", "c"] = ["a"] ++ "b" :: "c" :: [] from rfl) hchain hbc)
  have hfound := (hpath _).2 hp
  refine ⟨g, hg, (hshort _).2 (.tooShort (by decide)), (hunknown' _).2 ?_, (hrepeated _).2 ?_,
    hfail, ⟨_, hfound, rfl⟩, fun executor => ⟨?_, ?_⟩⟩
  · exact .unknown (by decide) (show ["c", "z", "c"] = ["c"] ++ "z" :: ["c"] from rfl)
      (hdistinct _ (by decide) (by decide)) hunknown
  · exact .repeated (by decide) (show ["c", "a", "c", "z"] = ["c", "a"] ++ "c" :: ["z"] from rfl)
      (hdistinct _ (by decide) (by decide)) (by decide)
  · have hcalls := hnone executor "1" "2"
    rw [hfail] at hcalls
    rw [hcalls]
  · have hcalls := hone executor "1" "2"
    rw [hfound] at hcalls
    obtain ⟨q, -, hcalls⟩ := hcalls
    rw [hcalls]
    rfl

end JoinGraph

end JoinPaths
