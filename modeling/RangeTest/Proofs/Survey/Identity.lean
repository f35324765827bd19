import Mathlib.Data.List.Nodup
import RangeTest.Proofs.Survey.Extension

namespace RangeTest

/-- No two addresses have the same node id. -/
def NodeTable.UniqueIds (t : NodeTable) : Prop :=
  ∀ ⦃address other info known⦄, t.get? address = some info → t.get? other = some known →
    info.id = known.id → address = other

theorem NodeTable.sharedId?_eq_none_iff {entries : List (String × NodeInfo)} :
    sharedId? entries = none ↔ (entries.map (·.2.id)).Nodup := by
  induction entries with
  | nil => simp [sharedId?]
  | cons entry rest ih =>
    obtain ⟨address, info⟩ := entry
    rw [List.map_cons, List.nodup_cons, ← ih, sharedId?]
    cases found : rest.find? (·.2.id == info.id) with
    | none =>
      have fresh : info.id ∉ rest.map (·.2.id) := by simpa using found
      exact ⟨fun none => ⟨fresh, none⟩, fun both => both.2⟩
    | some other =>
      have same : other.2.id = info.id := by simpa using List.find?_some found
      have used : info.id ∈ rest.map (·.2.id) :=
        List.mem_map.2 ⟨other, List.mem_of_find?_eq_some found, same⟩
      exact ⟨nofun, fun both => absurd used both.1⟩

theorem NodeTable.uniqueIds_of_nodup {t : NodeTable} (distinct : (t.entries.map (·.2.id)).Nodup) :
    t.UniqueIds := by
  intro address other info known atAddress atOther same
  obtain ⟨entry, found, rfl⟩ := Option.map_eq_some_iff.1 atAddress
  obtain ⟨entry', found', rfl⟩ := Option.map_eq_some_iff.1 atOther
  have one : entry = entry' := List.inj_on_of_nodup_map distinct
    (List.mem_of_find?_eq_some found) (List.mem_of_find?_eq_some found') same
  have here : entry.1 = address := by simpa using List.find?_some found
  have there : entry'.1 = other := by simpa using List.find?_some found'
  rw [← here, ← there, one]

theorem NodeTable.uniqueIds_parse {content : String} {t : NodeTable}
    (parsed : parse content = .ok t) : t.UniqueIds := by
  rw [parse] at parsed
  obtain ⟨rows, _, parsed⟩ := Except.bind_eq_ok_iff.1 parsed
  obtain ⟨table, _, parsed⟩ := Except.bind_eq_ok_iff.1 parsed
  cases shared : sharedId? table.entries with
  | some error => rw [shared] at parsed; cases parsed
  | none =>
    rw [shared] at parsed
    cases parsed
    exact uniqueIds_of_nodup (sharedId?_eq_none_iff.1 shared)

theorem NodeTable.UniqueIds.of_prefix {t later : NodeTable} (unique : later.UniqueIds)
    (kept : ∀ {address info}, t.get? address = some info → later.get? address = some info) :
    t.UniqueIds :=
  fun _ _ _ _ atAddress atOther same => unique (kept atAddress) (kept atOther) same

/-- A new entry leaves the ids unique if and only if no entry has its id. -/
theorem NodeTable.uniqueIds_append_iff {t : NodeTable} (unique : t.UniqueIds) {address : String}
    (absent : t.get? address = none) {info : NodeInfo} :
    (NodeTable.mk (t.entries ++ [(address, info)])).UniqueIds ↔
      ∀ other known, t.get? other = some known → known.id ≠ info.id := by
  have entries (other : String) (known : NodeInfo) :=
    get?_append_eq_some_iff absent info other known
  constructor
  · intro unique' other known atOther same
    have here : other = address :=
      unique' ((entries _ _).2 (Or.inl atOther)) ((entries _ _).2 (Or.inr ⟨rfl, rfl⟩)) same
    rw [here, absent] at atOther
    cases atOther
  · intro fresh one other found found' atOne atOther same
    rcases (entries _ _).1 atOne with old | ⟨rfl, rfl⟩
    · rcases (entries _ _).1 atOther with old' | ⟨rfl, rfl⟩
      · exact unique old old' same
      · exact absurd same (fresh one found old)
    · rcases (entries _ _).1 atOther with old' | ⟨rfl, rfl⟩
      · exact absurd same.symm (fresh other found' old')
      · rfl

/-- Whatever the operator answers when asked for a node, the id is not in use. -/
def Interview.GivesNewId (interview : Interview) (address : String) : Prop :=
  ∀ info, interview.survey.nodes.get? address = none →
    (Act.from (Console.askNode address) interview.console).1 = .ok (some info) →
      ∀ other known, interview.survey.nodes.get? other = some known → known.id ≠ info.id

theorem Interview.uniqueIds_after_node_iff {interview : Interview}
    (unique : interview.survey.nodes.UniqueIds) (address : String) :
    (interview.after (.node address)).survey.nodes.UniqueIds ↔ interview.GivesNewId address := by
  have settled := interview.nodeInfo_settled address
  rw [after]
  generalize Act.from (nodeInfo address) interview = reached at settled
  cases settled with
  | known known =>
    refine ⟨fun _ info unknown => ?_, fun _ => unique⟩
    rw [known] at unknown
    cases unknown
  | @learned info console unknown told =>
    refine (NodeTable.uniqueIds_append_iff unique unknown).trans ⟨fun fresh info' _ told' => ?_, ?_⟩
    · rw [told] at told'
      cases told'
      exact fresh
    · exact fun new => new info unknown (by rw [told])
  | refused unknown silent =>
    exact ⟨fun _ info _ told => absurd told (silent info), fun _ => unique⟩

theorem Interview.nodes_after_sight (interview : Interview) (idA idB : String) :
    (interview.after (.sight idA idB)).survey.nodes = interview.survey.nodes := by
  have settled := interview.lineOfSight_settled idA idB
  rw [after]
  generalize Act.from (lineOfSight idA idB) interview = reached at settled
  cases settled with
  | known _ => rfl
  | learned _ _ => rfl
  | refused _ _ => rfl

theorem Interview.uniqueIds_run_iff {interview : Interview}
    (unique : interview.survey.nodes.UniqueIds) (queries : List Survey.Query) :
    (interview.run queries).survey.nodes.UniqueIds ↔
      ∀ before address later, queries = before ++ .node address :: later →
        (interview.run before).GivesNewId address := by
  induction queries generalizing interview with
  | nil => exact ⟨fun _ before address later split => absurd split (by simp), fun _ => unique⟩
  | cons query queries ih =>
    -- Entries are never removed, so ids that are unique at the end are unique after each question.
    have grown := (interview.after query).extends_run queries
    have first : (interview.run (query :: queries)).survey.nodes.UniqueIds →
        (interview.after query).survey.nodes.UniqueIds :=
      fun unique' => unique'.of_prefix grown.get?_nodes
    constructor
    · intro unique' before address later split
      rcases List.cons_eq_append_iff.1 split with ⟨rfl, here⟩ | ⟨middle, rfl, rest⟩
      · cases here
        exact (uniqueIds_after_node_iff unique address).1 (first unique')
      · exact (ih (first unique')).1 unique' middle address later rest
    · intro new
      have step : (interview.after query).survey.nodes.UniqueIds := by
        cases query with
        | node address =>
          exact (uniqueIds_after_node_iff unique address).2 (new [] address queries rfl)
        | sight idA idB => rw [nodes_after_sight]; exact unique
      refine (ih step).2 fun before address later split => ?_
      exact new (query :: before) address later (congrArg (query :: ·) split)

/-- The ids of the nodes stay unique if and only if the operator never gives an id that is in use.
A table that is read has unique ids, but answers are not checked for ids. -/
theorem Interview.uniqueIds_iff_new {content : String} {nodes : NodeTable}
    (parsed : NodeTable.parse content = .ok nodes) (sights : SightTable) (console : Console)
    (queries : List Survey.Query) :
    (∀ asked, asked <+: queries →
        (run ⟨⟨nodes, sights⟩, console⟩ asked).survey.nodes.UniqueIds) ↔
      ∀ before address later, queries = before ++ .node address :: later →
        (run ⟨⟨nodes, sights⟩, console⟩ before).GivesNewId address := by
  have unique := NodeTable.uniqueIds_parse parsed
  constructor
  · intro stays
    exact (uniqueIds_run_iff unique queries).1 (stays queries List.prefix_rfl)
  · rintro new asked ⟨rest, rfl⟩
    refine (uniqueIds_run_iff unique asked).2 fun before address later split => ?_
    rw [split] at new
    exact new before address (later ++ rest) (by rw [List.append_assoc, List.cons_append])

/-- A table of one node. -/
def NodeTable.sampleText : String := "node-info: aa, N1, 1500, dipole, 21, 0, 0, 0"

/-- An operator who first tries an id that the table has. -/
def Console.repeating : Console :=
  .start (["N1\n", "N2\n", "1200\n", "whip\n", "19.5\n", "3000 4000 1200\n"].map .ok) .unlimited

/-- An operator who gives a new id. -/
def Console.renaming : Console :=
  .start (["N2\n", "1200\n", "whip\n", "19.5\n", "3000 4000 1200\n"].map .ok) .unlimited

theorem Interview.uniqueIds_iff_new_renaming : ∃ nodes,
    NodeTable.parse NodeTable.sampleText = .ok nodes ∧
      (run ⟨⟨nodes, .empty⟩, .renaming⟩ [.node "bb"]).survey.nodes.size = 2 ∧
      (run ⟨⟨nodes, .empty⟩, .renaming⟩ [.node "bb"]).survey.nodes.UniqueIds := by
  have ids : (NodeTable.parse NodeTable.sampleText).toOption.map
      (fun nodes => (nodes.entries.map (·.2.id),
        (run ⟨⟨nodes, .empty⟩, .renaming⟩ [.node "bb"]).survey.nodes.size)) =
          some (["N1"], 2) := by decide +kernel
  have told : ((Act.from (Console.askNode "bb") .renaming).1.toOption.bind id).map (·.id) =
      some "N2" := by decide +kernel
  cases parsed : NodeTable.parse NodeTable.sampleText with
  | error error => rw [parsed] at ids; cases ids
  | ok nodes =>
    rw [parsed] at ids
    obtain ⟨known, size⟩ := Prod.mk.inj (Option.some.inj ids)
    refine ⟨nodes, rfl, size, ?_⟩
    refine (uniqueIds_iff_new parsed .empty .renaming [.node "bb"]).2 ?_ _ List.prefix_rfl
    intro before address later split
    rcases List.cons_eq_append_iff.1 split with ⟨rfl, here⟩ | ⟨middle, _, rest⟩
    · cases here
      intro info _ gives other held atOther same
      change (Act.from (Console.askNode "bb") .renaming).1 = .ok (some info) at gives
      rw [gives] at told
      have new : info.id = "N2" := Option.some.inj told
      have old : held.id ∈ nodes.entries.map (·.2.id) := by
        obtain ⟨entry, found, rfl⟩ := Option.map_eq_some_iff.1 atOther
        exact List.mem_map_of_mem (List.mem_of_find?_eq_some found)
      rw [known, List.mem_singleton] at old
      exact absurd (old.symm.trans (same.trans new)) (by decide)
    · exact absurd rest (by simp)

/-- The operator gives an id that another node has, and the table takes it. -/
theorem Interview.shared_id_taken : ∃ nodes,
    NodeTable.parse NodeTable.sampleText = .ok nodes ∧
      ¬ (run ⟨⟨nodes, .empty⟩, .repeating⟩ [.node "bb"]).survey.nodes.UniqueIds := by
  have ids : (NodeTable.parse NodeTable.sampleText).toOption.map (fun nodes =>
      let table := (run ⟨⟨nodes, .empty⟩, .repeating⟩ [.node "bb"]).survey.nodes
      ((table.get? "aa").map (·.id), (table.get? "bb").map (·.id))) =
        some (some "N1", some "N1") := by decide +kernel
  cases parsed : NodeTable.parse NodeTable.sampleText with
  | error error => rw [parsed] at ids; cases ids
  | ok nodes =>
    rw [parsed] at ids
    obtain ⟨atOld, atNew⟩ := Prod.mk.inj (Option.some.inj ids)
    obtain ⟨info, foundOld, idOld⟩ := Option.map_eq_some_iff.1 atOld
    obtain ⟨info', foundNew, idNew⟩ := Option.map_eq_some_iff.1 atNew
    refine ⟨nodes, rfl, fun unique => ?_⟩
    exact absurd (unique foundOld foundNew (idOld.trans idNew.symm)) (by decide)

end RangeTest
