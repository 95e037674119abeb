import EntitySchema.Jdl.Collect
import EntitySchema.Proofs.Jdl.Invariants
import EntitySchema.Proofs.Relationship.Findings

/-! A collector has no say in a parse. Each stage comes to the result that it has without one and adds
the findings of its trace; the stages are put together by what one step of a loop does and, by
induction, what the loop does. All that a parse adds are warnings (`parseWith_collector`). -/
namespace EntitySchema.Jdl

/-- The stage comes to its end with `a`, and adds the diagnostics of `found` to what the collector
holds, whatever that is. -/
def Collects {α : Type} (x : Collecting α) (a : α) (found : List Finding) : Prop :=
  ∀ c : Collector, x.run.run c = (some a, c.map (· ++ found.map Finding.diagnostic))

namespace Collects

variable {α β σ : Type}

theorem pure (a : α) : Collects (Pure.pure a) a [] := by
  intro c
  cases c with
  | none => rfl
  | some ds => exact congrArg (fun c => (some a, some c)) (List.append_nil ds).symm

theorem warn (f : Finding) : Collects (Collect.warn f) () [f] := by
  intro c
  cases c <;> rfl

theorem bind {x : Collecting α} {f : α → Collecting β} {a : α} {b : β} {found more : List Finding}
    (hx : Collects x a found) (hf : Collects (f a) b more) :
    Collects (x >>= f) b (found ++ more) := by
  intro c
  have hrun : (x >>= f).run.run c =
      (f a).run.run (c.map (· ++ found.map Finding.diagnostic)) := by
    rw [OptionT.run_bind, Option.elimM, StateT.run_bind, hx c]
    rfl
  rw [hrun, hf, Option.map_map, List.map_append]
  congr 2
  funext ds
  exact List.append_assoc ds _ _

/-- A loop that carries what the plain loop has as the result of its state. `P` is what a step may
count on and keeps up. -/
theorem foldlM (step : β → α → Collecting β) (next : σ → α → σ) (result : σ → β)
    (findings : σ → List Finding) {P : σ → Prop} {l : List α}
    (h : ∀ s, ∀ a ∈ l, P s → P (next s a) ∧ ∃ found,
      Collects (step (result s) a) (result (next s a)) found ∧
        findings (next s a) = findings s ++ found) {s : σ} (hs : P s) :
    ∃ found, Collects (l.foldlM step (result s)) (result (l.foldl next s)) found ∧
      findings (l.foldl next s) = findings s ++ found := by
  induction l generalizing s with
  | nil => exact ⟨[], pure _, (List.append_nil _).symm⟩
  | cons a l ih =>
    obtain ⟨hp, found, hstep, hfound⟩ := h s a (by simp) hs
    obtain ⟨more, hrun, hmore⟩ := ih (fun s b hb => h s b (by simp [hb])) hp
    refine ⟨found ++ more, ?_, ?_⟩
    · rw [List.foldlM_cons]
      exact hstep.bind hrun
    · rw [List.foldl_cons, hmore, hfound, List.append_assoc]

/-- A loop that gathers what its members give, where there is something. -/
theorem foldlM_append {step : List β → α → Collecting (List β)} {given : α → Option β}
    {findings : α → List Finding}
    (h : ∀ bs a, Collects (step bs a) (bs ++ (given a).toList) (findings a)) (l : List α)
    (bs : List β) :
    Collects (l.foldlM step bs) (bs ++ l.filterMap given) (l.flatMap findings) := by
  induction l generalizing bs with
  | nil => simpa using pure bs
  | cons a l ih =>
    have hsplit : bs ++ (a :: l).filterMap given = bs ++ (given a).toList ++ l.filterMap given := by
      cases hg : given a <;> simp [hg]
    rw [List.foldlM_cons, hsplit, List.flatMap_cons]
    exact (h bs a).bind (ih _)

end Collects

theorem findings_foldl {α : Type} {step : Trace → α → Trace} {findings : α → List Finding}
    (h : ∀ t a, (step t a).findings = t.findings ++ findings a) (l : List α) (t : Trace) :
    (l.foldl step t).findings = t.findings ++ l.flatMap findings := by
  induction l generalizing t with
  | nil => simp
  | cons a l ih => rw [List.foldl_cons, ih, h, List.flatMap_cons, List.append_assoc]

/-- Blocks that are declared one after the other, each on top of what the ones before it declared. -/
theorem collects_blocks {β B : Type} {step : Dict β → B → Collecting (Dict β)}
    {declare : B → Dict β → Dict β × Trace}
    (h : ∀ d b, Collects (step d b) (declare b d).1 (declare b d).2.findings) (blocks : List B) :
    let declared := blocks.foldl (fun (acc : Dict β × Trace) b =>
      ((declare b acc.1).1, acc.2 ++ (declare b acc.1).2)) (.empty, .empty)
    Collects (blocks.foldlM step .empty) declared.1 declared.2.findings := by
  intro declared
  obtain ⟨found, hrun, hfound⟩ := Collects.foldlM (l := blocks) (P := fun _ => True) step
    (fun (acc : Dict β × Trace) b => ((declare b acc.1).1, acc.2 ++ (declare b acc.1).2))
    Prod.fst (fun acc => acc.2.findings) (fun acc b _ _ => ⟨trivial, _, h acc.1 b, rfl⟩)
    (s := (.empty, .empty)) trivial
  have htrace : declared.2.findings = found := hfound
  rw [htrace]
  exact hrun

theorem collects_declareEnum (d : Dict (List String)) (b : EnumBlock) :
    Collects (Collect.declareEnum d b) (b.declare d).1 (b.declare d).2.findings := by
  unfold Collect.declareEnum EnumBlock.declare
  by_cases h : b.values = []
  · rw [if_pos h, if_pos h]
    exact (Collects.warn _).bind (.pure _)
  · rw [if_neg h, if_neg h]
    by_cases hc : d.contains b.name = true
    · simp only [if_pos hc]
      exact (Collects.warn _).bind (.pure _)
    · simp only [if_neg hc]
      exact .pure _

theorem collects_enums (s : List Char) :
    Collects (Collect.enums s) (extractEnums s).1 (extractEnums s).2.findings := by
  rw [extractEnums, findings_append, findings_note, List.append_nil]
  exact collects_blocks collects_declareEnum (EnumBlock.all s)

def EntityBlock.lineFindings (b : EntityBlock) (line : List Char) : List Finding :=
  if (readFieldLine? line).isNone then [.unmatchedFieldLine b.name (String.ofList line)] else []

theorem EntityBlock.findings_trace (b : EntityBlock) :
    b.trace.findings = b.lines.flatMap b.lineFindings := by
  have hlines : b.unmatchedLines.flatMap (fun line =>
      [Finding.unmatchedFieldLine b.name (String.ofList line)]) = b.lines.flatMap b.lineFindings := by
    unfold unmatchedLines
    induction b.lines with
    | nil => rfl
    | cons line lines ih =>
      by_cases h : (readFieldLine? line).isNone = true <;> simp [lineFindings, h, ← ih]
  simp only [trace, findings_append]
  rw [findings_foldl (fun t line => by simp; rfl), hlines]
  split <;> simp

theorem collects_declareField (b : EntityBlock) (fields : List Field) (line : List Char) :
    Collects (Collect.declareField b.name fields line) (fields ++ (readFieldLine? line).toList)
      (b.lineFindings line) := by
  unfold Collect.declareField EntityBlock.lineFindings
  cases readFieldLine? line with
  | none =>
    rw [Option.toList_none, List.append_nil]
    exact (Collects.warn _).bind (.pure _)
  | some f => exact .pure _

theorem collects_declareEntity (d : Dict (List Field)) (b : EntityBlock) :
    Collects (Collect.declareEntity d b) (b.declare d).1 (b.declare d).2.findings := by
  have hfields := Collects.foldlM_append (collects_declareField b) b.lines []
  rw [← b.findings_trace, List.nil_append] at hfields
  unfold Collect.declareEntity EntityBlock.declare
  rw [findings_append]
  refine hfields.bind ?_
  by_cases hc : d.contains b.name = true
  · simp only [if_pos hc]
    exact (Collects.warn _).bind (.pure _)
  · simp only [if_neg hc]
    exact .pure _

theorem collects_entities (s : List Char) :
    Collects (Collect.entities s) (extractEntities s).1 (extractEntities s).2.findings := by
  rw [extractEntities, findings_append, findings_note, List.append_nil]
  exact collects_blocks collects_declareEntity (EntityBlock.all s)

def specFindings (statement spec : List Char) : List Finding :=
  if spec ≠ [] ∧ (readFieldSpec? spec).isNone then
    [.invalidFieldSpec (String.ofList statement) (String.ofList spec)] else []

theorem collects_fieldOfSpec? (statement spec : List Char) :
    Collects (Collect.fieldOfSpec? statement spec) (readFieldSpec? spec)
      (specFindings statement spec) := by
  unfold Collect.fieldOfSpec? specFindings
  by_cases h : spec ≠ [] ∧ (readFieldSpec? spec).isNone = true
  · simp only [if_pos h]
    exact (Collects.warn _).bind (.pure _)
  · simp only [if_neg h]
    exact .pure _

theorem collects_record? (type : String) (statement : List Char) :
    Collects (Collect.record? type statement) (readRecord? type statement).1
      (readRecord? type statement).2.findings := by
  unfold Collect.record? readRecord?
  cases readStatement? statement with
  | none => exact .pure _
  | some sides =>
    obtain ⟨⟨source, sourceSpec⟩, target, targetSpec⟩ := sides
    have hspec (spec : List Char) : (if spec ≠ [] ∧ (readFieldSpec? spec).isNone = true then
        Trace.find (.invalidFieldSpec (String.ofList statement) (String.ofList spec))
          else .empty).findings = specFindings statement spec := by
      unfold specFindings
      split <;> rfl
    simp only [findings_append, hspec]
    rw [← List.append_nil (specFindings statement targetSpec)]
    exact (collects_fieldOfSpec? statement sourceSpec).bind
      ((collects_fieldOfSpec? statement targetSpec).bind (.pure _))

def RelationshipBlock.statementFindings (b : RelationshipBlock) (statement : List Char) :
    List Finding :=
  (readRecord? b.type statement).2.findings ++ if (readRecord? b.type statement).1.isNone then
    [.unmatchedStatement b.type (String.ofList statement)] else []

theorem RelationshipBlock.findings_trace (b : RelationshipBlock) :
    b.trace.findings = b.statements.flatMap b.statementFindings := by
  unfold trace
  refine findings_foldl ?_ b.statements .empty
  intro t statement
  unfold statementFindings
  rcases readRecord? b.type statement with ⟨_ | r, found⟩ <;> simp

theorem collects_addRecord (b : RelationshipBlock) (records : List RelationshipRecord)
    (statement : List Char) :
    Collects (Collect.addRecord b.type records statement)
      (records ++ (readRecord? b.type statement).1.toList) (b.statementFindings statement) := by
  refine (collects_record? b.type statement).bind ?_
  cases (readRecord? b.type statement).1 with
  | none =>
    rw [Option.toList_none, List.append_nil]
    exact (Collects.warn _).bind (.pure _)
  | some r => exact .pure _

theorem collects_block (b : RelationshipBlock) :
    Collects (b.statements.foldlM (Collect.addRecord b.type) []) b.records b.trace.findings := by
  rw [b.findings_trace]
  exact Collects.foldlM_append (collects_addRecord b) b.statements []

/-- The findings of the blocks of a text: those of the closed ones in turn, and then that one is never
closed. -/
def RelationshipBlocks.findings (bs : RelationshipBlocks) : List Finding :=
  bs.closed.flatMap (·.trace.findings) ++
    (bs.unterminated.map fun u => .unterminatedBlock u.1 u.2).toList

theorem collects_recordsFrom (offset : Nat) (afterWord : Bool) (s : List Char) :
    Collects (Collect.recordsFrom offset afterWord s)
      ((RelationshipBlocks.readFrom offset afterWord s).closed.flatMap (·.records))
      (RelationshipBlocks.readFrom offset afterWord s).findings := by
  fun_induction RelationshipBlocks.readFrom offset afterWord s with
  | case1 offset b =>
    rw [Collect.recordsFrom]
    exact .pure _
  | case2 offset b c r type inner hhead body rest hclose block hlt later ih =>
    have hfound : (⟨block :: later.closed, later.unterminated⟩ : RelationshipBlocks).findings =
        block.trace.findings ++ (later.findings ++ []) := by
      simp [RelationshipBlocks.findings]
    rw [dite_eq_ite] at hhead
    rw [Collect.recordsFrom]
    simp only [hhead, hclose, dif_pos hlt, List.flatMap_cons, hfound]
    exact (collects_block block).bind (ih.bind (.pure _))
  | case3 offset b c r type inner hhead body rest hclose block hlt =>
    have hfound : (⟨[block], none⟩ : RelationshipBlocks).findings = block.trace.findings ++ [] := by
      simp [RelationshipBlocks.findings]
    rw [dite_eq_ite] at hhead
    rw [Collect.recordsFrom]
    simp only [hhead, hclose, dif_neg hlt, List.flatMap_singleton, hfound]
    exact (collects_block block).bind (.pure _)
  | case4 offset b c r type inner hhead hclose =>
    rw [dite_eq_ite] at hhead
    rw [Collect.recordsFrom]
    simp only [hhead, hclose]
    exact (Collects.warn _).bind (.pure _)
  | case5 offset b c r hhead ih =>
    rw [dite_eq_ite] at hhead
    rw [Collect.recordsFrom]
    simpa only [hhead] using ih

theorem collects_relationships (s : List Char) :
    Collects (Collect.recordsFrom 0 false s) (extractRelationships s).1
      (extractRelationships s).2.findings := by
  have hfound : (extractRelationships s).2.findings = (RelationshipBlocks.read s).findings := by
    unfold extractRelationships RelationshipBlocks.findings
    simp only [findings_append, findings_note, List.append_nil]
    rw [findings_foldl fun t b => rfl]
    cases (RelationshipBlocks.read s).unterminated <;> rfl
  rw [hfound]
  exact collects_recordsFrom 0 false s

theorem collects_addField (owner : String) (fields : List Field) (f : Field) :
    Collects (Collect.addField owner fields f) (addRelationshipField fields (some owner) f).1
      (addRelationshipField fields (some owner) f).2.2.findings := by
  unfold Collect.addField addRelationshipField
  by_cases hid : f.isId = true
  · simp only [if_pos hid]
    exact (Collects.warn _).bind (.pure _)
  · simp only [if_neg hid]
    by_cases hthere : (fields.any fun g => g.isRelationship && g.name == f.name) = true
    · simp only [if_pos hthere]
      exact .pure _
    · simp only [if_neg hthere]
      exact .pure _

theorem collects_meet {m : Materialization} (hm : m.nameless = false) {d : Demand}
    (hn : d.name ≠ "") :
    ∃ found, Collects (Collect.meet m.entities d) (m.meet d.owner d).entities found ∧
      (m.meet d.owner d).trace.findings = m.trace.findings ++ found := by
  obtain ⟨f, hf, -⟩ := Demand.field?_isSome hn
  have hf' : Field.relationship? d.name d.cardinality d.target = some f := hf
  simp only [Collect.meet, Materialization.meet, hm, hf', Bool.false_eq_true, if_false,
    findings_append]
  refine ⟨_, ?_, rfl⟩
  rw [← List.append_nil (addRelationshipField _ _ _).2.2.findings]
  exact (collects_addField _ _ _).bind (.pure _)

/-- No demand of a record ends a materialization: the entities that a run has reached have names, and
so have the fields that it adds to them. -/
theorem collects_apply {entities : Dict (List Field)} (hn : ∀ entity ∈ entities.keys, entity ≠ "")
    {ds : List Demand} {m : Materialization} (h : Met entities ds m) (r : RelationshipRecord) :
    ∃ found, Collects (Collect.apply m.entities r) (m.apply r).entities found ∧
      (m.apply r).trace.findings = m.trace.findings ++ found := by
  unfold Collect.apply Materialization.apply
  simp only [h.nameless, Bool.false_eq_true, if_false]
  by_cases hmissing : ([r.source, r.target].filter fun e => !m.entities.contains e) = []
  · have hst : r.source ∈ entities.keys ∧ r.target ∈ entities.keys := by
      simpa [Dict.contains, h.keys_eq] using hmissing
    rw [if_neg (not_not.mpr hmissing), if_neg (not_not.mpr hmissing)]
    cases hc : r.cardinality? with
    | none =>
      exact ⟨_, (Collects.warn _).bind (.pure _), by simp [Materialization.skip]⟩
    | some c =>
      rw [if_neg (by simp), Materialization.applyTo_eq hc]
      simp only [RelationshipRecord.demands_eq_demandTable hc]
      have step (m : Materialization) (d : Demand) (hd : d ∈ r.demandTable)
          (hm : ∃ ds, Met entities ds m) : (∃ ds, Met entities ds (m.meet d.owner d)) ∧
            ∃ found, Collects (Collect.meet m.entities d) (m.meet d.owner d).entities found ∧
              (m.meet d.owner d).trace.findings = m.trace.findings ++ found := by
        obtain ⟨ds, hm⟩ := hm
        obtain ⟨howner, hname⟩ := RelationshipRecord.owner_mem_of_mem_demandTable hn hst.1 hst.2 hd
        exact ⟨⟨_, hm.meet howner hname⟩, collects_meet hm.nameless hname⟩
      obtain ⟨found, hrun, hfound⟩ := Collects.foldlM Collect.meet (fun m d => m.meet d.owner d)
        Materialization.entities (fun m => m.trace.findings) step ⟨ds, h⟩
      exact ⟨found, hrun, hfound⟩
  · rw [if_pos hmissing, if_pos hmissing]
    exact ⟨_, (Collects.warn _).bind (.pure _), by simp [Materialization.skip]⟩

theorem collects_materialize {entities : Dict (List Field)}
    (hn : ∀ entity ∈ entities.keys, entity ≠ "") (records : List RelationshipRecord) :
    Collects (records.foldlM Collect.apply entities) (materialize entities records).entities
      (materialize entities records).trace.findings := by
  obtain ⟨found, hrun, hfound⟩ := Collects.foldlM (l := records)
    (P := fun m => ∃ ds, Met entities ds m) Collect.apply Materialization.apply
    Materialization.entities (fun m => m.trace.findings)
    (fun m r _ ⟨ds, h⟩ => ⟨⟨_, h.apply hn r⟩, collects_apply hn h r⟩)
    (s := { entities }) ⟨[], .start entities⟩
  have hmet := (Met.start entities).foldl_apply hn records
  have hend : (materialize entities records).entities =
      (records.foldl Materialization.apply { entities }).entities ∧
      (materialize entities records).trace.findings = found := by
    simp [materialize, hmet.nameless, hfound]
  rw [hend.1, hend.2]
  exact hrun

/-- The stages together: the schema of the parse, and the findings of its trace. -/
theorem collects_schema (text : List Char) :
    Collects (Collect.schema text) (parseSchema text) (parse text).trace.findings := by
  have hn : ∀ entity ∈ (ensureIds (extractEntities (stripComments text)).1).keys, entity ≠ "" := by
    intro entity he
    rw [ensureIds, Dict.keys_map] at he
    exact ne_empty_of_mem_keys_parse (by rwa [keys_parse])
  have hfound : (parse text).trace.findings =
      (extractEnums (stripComments text)).2.findings ++
        ((extractEntities (stripComments text)).2.findings ++
          ((extractRelationships (stripComments text)).2.findings ++
            ((materialize (ensureIds (extractEntities (stripComments text)).1)
              (extractRelationships (stripComments text)).1).trace.findings ++ []))) := by
    simp only [parse, findings_append, findings_note, List.append_nil, List.append_assoc]
    split <;> simp
  rw [hfound]
  exact (collects_enums _).bind ((collects_entities _).bind ((collects_relationships _).bind
    ((collects_materialize hn _).bind (.pure _))))

/-- A parse with a collector comes to the schema of the parse without one, whatever the collector
holds. It keeps what the collector holds, and adds behind it nothing but warnings: the diagnostics of
its trace. -/
theorem parseWith_collector (text : List Char) (collected : Diagnostics) :
    parseWith none text = (some (parseSchema text), none) ∧
      (parseWith (some collected) text).1 = (parseWith none text).1 ∧
      ∃ added : Diagnostics, (parseWith (some collected) text).2 = some (collected ++ added) ∧
        added = (parse text).trace.diagnostics ∧ ∀ d ∈ added, d.severity = .warning := by
  have hnone : parseWith none text = (some (parseSchema text), none) := collects_schema text none
  have hsome : parseWith (some collected) text =
      (some (parseSchema text), some (collected ++ (parse text).trace.diagnostics)) :=
    collects_schema text (some collected)
  refine ⟨hnone, by rw [hnone, hsome], _, congrArg Prod.snd hsome, rfl, ?_⟩
  intro d hd
  obtain ⟨f, -, rfl⟩ := List.mem_map.mp hd
  rfl

end EntitySchema.Jdl
