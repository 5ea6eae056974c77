import CloudTelemetry.Proofs.Export.Delivery
import CloudTelemetry.Proofs.Export.Sharing
import CloudTelemetry.Proofs.Export.Steady

/-!
# Exports at the same time

Any number of exports that share an exporter, at a steady service. However their steps are mixed,
they all come to an end, and each of them writes and returns what it would alone
(`exports_at_once`): a record that finds its identity claimed waits for an outcome that is settled
beforehand, since the service goes by types. Under `sendOnce` an identity that is new and accepted
is registered once in all.
-/

namespace CloudTelemetry
open Procedure

def Traffic.Finished {α : Type} (s : Traffic α) : Prop :=
  ∀ c ∈ s.callers, ∃ result, c.rest = .done result

namespace MetricExporter
open Traffic

variable {e : MetricExporter} {strategy : Strategy} {initial current : List Identity}
  {registers : String → Except Failure Unit} {writes : Nat → Nat → Except Failure Unit}
  {batches : List (List ResourceMetrics)} {s : Traffic ExportResult}

def exports (e : MetricExporter) (strategy : Strategy) (initial : List Identity)
    (batches : List (List ResourceMetrics)) : Traffic ExportResult :=
  start (.new strategy initial) (batches.map fun batch => e.exportBatch (some batch))

abbrev steadily (registers : String → Except Failure Unit)
    (writes : Nat → Nat → Except Failure Unit) : Nat → Trace → Call → Except Failure Unit → Prop :=
  servedBy fun i => steady registers (writes i)

/-! ### The callers are sound -/

theorem leads_of_reaches {serves : Nat → Trace → Call → Except Failure Unit → Prop}
    (h : Reaches serves (exports e strategy initial batches) s) :
    s.callers.length = batches.length ∧ ∀ (i : Nat) (c : Caller ExportResult),
      s.callers[i]? = some c → ∃ batch, batches[i]? = some batch ∧
        (e.exportBatch (some batch)).Leads c.past c.rest := by
  refine ⟨h.length_callers.trans (List.length_map ..), fun i c hc => ?_⟩
  obtain ⟨p, hp, hl⟩ := h.leads i c hc
  rw [List.getElem?_map, Option.map_eq_some_iff] at hp
  obtain ⟨batch, hb, rfl⟩ := hp
  exact ⟨batch, hb, hl⟩

theorem keeps_of_reaches {serves : Nat → Trace → Call → Except Failure Unit → Prop}
    (h : Reaches serves (exports e strategy initial batches) s) {i : Nat} {c : Caller ExportResult}
    (hc : s.callers[i]? = some c) :
    Obeys (registering e.target) (fun g _ => g = .no) (phase e.target c.past) c.rest := by
  obtain ⟨batch, -, leads⟩ := (leads_of_reaches h).2 i c hc
  exact (registers_exportBatch batch).leads leads

theorem answers_of_reaches
    (h : Reaches (steadily registers writes) (exports e strategy initial batches) s) {i : Nat}
    {c : Caller ExportResult} (hc : s.callers[i]? = some c) (d : Descriptor)
    (outcome : Except Failure Unit) (hd : (Call.createDescriptor d, outcome) ∈ c.past.calls) :
    outcome = registers d.type := by
  rw [h.replies i c hc] at hd
  obtain ⟨_, heq⟩ := Service.eq_of_mem_replies hd
  exact heq

theorem sound_of_reaches
    (h : Reaches (steadily registers writes) (exports e strategy initial batches) s) :
    s.Sound e.target registers strategy initial := by
  induction h with
  | refl => exact Sound.start ..
  | step before last ih =>
    refine ih.step (fun i c hc => ⟨_, keeps_of_reaches before hc⟩) (fun i c hc => ?_) last
    obtain ⟨batch, -, leads⟩ := (leads_of_reaches before).2 i c hc
    exact fair_of_leads (registers_exportBatch batch) leads (answers_of_reaches before hc) nofun

/-! ### Somebody can always go on -/

theorem step_of_ready {serves : Nat → Trace → Call → Except Failure Unit → Prop}
    (answers : ∀ i past c, ∃ outcome, serves i past c outcome)
    {i : Nat} {a : Action} {next : a.Reply → Steps ExportResult} {past : Trace}
    (caller : s.callers[i]? = some ⟨.ask a next, past⟩)
    (allowed : (phase e.target past).Allows e.target a) (ready : ∀ id, a ≠ .claim id) :
    ∃ t, Step serves s t := by
  have served : ∀ {c : Call} {next : Except Failure Unit → Steps ExportResult},
      s.callers[i]? = some ⟨.ask (.call c) next, past⟩ → ∃ t, Step serves s t := by
    intro c next caller
    obtain ⟨outcome, h⟩ := answers i past c
    exact ⟨_, .served caller h⟩
  rcases allowed.cases with ⟨entry, rfl⟩ | ⟨-, rfl | rfl | ⟨id, rfl⟩ | ⟨series, rfl⟩⟩ |
    ⟨d, -, rfl, -⟩ | ⟨id, succeeded, -, rfl⟩
  · exact ⟨_, .answered false caller rfl⟩
  · exact ⟨_, .answered false caller rfl⟩
  · exact ⟨_, .answered false caller rfl⟩
  · exact absurd rfl (ready id)
  · exact served caller
  · exact served caller
  · exact ⟨_, .answered false caller rfl⟩

theorem step_of_mayAsk {serves : Nat → Trace → Call → Except Failure Unit → Prop} {i : Nat}
    {id : Identity} {next : Bool → Steps ExportResult} {past : Trace}
    (caller : s.callers[i]? = some ⟨.ask (.claim id) next, past⟩)
    (may : s.shared.desk.mayAsk i id = true) : ∃ t, Step serves s t := by
  rcases asked : s.shared.desk.ask i id with ⟨claimed | _, desk⟩
  · have attempt : s.shared.attempt i false (.claim id) =
        some (some claimed, { s.shared with desk := desk }) := by
      simp only [Shared.attempt, Shared.claim, may, asked, if_true]
    exact ⟨_, .answered false caller attempt⟩
  · have attempt : s.shared.attempt i false (.claim id) =
        some (none, { s.shared with desk := desk }) := by
      simp only [Shared.attempt, Shared.claim, may, asked, if_true]
    exact ⟨_, .asleep false caller attempt⟩

/-- A caller that may not ask waits for a claim that somebody holds. -/
theorem pending_of_not_mayAsk (sound : s.Sound e.target registers strategy initial) {i : Nat}
    {id : Identity} {next : Bool → Steps ExportResult} {past : Trace}
    (caller : s.callers[i]? = some ⟨.ask (.claim id) next, past⟩)
    (may : ¬ s.shared.desk.mayAsk i id = true) :
    ∃ j, (s.claimants e.target).holding j = some id := by
  have asleep : ∃ a, s.shared.desk.waiting i = some a := by
    by_contra awake
    push Not at awake
    exact may (ClaimDesk.mayAsk_iff.2 (.inl (Option.eq_none_iff_forall_ne_some.2 awake)))
  obtain ⟨⟨x, notified⟩, waiting⟩ := asleep
  have same : id = x := Action.claim.inj (sound.claim_of_waiting caller waiting)
  subst same
  have once : strategy = .sendOnce := by
    by_contra other
    rw [sound.idle other] at waiting
    cases waiting
  have inv := (sound.once once).claims
  cases notified with
  | true => exact absurd (ClaimDesk.mayAsk_iff.2 (.inr waiting)) may
  | false => exact (inv.pending id).1 (inv.asleep i id waiting)

/-- Where not all exports have come to their results, one of them can take a step: whoever waits for
a claim waits for a caller that does not. -/
theorem exists_step
    (h : Reaches (steadily registers writes) (exports e strategy initial batches) s)
    (unfinished : ¬ s.Finished) : ∃ t, Step (steadily registers writes) s t := by
  have sound := sound_of_reaches h
  have answers : ∀ i past c, ∃ outcome, steadily registers writes i past c outcome :=
    fun i past c => ⟨_, rfl⟩
  unfold Traffic.Finished at unfinished
  push Not at unfinished
  obtain ⟨⟨rest, past⟩, hc, busy⟩ := unfinished
  obtain ⟨i, caller⟩ := List.getElem?_of_mem hc
  cases rest with
  | done result => exact absurd rfl (busy result)
  | ask a next =>
    have allowed := (keeps_of_reaches h caller).1
    by_cases claims : ∃ id, a = .claim id
    · obtain ⟨id, rfl⟩ := claims
      by_cases may : s.shared.desk.mayAsk i id = true
      · exact step_of_mayAsk caller may
      · obtain ⟨j, held⟩ := pending_of_not_mayAsk sound caller may
        obtain ⟨⟨rest', past'⟩, holder, claim⟩ := Option.bind_eq_some_iff.1 held
        have keeps := keeps_of_reaches h holder
        cases rest' with
        | done result =>
          rw [show phase e.target past' = .no from keeps] at claim
          cases claim
        | ask b next' =>
          refine step_of_ready answers holder keeps.1 fun x heq => ?_
          subst heq
          rw [show phase e.target past' = .no from Registering.Allows.eq_no keeps.1] at claim
          cases claim
    · exact step_of_ready answers caller allowed fun id heq => claims ⟨id, heq⟩

theorem exists_finished
    (h : Reaches (steadily registers writes) (exports e strategy initial batches) s) :
    ∃ t, Reaches (steadily registers writes) (exports e strategy initial batches) t ∧
      t.Finished := by
  induction s using wellFounded_below.induction with
  | _ s ih =>
    by_cases finished : s.Finished
    · exact ⟨s, h, finished⟩
    · obtain ⟨t, step⟩ := exists_step h finished
      exact ih t step.below (h.step step)

/-! ### What becomes of the candidates -/

theorem verdict_of_passage {c : Candidate} {t : Trace} {fate : Fate} (h : Passage c t fate)
    (belongs : ∀ record, c.record? = some record → e.target.Belongs record)
    (told : ∀ x ∈ t, Told strategy initial current x)
    (answers : ∀ d outcome, (Call.createDescriptor d, outcome) ∈ t.calls →
      outcome = registers d.type)
    (sound : strategy = .sendOnce → ∀ id ∈ current,
      id ∈ initial ∨ (registers (e.target.typeOf id)).isOk = true) :
    fate.verdict = verdictBy (passes e.target strategy initial registers) c := by
  cases h with
  | nothing | untranslated => rfl
  | @skipped name record =>
    have claimed := told _ (List.mem_singleton_self _)
    refine (if_pos ?_).symm
    rcases claimed with rfl | ⟨rfl, known⟩
    · rfl
    · rcases sound rfl _ known with h | h <;> simp [passes, h]
  | @registered name record remembers _ ht =>
    have claimed := told _ List.mem_cons_self
    have accepted := answers record.descriptor (.ok ()) List.mem_cons_self
    rw [(belongs record rfl).type] at accepted
    refine (if_pos ?_).symm
    rcases claimed with rfl | ⟨rfl, -⟩ <;> simp [passes, ← accepted]
  | @refused name record cause seen remembers =>
    have claimed := told _ List.mem_cons_self
    have refused := answers record.descriptor (.error cause) List.mem_cons_self
    rw [(belongs record rfl).type] at refused
    refine (if_neg ?_).symm
    rcases claimed with rfl | ⟨rfl, unknown⟩
    · simp [passes, ← refused]
    · simp [passes, ← refused, unknown]

theorem verdicts_of_course {cs : List Candidate} {t : Trace} {fates : List Fate}
    (h : Course cs t fates)
    (belongs : ∀ c ∈ cs, ∀ record, c.record? = some record → e.target.Belongs record)
    (told : ∀ x ∈ t, Told strategy initial current x)
    (answers : ∀ d outcome, (Call.createDescriptor d, outcome) ∈ t.calls →
      outcome = registers d.type)
    (sound : strategy = .sendOnce → ∀ id ∈ current,
      id ∈ initial ∨ (registers (e.target.typeOf id)).isOk = true) :
    fates.map Fate.verdict =
      cs.map (verdictBy (passes e.target strategy initial registers)) := by
  induction h with
  | nil => rfl
  | @cons c part fate rest later fates first next ih =>
    rw [List.forall_mem_cons] at belongs
    rw [List.forall_mem_append] at told
    rw [Trace.calls_append] at answers
    have one := verdict_of_passage first belongs.1 told.1
      (fun d outcome hd => answers d outcome (List.mem_append_left _ hd)) sound
    have others := ih belongs.2 told.2 fun d outcome hd =>
      answers d outcome (List.mem_append_right _ hd)
    rw [List.map_cons, List.map_cons, one, others]

theorem begun_of_done
    (h : Reaches (steadily registers writes) (exports e strategy initial batches) s) {i : Nat}
    {result : ExportResult} {past : Trace} {batch : List ResourceMetrics}
    (hb : batches[i]? = some batch) (hc : s.callers[i]? = some ⟨.done result, past⟩) :
    (∃ fates outcomes, Exported e batch past fates outcomes result) ∨
      ∃ fates, Aborted e batch past fates result := by
  obtain ⟨batch', hb', goes⟩ := (leads_of_reaches h).2 i _ hc
  obtain rfl : batch = batch' := Option.some.inj (hb.symm.trans hb')
  rcases goes_exportBatch goes with ⟨rfl, -⟩ | begun
  · -- nobody shuts the exporter down
    cases (sound_of_reaches h).told i _ hc _ List.mem_cons_self
  · exact begun

theorem through_of_done
    (h : Reaches (steadily registers writes) (exports e strategy initial batches) s) {i : Nat}
    {result : ExportResult} {past : Trace} {batch : List ResourceMetrics}
    (hb : batches[i]? = some batch) (hc : s.callers[i]? = some ⟨.done result, past⟩) :
    ∃ fates first, Course (goneThrough (e.target.candidates batch)) first fates ∧
      (∀ x ∈ first, x ∈ past) ∧ ∀ d outcome, (Call.createDescriptor d, outcome) ∈ past.calls →
        (Call.createDescriptor d, outcome) ∈ first.calls := by
  rcases begun_of_done h hb hc with ⟨fates, outcomes, exported⟩ | ⟨fates, aborted⟩
  · exact ⟨fates, through_of_begun (.inl ⟨outcomes, exported⟩)⟩
  · exact ⟨fates, through_of_begun (.inr aborted)⟩

theorem verdicts_of_done
    (h : Reaches (steadily registers writes) (exports e strategy initial batches) s) {i : Nat}
    {result : ExportResult} {past : Trace} {batch : List ResourceMetrics} {fates : List Fate}
    {outcomes : List (Except Failure Unit)} (hc : s.callers[i]? = some ⟨.done result, past⟩)
    (exported : Exported e batch past fates outcomes result) :
    fates.map Fate.verdict = (e.target.candidates batch).map
      (verdictBy (passes e.target strategy initial registers)) := by
  have sound := sound_of_reaches h
  obtain ⟨first, course, sub, -, -⟩ := exported.course
  refine verdicts_of_course course (fun c hc record hr =>
    MetricTarget.belongs_of_mem_candidates hc hr) (fun x hx => sound.told i _ hc x (sub x hx))
    (fun d outcome hd => answers_of_reaches h hc d outcome ?_) fun once => (sound.once once).sound
  exact Trace.mem_calls.2 (sub _ (Trace.mem_calls.1 hd))

/-- An export among others has the result and the writes that it has alone. -/
theorem same_as_alone
    (h : Reaches (steadily registers writes) (exports e strategy initial batches) s) {i : Nat}
    {result : ExportResult} {past : Trace} {batch : List ResourceMetrics}
    (hb : batches[i]? = some batch) (hc : s.callers[i]? = some ⟨.done result, past⟩) :
    ∃ final, (e.exportBatch (some batch)).run
        (Stage.handle (Stage.served (steady registers (writes i))))
        (Stage.opened strategy initial 0 : Stage (List ResourceMetrics)) = some (result, final) ∧
      past.calls.filter (fun x => x.1.isWrite) =
        ((steady registers (writes i)).replies [] final.made).filter fun x => x.1.isWrite := by
  rcases begun_of_done h hb hc with ⟨fates, outcomes, exported⟩ | ⟨fates, aborted⟩
  · obtain ⟨_, course, -⟩ := exported.course
    obtain ⟨other, final, t, ends, run, alone, replies, made_eq, -⟩ := Stage.run_exportBatch
      (failsAlone_of_course course) (steady registers (writes i)) strategy initial 0
    have verdicts : (fatesOf strategy (steady registers (writes i)) [] initial
        (e.target.candidates batch)).map Fate.verdict = _ :=
      verdicts_fatesOf (fun c hc record hr => MetricTarget.belongs_of_mem_candidates hc hr)
        (fun x hx => hx) fun x hx => .inl hx
    obtain ⟨rfl, same⟩ := exported.determined alone
      ((verdicts_of_done h hc exported).trans verdicts.symm) (h.replies i _ hc) replies
    exact ⟨final, run, by rw [made_eq, ← replies, same]⟩
  · obtain ⟨other, final, t, run, goes, answers⟩ :=
      Stage.run_eq_some e batch (steady registers (writes i)) strategy initial 0
    obtain ⟨made_eq, replies, -⟩ := Stage.answers_kept answers
    rcases goes_exportBatch goes with ⟨rfl, -⟩ | ⟨others, _, alone⟩ | ⟨others, alone⟩
    · cases (Stage.begun_of_answers answers).1
    · obtain ⟨_, course, -⟩ := alone.course
      obtain ⟨_, c, _, _, _, split, doom, -⟩ := aborted.parts
      exact absurd (failsAlone_of_course course c (by rw [split]; simp)) doom
    · refine ⟨final, by rw [run, alone.result_eq, aborted.result_eq], ?_⟩
      have made : final.made = t.calls.map Prod.fst := made_eq
      have answered : t.calls = (steady registers (writes i)).replies [] (t.calls.map Prod.fst) :=
        replies
      rw [made, ← answered, alone.unwritten, aborted.unwritten]

/-! ### What is registered -/

/-- The identity is that of a record that an export goes through. -/
def Occurs (e : MetricExporter) (batches : List (List ResourceMetrics)) (id : Identity) : Prop :=
  ∃ batch ∈ batches, ∃ c ∈ goneThrough (e.target.candidates batch),
    ∃ record, c.record? = some record ∧ record.identity = id

/-- How many descriptors of an identity the service has accepted from all callers. -/
def accepted (s : Traffic ExportResult) (id : Identity) : Nat :=
  (s.callers.map fun c => acceptances id c.past).sum

theorem acceptances_of_done
    (h : Reaches (steadily registers writes) (exports e strategy initial batches) s) {i : Nat}
    {result : ExportResult} {past : Trace} (hc : s.callers[i]? = some ⟨.done result, past⟩)
    (id : Identity) : acceptances id past = settlements id past := by
  obtain ⟨batch, -, leads⟩ := (leads_of_reaches h).2 i _ hc
  have told := acceptances_of_leads id (registers_exportBatch batch) leads
  have ended : (registering e.target).afterAll .no past = .no := keeps_of_reaches h hc
  rw [ended] at told
  exact told

theorem accepted_of_finished
    (h : Reaches (steadily registers writes) (exports e .sendOnce initial batches) s)
    (finished : s.Finished) (id : Identity) :
    accepted s id = if id ∈ s.registered ∧ id ∉ initial then 1 else 0 := by
  rw [← ((sound_of_reaches h).once rfl).count id]
  unfold accepted
  congr 1
  refine List.map_congr_left fun c hc => ?_
  obtain ⟨i, caller⟩ := List.getElem?_of_mem hc
  obtain ⟨result, heq⟩ := finished c hc
  rcases c with ⟨rest, past⟩
  subst heq
  exact acceptances_of_done h caller id

theorem exists_pos_of_sum_pos {β : Type} {l : List β} {f : β → Nat} (h : 0 < (l.map f).sum) :
    ∃ x ∈ l, 0 < f x := by
  by_contra none
  push Not at none
  have zero : ∀ x ∈ l, f x = 0 := fun x hx => Nat.le_zero.1 (none x hx)
  rw [List.map_congr_left zero, List.map_const', List.sum_replicate, smul_zero] at h
  exact Nat.lt_irrefl 0 h

theorem occurs_of_accepted
    (h : Reaches (steadily registers writes) (exports e strategy initial batches) s)
    (finished : s.Finished) {id : Identity} (pos : 0 < accepted s id) : Occurs e batches id := by
  obtain ⟨⟨rest, past⟩, hc, pos⟩ := exists_pos_of_sum_pos pos
  obtain ⟨i, caller⟩ := List.getElem?_of_mem hc
  obtain ⟨result, heq⟩ := finished _ hc
  obtain ⟨batch, hb, -⟩ := (leads_of_reaches h).2 i _ caller
  subst heq
  obtain ⟨fates, first, course, -, only⟩ := through_of_done h hb caller
  obtain ⟨⟨c, outcome⟩, hx, declared⟩ := List.countP_pos_iff.1 pos
  rw [Bool.and_eq_true] at declared
  cases c with
  | createDescriptor d =>
    obtain ⟨c, hc, record, hr, rfl⟩ := record_of_mem_calls course (only d outcome hx)
    have belongs := MetricTarget.belongs_of_mem_candidates
      (List.takeWhile_subset _ hc) hr
    refine ⟨batch, List.mem_of_getElem? hb, c, hc, record, hr, ?_⟩
    rw [← belongs.identity]
    exact eq_of_beq declared.1
  | writeSeries | writeSpans | close => cases declared.1

theorem registered_of_occurs
    (h : Reaches (steadily registers writes) (exports e .sendOnce initial batches) s)
    (finished : s.Finished) {id : Identity} (occurs : Occurs e batches id)
    (ok : (registers (e.target.typeOf id)).isOk = true) : id ∈ s.registered := by
  obtain ⟨batch, hb, c, hc, record, hr, rfl⟩ := occurs
  obtain ⟨i, hi⟩ := List.getElem?_of_mem hb
  obtain ⟨hlt, -⟩ := List.getElem?_eq_some_iff.1 hi
  have in_range : i < s.callers.length := by rwa [(leads_of_reaches h).1]
  have caller := List.getElem?_eq_getElem in_range
  obtain ⟨result, heq⟩ := finished _ (List.getElem_mem in_range)
  generalize s.callers[i] = k at caller heq
  rcases k with ⟨rest, past⟩
  subst heq
  obtain ⟨fates, first, course, sub, -⟩ := through_of_done h hi caller
  obtain ⟨part, fate, passage, sub'⟩ := passage_of_course course hc
  have within : ∀ x ∈ part, x ∈ past := fun x hx => sub x (sub' x hx)
  have sound := sound_of_reaches h
  cases passage with
  | nothing | untranslated => cases hr
  | skipped =>
    cases hr
    rcases sound.told i _ caller _ (within _ List.mem_cons_self) with never | ⟨-, known⟩
    · cases never
    · exact known
  | registered remembers ht =>
    cases hr
    have settled : 0 < settlements record.identity past :=
      List.countP_pos_iff.2 ⟨⟨.settle record.identity true, remembers⟩,
        within _ (by simp), beq_self_eq_true _⟩
    have count := (sound.once rfl).count record.identity
    by_contra unknown
    rw [if_neg fun h => unknown h.1, List.sum_eq_zero_iff] at count
    have none_settled : settlements record.identity past = 0 :=
      count _ (List.mem_map.2 ⟨_, List.mem_of_getElem? caller, rfl⟩)
    omega
  | refused cause seen remembers =>
    cases hr
    have belongs := MetricTarget.belongs_of_mem_candidates (List.takeWhile_subset _ hc) rfl
    have refused := answers_of_reaches h caller record.descriptor (.error cause)
      (Trace.mem_calls.2 (within _ (by simp)))
    rw [belongs.type] at refused
    rw [← refused] at ok
    cases ok

/-- Exports that share an exporter at a steady service. There is no way to mix their steps that goes
on forever, and none that is stuck before all of them have their results. Each has the writes and
the result that it has alone from the same cache. And under `sendOnce`, when all have their results,
an identity has been registered once, if it was new, occurs in a record and is not refused, and
otherwise not at all. -/
theorem exports_at_once (e : MetricExporter) (strategy : Strategy) (initial : List Identity)
    (registers : String → Except Failure Unit) (writes : Nat → Nat → Except Failure Unit)
    (batches : List (List ResourceMetrics)) :
    (∀ states : Nat → Traffic ExportResult, states 0 = exports e strategy initial batches →
      ¬ ∀ n, Step (steadily registers writes) (states n) (states (n + 1))) ∧
    ∀ s, Reaches (steadily registers writes) (exports e strategy initial batches) s →
      s.callers.length = batches.length ∧
      (¬ s.Finished → ∃ t, Step (steadily registers writes) s t) ∧
      (∀ (i : Nat) batch result past, batches[i]? = some batch →
        s.callers[i]? = some ⟨.done result, past⟩ →
        ∃ final, (e.exportBatch (some batch)).run
            (Stage.handle (Stage.served (steady registers (writes i))))
            (Stage.opened strategy initial 0 : Stage (List ResourceMetrics)) =
              some (result, final) ∧
          past.calls.filter (fun x => x.1.isWrite) =
            ((steady registers (writes i)).replies [] final.made).filter fun x => x.1.isWrite) ∧
      (strategy = .sendOnce → s.Finished → ∀ id,
        (id ∉ initial ∧ Occurs e batches id ∧ (registers (e.target.typeOf id)).isOk = true →
          accepted s id = 1) ∧
        (¬ (id ∉ initial ∧ Occurs e batches id ∧ (registers (e.target.typeOf id)).isOk = true) →
          accepted s id = 0)) := by
  refine ⟨fun states _ => Traffic.ends states, fun s h => ⟨(leads_of_reaches h).1, exists_step h,
    fun i batch result past hb hc => same_as_alone h hb hc, ?_⟩⟩
  rintro rfl finished id
  rw [accepted_of_finished h finished id]
  constructor
  · rintro ⟨new, occurs, ok⟩
    exact if_pos ⟨registered_of_occurs h finished occurs ok, new⟩
  · intro other
    refine if_neg ?_
    rintro ⟨known, new⟩
    have pos : 0 < accepted s id := by
      rw [accepted_of_finished h finished id, if_pos ⟨known, new⟩]
      exact Nat.one_pos
    have ok := (((sound_of_reaches h).once rfl).sound id known).resolve_left new
    exact other ⟨new, occurs_of_accepted h finished pos, ok⟩

namespace Sample

def types : String → Except Failure Unit := fun type =>
  if type = "workload.googleapis.com/carts" then fails .badValue else .ok ()

end Sample

/-- Of two exports of the same metrics, one registers what is new, and neither what is refused. -/
theorem exports_at_once_sample :
    ∃ s, Reaches (steadily Sample.types fun _ _ => .ok ())
        (exports Sample.exporter .sendOnce [] [Sample.metrics, Sample.metrics]) s ∧
      s.Finished ∧ accepted s ⟨"orders", "GAUGE", "1"⟩ = 1 ∧
      accepted s ⟨"carts", "GAUGE", "1"⟩ = 0 := by
  have begun : Reaches (steadily Sample.types fun _ _ => .ok ())
      (exports Sample.exporter .sendOnce [] [Sample.metrics, Sample.metrics]) _ := .refl
  obtain ⟨s, reached, finished⟩ := exists_finished begun
  obtain ⟨-, all⟩ := exports_at_once Sample.exporter .sendOnce [] Sample.types
    (fun _ _ => .ok ()) [Sample.metrics, Sample.metrics]
  obtain ⟨-, -, -, counts⟩ := all s reached
  refine ⟨s, reached, finished, (counts rfl finished _).1 ?_, (counts rfl finished _).2 ?_⟩
  · exact ⟨nofun, ⟨_, List.mem_cons_self, _, List.mem_cons_self, _, rfl, rfl⟩, rfl⟩
  · rintro ⟨-, -, ok⟩
    cases ok

end MetricExporter

end CloudTelemetry
