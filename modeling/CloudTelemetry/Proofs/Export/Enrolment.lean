import CloudTelemetry.Proofs.Export.Alone

/-!
# Exports one after another

Exports that do not overlap, at one exporter that sends each descriptor once. `Enrolled` follows an
export from stage to stage and says what it does for each record that it translates: the descriptor
is sent where its identity is not registered at that moment, and only there. What is registered in
the end can then be read off the calls (`Enrolled.accounts`), and nothing stays claimed.
-/

namespace CloudTelemetry
open Procedure

/-- The action has nothing to do with descriptors. -/
def Action.IsQuiet : Action → Prop
  | .beginExport | .endExport | .log _ => True
  | .call (.writeSeries _) => True
  | _ => False

namespace Stage
open MetricExporter

variable {Batch : Type}

/-- From stage to stage, and record by record, what an export does for its records. -/
inductive Enrolled (service : Service) :
    Stage Batch → Trace → List MetricRecord → Stage Batch → Prop
  | done {s : Stage Batch} : Enrolled service s [] [] s
  | quiet {s m u : Stage Batch} {x : Exchange Action Action.Reply} {t : Trace}
      {records : List MetricRecord} (aside : x.request.IsQuiet)
      (answer : handle (served service) x.request s = some (x.reply, m))
      (rest : Enrolled service m t records u) : Enrolled service s (x :: t) records u
  /-- the identity is registered, and its descriptor is not sent -/
  | known {s m u : Stage Batch} {record : MetricRecord} {t : Trace} {records : List MetricRecord}
      (registered : record.identity ∈ s.cache.registered)
      (answer : handle (served service) (.claim record.identity) s = some (false, m))
      (rest : Enrolled service m t records u) :
      Enrolled service s (⟨.claim record.identity, false⟩ :: t) (record :: records) u
  /-- the identity is not registered, and its descriptor is sent -/
  | new {s m u : Stage Batch} {record : MetricRecord} {t : Trace} {records : List MetricRecord}
      {outcome : Except Failure Unit} {remembers : Bool}
      (unregistered : record.identity ∉ s.cache.registered)
      (answers : Answers (handle (served service)) s [⟨.claim record.identity, true⟩,
        ⟨.call (.createDescriptor record.descriptor), outcome⟩,
        ⟨.settle record.identity outcome.isOk, remembers⟩] m)
      (rest : Enrolled service m t records u) :
      Enrolled service s (⟨.claim record.identity, true⟩ ::
        ⟨.call (.createDescriptor record.descriptor), outcome⟩ ::
        ⟨.settle record.identity outcome.isOk, remembers⟩ :: t) (record :: records) u

variable {service : Service} {s m u : Stage Batch} {t later : Trace}
  {records others : List MetricRecord}

theorem Enrolled.append (first : Enrolled service s t records m)
    (next : Enrolled service m later others u) :
    Enrolled service s (t ++ later) (records ++ others) u := by
  induction first with
  | done => exact next
  | quiet aside answer _ ih => exact .quiet aside answer (ih next)
  | known registered answer _ ih => exact .known registered answer (ih next)
  | new unregistered answers _ ih => exact .new unregistered answers (ih next)

theorem enrolled_of_quiet (h : Answers (handle (served service)) s t u)
    (quiet : ∀ x ∈ t, x.request.IsQuiet) : Enrolled service s t [] u := by
  induction t generalizing s with
  | nil =>
    obtain rfl : s = u := h
    exact .done
  | cons x t ih =>
    obtain ⟨m, answer, h⟩ := h
    rw [List.forall_mem_cons] at quiet
    exact .quiet quiet.1 answer (ih h quiet.2)

theorem handle_quiet {a : Action} {reply : a.Reply} (quiet : a.IsQuiet)
    (h : handle (served service) a s = some (reply, u)) :
    u.cache = s.cache ∧ u.lifecycle.isShutdown = s.lifecycle.isShutdown := by
  cases a with
  | beginExport =>
    simp only [handle, Lifecycle.beginExport] at h
    cases shut : s.lifecycle.isShutdown <;> rw [shut] at h <;> cases h
    · exact ⟨rfl, rfl⟩
    · exact ⟨rfl, shut⟩
  | endExport | log =>
    cases h
    exact ⟨rfl, rfl⟩
  | call c =>
    cases c with
    | writeSeries series =>
      cases h
      exact ⟨rfl, rfl⟩
    | createDescriptor | writeSpans | close => exact quiet.elim
  | isShutdown | waitIdle | shutDown | state | claim | settle => exact quiet.elim

/-! ### What comes of it -/

theorem acceptances_of_quiet (id : Identity) {x : Exchange Action Action.Reply}
    (quiet : x.request.IsQuiet) : acceptances id [x] = 0 := by
  obtain ⟨a, reply⟩ := x
  cases a with
  | beginExport | endExport | log => rfl
  | call c =>
    cases c with
    | writeSeries => rfl
    | createDescriptor | writeSpans | close => exact quiet.elim
  | isShutdown | waitIdle | shutDown | state | claim | settle => exact quiet.elim

theorem acceptances_create (id : Identity) (d : Descriptor) (outcome : Except Failure Unit) :
    acceptances id [⟨.call (.createDescriptor d), outcome⟩] =
      if d.identity = id ∧ outcome.isOk = true then 1 else 0 := by
  by_cases same : d.identity = id
  · cases outcome <;> simp [acceptances, Trace.calls, Exchange.call?, Call.declares, same]
  · simp [acceptances, Trace.calls, Exchange.call?, Call.declares, same]

/-- What the identities that are registered in the end have to do with the calls. -/
structure Accounts (known later : List Identity) (t : Trace) : Prop where
  once : ∀ id, acceptances id t ≤ if id ∈ known then 0 else 1
  registered : ∀ id, id ∈ later ↔ id ∈ known ∨ acceptances id t = 1

theorem Accounts.append {known middle last : List Identity}
    (first : Accounts known middle t) (next : Accounts middle last later) :
    Accounts known last (t ++ later) := by
  have both : ∀ id, acceptances id (t ++ later) ≤ (if id ∈ known then 0 else 1) ∧
      (id ∈ last ↔ id ∈ known ∨ acceptances id (t ++ later) = 1) := by
    intro id
    have once := first.once id
    have once' := next.once id
    rw [acceptances_append, next.registered, first.registered]
    rw [if_congr (first.registered id) rfl rfl] at once'
    by_cases old : id ∈ known
    · rw [if_pos old] at once
      rw [if_pos (.inl old)] at once'
      rw [if_pos old]
      exact ⟨by omega, by simp [old]⟩
    · rw [if_neg old] at once ⊢
      by_cases new : acceptances id t = 1
      · rw [if_pos (.inr new)] at once'
        exact ⟨by omega, by simp [old]; omega⟩
      · rw [if_neg (by simp [old, new])] at once'
        exact ⟨by omega, by simp [old]; omega⟩
  exact ⟨fun id => (both id).1, fun id => (both id).2⟩

theorem accounts_of_quiet (known : List Identity) (h : ∀ id, acceptances id t = 0) :
    Accounts known known t where
  once id := by
    rw [h]
    exact Nat.zero_le _
  registered id := by
    rw [h]
    simp

theorem accounts_of_registration {known : List Identity} {id : Identity} {d : Descriptor}
    {outcome : Except Failure Unit} {remembers : Bool} (declares : d.identity = id)
    (unknown : id ∉ known) : Accounts known (known ++ if outcome.isOk then [id] else [])
      [⟨.claim id, true⟩, ⟨.call (.createDescriptor d), outcome⟩,
        ⟨.settle id outcome.isOk, remembers⟩] := by
  have count : ∀ x, acceptances x [⟨.claim id, true⟩, ⟨.call (.createDescriptor d), outcome⟩,
      ⟨.settle id outcome.isOk, remembers⟩] = if id = x ∧ outcome.isOk = true then 1 else 0 := by
    intro x
    have sent := acceptances_create x d outcome
    rw [declares] at sent
    exact sent
  refine ⟨fun x => ?_, fun x => ?_⟩
  · rw [count]
    by_cases same : id = x
    · subst same
      rw [if_neg unknown]
      split <;> omega
    · rw [if_neg fun h => same h.1]
      exact Nat.zero_le _
  · rw [count, List.mem_append]
    cases outcome with
    | error cause => simp
    | ok u => simp [eq_comm]

variable {known : List Identity}

/-- Whoever enrols records leaves nothing claimed, and its calls tell what is registered. -/
theorem Enrolled.accounts (h : Enrolled service s t records u) (st : Stands .sendOnce .no known s)
    (declares : ∀ r ∈ records, r.descriptor.identity = r.identity) :
    ∃ later, Stands .sendOnce .no later u ∧ Accounts known later t := by
  induction h generalizing known with
  | done => exact ⟨known, st, accounts_of_quiet known fun _ => rfl⟩
  | @quiet s m u x t records aside answer _ ih =>
    obtain ⟨cache, -⟩ := handle_quiet aside answer
    obtain ⟨later, st', accounts⟩ := ih (st.of_cache cache rfl) declares
    have first : Accounts known known [x] :=
      accounts_of_quiet known fun id => acceptances_of_quiet id aside
    exact ⟨later, st', first.append accounts⟩
  | @known s m u record t records registered answer _ ih =>
    rw [List.forall_mem_cons] at declares
    obtain ⟨-, st'⟩ := st.of_claim answer
    obtain ⟨later, st'', accounts⟩ := ih st' declares.2
    have first : Accounts known known [⟨.claim record.identity, false⟩] :=
      accounts_of_quiet known fun _ => rfl
    exact ⟨later, st'', first.append accounts⟩
  | @new s m u record t records outcome remembers unregistered answers _ ih =>
    rw [List.forall_mem_cons] at declares
    have unknown : record.identity ∉ known := fun h =>
      unregistered ((st.registered rfl _).2 h)
    obtain ⟨-, -, n, st', same⟩ := st.register answers
    obtain rfl : n = m := same
    obtain ⟨later, st'', accounts⟩ := ih st' declares.2
    exact ⟨later, st'', (accounts_of_registration declares.1 unknown).append accounts⟩

theorem Enrolled.isShutdown (h : Enrolled service s t records u) :
    u.lifecycle.isShutdown = s.lifecycle.isShutdown := by
  induction h with
  | done => rfl
  | quiet aside answer _ ih => exact ih.trans (handle_quiet aside answer).2
  | @known s m u record t records registered answer _ ih =>
    refine ih.trans ?_
    simp only [handle] at answer
    split at answer <;> cases answer
    rfl
  | @new s m u record t records outcome remembers unregistered answers _ ih =>
    refine ih.trans ?_
    obtain ⟨m₁, h₁, m₂, h₂, m₃, h₃, rfl⟩ := answers
    simp only [handle] at h₁
    split at h₁ <;> cases h₁
    cases h₂
    cases h₃
    rfl

/-! ### Exports enrol what they translate -/

theorem Stands.asks_iff {g : Registering} {id : Identity} (st : Stands .sendOnce g known s) :
    Strategy.asks .sendOnce known id = true ↔ id ∉ s.cache.registered := by
  rw [st.registered rfl]
  simp [Strategy.asks]

theorem enrolled_of_passage {c : Candidate} {fate : Fate} (h : Passage c t fate)
    (st : Stands .sendOnce .no known s) (ha : Answers (handle (served service)) s t u) :
    Enrolled service s t c.record?.toList u := by
  cases h with
  | nothing =>
    obtain rfl : s = u := ha
    exact .done
  | untranslated own => exact enrolled_of_quiet ha (List.forall_mem_singleton.2 trivial)
  | @skipped name record =>
    obtain ⟨m, answer, rfl⟩ := ha
    obtain ⟨asks, -⟩ := st.of_claim answer
    have registered : record.identity ∈ s.cache.registered := by
      by_contra unknown
      cases asks.trans (st.asks_iff.2 unknown)
    exact .known registered answer .done
  | @registered name record remembers told ht =>
    obtain ⟨asks, -⟩ := st.register ha
    have unregistered := st.asks_iff.1 asks
    obtain ⟨m₁, claims, m₂, calls, m, settles, ha⟩ := ha
    refine .new unregistered ⟨m₁, claims, m₂, calls, m, settles, rfl⟩ (enrolled_of_quiet ha ?_)
    subst ht
    split
    · exact List.forall_mem_singleton.2 trivial
    · nofun
  | @refused name record cause seen remembers =>
    obtain ⟨asks, -⟩ := st.register ha
    have unregistered := st.asks_iff.1 asks
    obtain ⟨m₁, claims, m₂, calls, m, settles, ha⟩ := ha
    exact .new unregistered ⟨m₁, claims, m₂, calls, m, settles, rfl⟩
      (enrolled_of_quiet ha (List.forall_mem_singleton.2 trivial))

theorem enrolled_of_course {cs : List Candidate} {fates : List Fate} (h : Course cs t fates)
    (st : Stands .sendOnce .no known s) (ha : Answers (handle (served service)) s t u) :
    Enrolled service s t (cs.filterMap Candidate.record?) u := by
  induction h generalizing s known with
  | nil =>
    obtain rfl : s = u := ha
    exact .done
  | @cons c part fate rest later fates first next ih =>
    obtain ⟨m, h₁, h₂⟩ := answers_append.1 ha
    obtain ⟨-, st'⟩ := fate_of_answers first st h₁
    have records : (c :: rest).filterMap Candidate.record? =
        c.record?.toList ++ rest.filterMap Candidate.record? := by
      rw [List.filterMap_cons]
      cases c.record? <;> rfl
    rw [records]
    exact (enrolled_of_passage first st h₁).append (ih st' h₂)

theorem quiet_of_writing {e : MetricExporter} {runs : List (List (Nat × TimeSeries))}
    {outcomes : List (Except Failure Unit)} (h : Writing e runs t outcomes) :
    ∀ x ∈ t, x.request.IsQuiet := by
  induction h with
  | nil => nofun
  | written next ih => exact List.forall_mem_cons.2 ⟨trivial, ih⟩
  | failed cause seen next ih =>
    exact List.forall_mem_cons.2 ⟨trivial, List.forall_mem_cons.2 ⟨trivial, ih⟩⟩

theorem quiet_of_told (e : MetricExporter) (records : List MetricRecord) (failed : Nat) :
    ∀ x ∈ e.told records failed, x.request.IsQuiet := by
  unfold MetricExporter.told
  split
  · nofun
  · exact List.forall_mem_singleton.2 trivial

end Stage

namespace MetricExporter
open Stage

/-- The records that an export of a batch comes to: up to the candidate that ends it, if any. -/
def translated (e : MetricExporter) : Option (List ResourceMetrics) → List MetricRecord
  | some batch => (goneThrough (e.target.candidates batch)).filterMap Candidate.record?
  | none => []

theorem declares_of_translated {e : MetricExporter} {batch : Option (List ResourceMetrics)} :
    ∀ r ∈ e.translated batch, r.descriptor.identity = r.identity := by
  cases batch with
  | none => nofun
  | some batch =>
    intro r hr
    obtain ⟨c, hc, heq⟩ := List.mem_filterMap.1 hr
    have mem : c ∈ e.target.candidates batch := List.takeWhile_subset _ hc
    exact (MetricTarget.belongs_of_mem_candidates mem heq).identity

variable {e : MetricExporter} {service : Service} {s m u : Stage (List ResourceMetrics)} {t : Trace}
  {known : List Identity}

theorem goes_exportBatch_none {result : ExportResult} (h : (e.exportBatch none).Goes t result) :
    t = [⟨.beginExport, false⟩, ⟨.log (.batchRefused .metrics), ()⟩] ∨
      ∃ cause, t = [⟨.beginExport, true⟩, ⟨.log (.internalError "metric export" cause), ()⟩,
        ⟨.endExport, ()⟩] := by
  obtain ⟨_, begun, _, rfl, h₁, h₂⟩ := goes_bind.1 h
  obtain rfl := goes_act.1 h₁
  cases begun with
  | false =>
    obtain ⟨_, _, _, rfl, h₃, h₄⟩ := goes_bind.1 h₂
    obtain rfl := goes_log.1 h₃
    obtain ⟨rfl, -⟩ := goes_pure.1 h₄
    exact .inl rfl
  | true =>
    obtain ⟨_, out, _, rfl, h₃, h₄⟩ := goes_bind.1 h₂
    obtain ⟨rfl, rfl⟩ := goes_pure.1 h₃
    obtain ⟨_, _, _, rfl, h₅, h₆⟩ := goes_bind.1 h₄
    obtain rfl := goes_log.1 h₅
    obtain ⟨_, _, _, rfl, h₇, h₈⟩ := goes_bind.1 h₆
    obtain ⟨rfl, rfl⟩ := goes_pure.1 h₇
    obtain ⟨_, _, _, rfl, h₉, h₁₀⟩ := goes_bind.1 h₈
    obtain rfl := goes_act.1 h₉
    obtain ⟨rfl, -⟩ := goes_pure.1 h₁₀
    exact .inr ⟨_, rfl⟩

/-- An export that has begun goes through its candidates first, and does nothing about descriptors
afterwards. -/
theorem split_of_begun {batch : List ResourceMetrics} {fates : List Fate} {result : ExportResult}
    (h : (∃ outcomes, Exported e batch t fates outcomes result) ∨
      Aborted e batch t fates result) :
    ∃ first rest, t = ⟨.beginExport, true⟩ :: (first ++ rest) ∧
      Course (goneThrough (e.target.candidates batch)) first fates ∧
      ∀ x ∈ rest, x.request.IsQuiet := by
  rcases h with ⟨outcomes, exported⟩ | aborted
  · obtain ⟨first, second, rfl, course, writing⟩ := exported.parts
    have all := goneThrough_eq_self (failsAlone_of_course course)
    refine ⟨first, _, rfl, by rwa [all], ?_⟩
    rw [List.forall_mem_append, List.forall_mem_append]
    exact ⟨quiet_of_writing writing, quiet_of_told _ _ _, List.forall_mem_singleton.2 trivial⟩
  · obtain ⟨before, c, after, first, cause, split, doom, rfl, course⟩ := aborted.parts
    refine ⟨first, _, rfl, by rwa [split, goneThrough_append course doom], ?_⟩
    exact List.forall_mem_cons.2 ⟨trivial, List.forall_mem_singleton.2 trivial⟩

theorem begun_of_open {begun : Bool} {rest : Trace} (isOpen : s.lifecycle.isShutdown = false)
    (h : Answers (Stage.handle (served service)) s (⟨.beginExport, begun⟩ :: rest) u) :
    begun = true := by
  obtain ⟨m, answer, -⟩ := h
  simp only [Stage.handle, Lifecycle.beginExport, isOpen] at answer
  cases answer
  rfl

theorem enrolled_of_goes {batch : Option (List ResourceMetrics)} {result : ExportResult}
    (goes : (e.exportBatch batch).Goes t result) (st : Stands .sendOnce .no known s)
    (isOpen : s.lifecycle.isShutdown = false) (ha : Answers (Stage.handle (served service)) s t u) :
    Enrolled service s t (e.translated batch) u := by
  cases batch with
  | none =>
    refine enrolled_of_quiet ha ?_
    rcases goes_exportBatch_none goes with rfl | ⟨cause, rfl⟩ <;> simp [Action.IsQuiet]
  | some batch =>
    have begun : ∃ fates, (∃ outcomes, Exported e batch t fates outcomes result) ∨
        Aborted e batch t fates result := by
      rcases goes_exportBatch goes with ⟨rfl, -⟩ | ⟨fates, exported⟩ | ⟨fates, aborted⟩
      · cases begun_of_open isOpen ha
      · exact ⟨fates, .inl exported⟩
      · exact ⟨fates, .inr aborted⟩
    obtain ⟨fates, begun⟩ := begun
    obtain ⟨first, rest, rfl, course, quiet⟩ := split_of_begun begun
    obtain ⟨m, begins, ha⟩ := ha
    obtain ⟨n, gathers, ends⟩ := answers_append.1 ha
    have aside : Action.IsQuiet .beginExport := trivial
    have st' : Stands .sendOnce .no known m := st.of_cache (handle_quiet aside begins).1 rfl
    have enrolled := (enrolled_of_course course st' gathers).append (enrolled_of_quiet ends quiet)
    rw [List.append_nil] at enrolled
    exact .quiet aside begins enrolled

/-! ### One after another -/

/-- Exports that do not overlap: each runs to its end on the stage that the one before has left,
enrols what it translates, and leaves nothing claimed. -/
inductive InTurn (e : MetricExporter) (service : Service) : Stage (List ResourceMetrics) →
    List (Option (List ResourceMetrics)) → Trace → Stage (List ResourceMetrics) → Prop
  | done {s : Stage (List ResourceMetrics)} : InTurn e service s [] [] s
  | next {s m u : Stage (List ResourceMetrics)} {batch : Option (List ResourceMetrics)}
      {rest : List (Option (List ResourceMetrics))} {result : ExportResult} {t later : Trace}
      (run : (e.exportBatch batch).run (Stage.handle (served service)) s = some (result, m))
      (goes : (e.exportBatch batch).Goes t result)
      (enrolled : Enrolled service s t (e.translated batch) m) (released : m.cache.pending = [])
      (others : InTurn e service m rest later u) :
      InTurn e service s (batch :: rest) (t ++ later) u

theorem pending_eq_nil {Batch : Type} {s : Stage Batch} (st : Stands .sendOnce .no known s) :
    s.cache.pending = [] := by
  refine List.eq_nil_iff_forall_not_mem.2 fun id h => ?_
  cases (st.pending rfl id).1 h

theorem exists_inTurn (e : MetricExporter) (service : Service)
    (batches : List (Option (List ResourceMetrics))) (st : Stands .sendOnce .no known s)
    (isOpen : s.lifecycle.isShutdown = false) :
    ∃ t u later, InTurn e service s batches t u ∧ Stands .sendOnce .no later u ∧
      Accounts known later t := by
  induction batches generalizing s known with
  | nil => exact ⟨[], s, known, .done, st, accounts_of_quiet known fun _ => rfl⟩
  | cons batch rest ih =>
    obtain ⟨result, m, t, run, goes, answers⟩ := st.run_eq_some e batch service
    have enrolled := enrolled_of_goes goes st isOpen answers
    obtain ⟨middle, st', accounts⟩ := enrolled.accounts st declares_of_translated
    obtain ⟨later, u, last, others, st'', accounts'⟩ := ih st' (enrolled.isShutdown.trans isOpen)
    exact ⟨t ++ later, u, last, .next run goes enrolled (pending_eq_nil st') others, st'',
      accounts.append accounts'⟩

/-- Any exports one after another, from any registered identities, and whatever the service answers.
Each of them runs to its end and sends the descriptor of a record that it translates just where the
identity is not registered at that moment; no identity is accepted twice, nor one that was
registered before; in the end those are registered that were or have been accepted; and no export
leaves a claim behind, so that what has failed is tried again. -/
theorem exports_in_turn (e : MetricExporter) (service : Service) (initial : List Identity)
    (batches : List (Option (List ResourceMetrics))) :
    ∃ t final, InTurn e service (opened .sendOnce initial 0) batches t final ∧
      (∀ id, acceptances id t ≤ if id ∈ initial then 0 else 1) ∧
      (∀ id, id ∈ final.cache.registered ↔ id ∈ initial ∨ acceptances id t = 1) ∧
      final.cache.pending = [] := by
  obtain ⟨t, final, later, inTurn, st, accounts⟩ :=
    exists_inTurn e service batches (stands_opened 0) rfl
  refine ⟨t, final, inTurn, accounts.once, fun id => ?_, pending_eq_nil st⟩
  rw [st.registered rfl, accounts.registered]

end MetricExporter

end CloudTelemetry
