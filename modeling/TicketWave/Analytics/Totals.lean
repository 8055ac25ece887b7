import TicketWave.Analytics.Projection

/-!
# Every message counts once

The committed markers go along with a ledger of the changes behind them.
-/

namespace TicketWave.Analytics

open Library TicketWave.Order

/-- What the changes add up to for the event, if there are any. -/
def total (changes : List Change) (event : UUID) : Option Delta :=
  match changes.filter fun change => decide (change.eventId = event) with
  | [] => none
  | first :: rest => some ((first :: rest).map Change.delta).sum

theorem total_of_perm {left right : List Change} (same : left.Perm right)
    (event : UUID) : total left event = total right event := by
  have relevant := same.filter fun change => decide (change.eventId = event)
  unfold total
  split
  · rename_i noneLeft
    rw [noneLeft] at relevant
    rw [relevant.nil_eq.symm]
  · rename_i first rest someLeft
    rw [someLeft] at relevant
    split
    · rename_i noneRight
      rw [noneRight] at relevant
      cases relevant.eq_nil
    · rename_i second others someRight
      rw [someRight] at relevant
      rw [(relevant.map Change.delta).sum_eq]

theorem total_append (changes : List Change) (change : Change) (event : UUID) :
    total (changes ++ [change]) event =
      if change.eventId = event then
        some (upserted (total changes event) change.delta)
      else
        total changes event := by
  unfold total
  rw [List.filter_append]
  by_cases same : change.eventId = event
  · have kept :
        [change].filter (fun change => decide (change.eventId = event)) =
          [change] :=
      List.filter_cons_of_pos (by simpa using same)
    rw [if_pos same, kept]
    cases before :
        changes.filter fun change => decide (change.eventId = event) with
    | nil => simp [upserted]
    | cons first rest => simp [upserted, add_assoc]
  · have dropped :
        [change].filter (fun change => decide (change.eventId = event)) = [] :=
      List.filter_cons_of_neg (by simpa using same)
    rw [if_neg same, dropped, List.append_nil]

theorem stats_setStats
    (db : Db) (event : UUID) (counters : Delta) (other : UUID) :
    (db.setStats event counters).stats other =
      if other = event then some counters else db.stats other := by
  unfold Db.setStats
  by_cases present : (db.stats event).isSome
  · rw [if_pos present]
    unfold Db.stats at present ⊢
    rw [lookup_updateWhere (by intro row; rfl), Option.map_map]
    by_cases same : other = event
    · subst same
      rw [if_pos rfl]
      cases found : lookup StatsRow.eventId db.eventStats other with
      | none =>
          rw [found] at present
          cases present
      | some row => simp [key_of_lookup found]
    · rw [if_neg same]
      cases found : lookup StatsRow.eventId db.eventStats other with
      | none => rfl
      | some row =>
          have different : row.eventId ≠ event := by
            rw [key_of_lookup found]
            exact same
          simp [different]
  · have missing : lookup StatsRow.eventId db.eventStats event = none := by
      cases found : lookup StatsRow.eventId db.eventStats event with
      | none => rfl
      | some row => simp [Db.stats, found] at present
    rw [if_neg present]
    unfold Db.stats
    rw [lookup_append, lookup_cons]
    by_cases same : other = event
    · subst same
      simp [missing]
    · have different : event ≠ other := fun equal => same equal.symm
      simp [same, different, lookup]

theorem processed_setStats (db : Db) (event : UUID) (counters : Delta) :
    (db.setStats event counters).processed = db.processed := by
  unfold Db.setStats
  split <;> rfl

section Calls

variable {Value : Type} {uuid : UuidText}
  {decode : Value → Except String OrderEvent}

theorem changes_cons {msg : Kafka.Message Value} {change : Change}
    (parsed : parse uuid decode msg = .ok (some change))
    (rest : List (Kafka.Message Value)) :
    changes uuid decode (msg :: rest) = change :: changes uuid decode rest := by
  unfold changes
  rw [List.filterMap_cons, parsed]
  rfl

theorem changes_cons_of_none
    {msg : Kafka.Message Value} (parsed : parse uuid decode msg = .ok none)
    (rest : List (Kafka.Message Value)) :
    changes uuid decode (msg :: rest) = changes uuid decode rest := by
  unfold changes
  rw [List.filterMap_cons, parsed]
  rfl

/-- What is known of an open call. -/
structure Honest
    (uuid : UuidText) (decode : Value → Except String OrderEvent)
    (db : Db) (call : Call Value) : Prop where
  parsed : parse uuid decode call.msg = .ok (some call.change)
  skipping : call.phase = .skipping → call.change.messageId ∈ db.processed
  fresh : ∀ messageId, call.marks messageId = true → messageId ∉ db.processed
  counted :
    ∀ counters, call.phase = .counted counters →
      counters = upserted (db.stats call.change.eventId) call.change.delta

/-- The tables tell the ledger. -/
structure Kept
    (uuid : UuidText) (decode : Value → Except String OrderEvent)
    (state : State Value) (ledger : List Change) : Prop where
  processed : state.db.processed = ledger.map Change.messageId
  distinct : (ledger.map Change.messageId).Nodup
  totals : ∀ event, state.db.stats event = total ledger event
  included : ∀ change ∈ ledger, change ∈ changes uuid decode state.handled
  covered :
    ∀ change ∈ changes uuid decode state.handled,
      change.messageId ∈ state.db.processed
  honest :
    ∀ {id call}, state.calls.get id = some call →
      Honest uuid decode state.db call
  markers : ∀ messageId, state.calls.Exclusive fun call => call.marks messageId
  counters : ∀ event, state.calls.Exclusive fun call => call.counts event

theorem kept_empty : Kept uuid decode (State.empty Value) [] where
  processed := rfl
  distinct := List.nodup_nil
  totals := fun _ => rfl
  included := by
    intro change member
    cases member
  covered := by
    intro change member
    cases member
  honest := by
    intro id call found
    cases found
  markers := by
    intro messageId left right leftCall rightCall found
    cases found
  counters := by
    intro event left right leftCall rightCall found
    cases found

variable {state : State Value} {ledger : List Change} {id : Nat}
  {call : Call Value}

theorem kept_put (kept : Kept uuid decode state ledger)
    (honest : Honest uuid decode state.db call)
    (markers :
      ∀ messageId, call.marks messageId = true →
        ∀ {other old}, other ≠ id → state.calls.get other = some old →
          old.marks messageId = false)
    (counters :
      ∀ event, call.counts event = true →
        ∀ {other old}, other ≠ id → state.calls.get other = some old →
          old.counts event = false) :
    Kept uuid decode (state.put id call) ledger where
  processed := kept.processed
  distinct := kept.distinct
  totals := kept.totals
  included := kept.included
  covered := kept.covered
  honest := by
    intro other value found
    rcases Registry.cases_of_get_put found with ⟨_, rfl⟩ | ⟨_, stored⟩
    · exact honest
    · exact kept.honest stored
  markers := fun messageId =>
    (kept.markers messageId).put (markers messageId)
  counters := fun event => (kept.counters event).put (counters event)

theorem Kept.marks_alone (kept : Kept uuid decode state ledger)
    (found : state.calls.get id = some call) {messageId : UUID}
    (marks : call.marks messageId = true) {other : Nat} {old : Call Value}
    (different : other ≠ id) (stored : state.calls.get other = some old) :
    old.marks messageId = false := by
  cases alsoMarks : old.marks messageId with
  | false => rfl
  | true =>
      exact
        absurd (kept.markers messageId stored found alsoMarks marks) different

theorem Kept.counts_alone (kept : Kept uuid decode state ledger)
    (found : state.calls.get id = some call) {event : UUID}
    (counts : call.counts event = true) {other : Nat} {old : Call Value}
    (different : other ≠ id) (stored : state.calls.get other = some old) :
    old.counts event = false := by
  cases alsoCounts : old.counts event with
  | false => rfl
  | true =>
      exact
        absurd (kept.counters event stored found alsoCounts counts) different

theorem kept_of_mark (kept : Kept uuid decode state ledger)
    (found : state.calls.get id = some call)
    (free :
      ∀ {other value}, state.calls.get other = some value →
        value.marks call.change.messageId = false)
    (fresh : call.change.messageId ∉ state.db.processed) :
    Kept uuid decode (state.put id (call.goto .marked)) ledger := by
  have isSame :
      ∀ messageId, (call.goto .marked).marks messageId = true →
        call.change.messageId = messageId :=
    fun messageId marks => of_decide_eq_true marks
  apply kept_put kept
  · refine ⟨(kept.honest found).parsed, ?_, ?_, ?_⟩
    · intro isSkipping
      cases isSkipping
    · intro messageId marks
      rw [← isSame messageId marks]
      exact fresh
    · intro counters isCounted
      cases isCounted
  · intro messageId marks other old _ stored
    rw [← isSame messageId marks]
    exact free stored
  · intro event counts
    cases counts

theorem kept_of_count (kept : Kept uuid decode state ledger)
    (found : state.calls.get id = some call) (phase : call.phase = .marked)
    (free :
      ∀ {other value}, state.calls.get other = some value →
        value.counts call.change.eventId = false) :
    Kept uuid decode
      (state.put id
        (call.goto
          (.counted
            (upserted (state.db.stats call.change.eventId)
              call.change.delta)))) ledger := by
  have marked :
      ∀ messageId,
        call.marks messageId = decide (call.change.messageId = messageId) := by
    intro messageId
    simp only [Call.marks, phase]
  apply kept_put kept
  · refine ⟨(kept.honest found).parsed, ?_, ?_, ?_⟩
    · intro isSkipping
      cases isSkipping
    · intro messageId marks
      exact (kept.honest found).fresh messageId ((marked messageId).trans marks)
    · intro counters isCounted
      cases isCounted
      rfl
  · intro messageId marks other old different stored
    exact
      kept.marks_alone found ((marked messageId).trans marks) different stored
  · intro event counts other old _ stored
    have isSame : call.change.eventId = event := of_decide_eq_true counts
    rw [← isSame]
    exact free stored

/-- What a call has read stays true when another one commits, which writes
another marker and another row of counters. -/
theorem Honest.of_commit {before after : Db} {messageId event : UUID}
    {counters : Delta} (honest : Honest uuid decode before call)
    (processed : after.processed = before.processed ++ [messageId])
    (stats :
      ∀ stored, after.stats stored =
        if stored = event then some counters else before.stats stored)
    (otherMarker : call.marks messageId = false)
    (otherRow : call.counts event = false) : Honest uuid decode after call := by
  refine ⟨honest.parsed, ?_, ?_, ?_⟩
  · intro isSkipping
    rw [processed]
    exact List.mem_append_left _ (honest.skipping isSkipping)
  · intro marker marks
    rw [processed]
    intro member
    rcases List.mem_append.mp member with known | isNew
    · exact honest.fresh marker marks known
    · rw [List.mem_singleton.mp isNew, otherMarker] at marks
      cases marks
  · intro read isCounted
    have apart : call.change.eventId ≠ event := by
      intro same
      simp [Call.counts, isCounted, same] at otherRow
    rw [stats, if_neg apart]
    exact honest.counted read isCounted

theorem kept_of_commit {counters : Delta} {db : Db}
    (kept : Kept uuid decode state ledger)
    (found : state.calls.get id = some call)
    (phase : call.phase = .counted counters)
    (processed : db.processed = state.db.processed ++ [call.change.messageId])
    (stats :
      ∀ event, db.stats event =
        if event = call.change.eventId then some counters
        else state.db.stats event) :
    Kept uuid decode (state.commit id call db) (ledger ++ [call.change]) := by
  have honest := kept.honest found
  have marks : call.marks call.change.messageId = true := by
    simp [Call.marks, phase]
  have counts : call.counts call.change.eventId = true := by
    simp [Call.counts, phase]
  have fresh := honest.fresh _ marks
  have handled := changes_cons honest.parsed state.handled
  constructor
  case processed =>
      show db.processed = (ledger ++ [call.change]).map Change.messageId
      rw [processed, kept.processed, List.map_append, List.map_singleton]
  case distinct =>
      apply nodup_keys_append kept.distinct
      rw [← kept.processed]
      exact fresh
  case totals =>
      intro event
      show db.stats event = total (ledger ++ [call.change]) event
      rw [stats, total_append]
      by_cases same : event = call.change.eventId
      · rw [if_pos same, if_pos same.symm, honest.counted counters phase,
          same, kept.totals]
      · rw [if_neg same, if_neg (fun equal => same equal.symm), kept.totals]
  case included =>
      intro change member
      show change ∈ changes uuid decode (call.msg :: state.handled)
      rw [handled]
      rcases List.mem_append.mp member with old | new
      · exact List.mem_cons_of_mem _ (kept.included change old)
      · rw [List.mem_singleton.mp new]
        exact List.mem_cons_self
  case covered =>
      intro change member
      have among : change ∈ call.change :: changes uuid decode state.handled :=
        handled ▸ member
      show change.messageId ∈ db.processed
      rw [processed]
      rcases List.mem_cons.mp among with rfl | old
      · exact List.mem_append_right _ List.mem_cons_self
      · exact List.mem_append_left _ (kept.covered change old)
  case honest =>
      intro other value isFound
      obtain ⟨different, stored⟩ := Registry.get_of_get_finish isFound
      exact (kept.honest stored).of_commit processed stats
        (kept.marks_alone found marks different stored)
        (kept.counts_alone found counts different stored)
  case markers =>
      exact fun messageId => (kept.markers messageId).finish
  case counters =>
      exact fun event => (kept.counters event).finish

theorem kept_of_acknowledge (kept : Kept uuid decode state ledger)
    (found : state.calls.get id = some call) (phase : call.phase = .skipping) :
    Kept uuid decode (state.commit id call state.db) ledger := by
  have honest := kept.honest found
  have handled := changes_cons honest.parsed state.handled
  refine { kept with
    included := ?_
    covered := ?_
    honest := fun isFound =>
      kept.honest (Registry.get_of_get_finish isFound).2
    markers := fun messageId => (kept.markers messageId).finish
    counters := fun event => (kept.counters event).finish }
  · intro change member
    show change ∈ changes uuid decode (call.msg :: state.handled)
    rw [handled]
    exact List.mem_cons_of_mem _ (kept.included change member)
  · intro change member
    have among : change ∈ call.change :: changes uuid decode state.handled :=
      handled ▸ member
    rcases List.mem_cons.mp among with rfl | old
    · exact honest.skipping phase
    · exact kept.covered change old

theorem kept_of_transition {next : State Value} {label : Label Value}
    (kept : Kept uuid decode state ledger)
    (transition : Transition uuid decode state label next) :
    ∃ nextLedger, Kept uuid decode next nextLedger := by
  cases transition with
  | failed => exact ⟨ledger, kept⟩
  | ignored nothing =>
      have handled := changes_cons_of_none nothing state.handled
      exact ⟨ledger,
        { kept with
          included := fun change member =>
            handled ▸ kept.included change member
          covered := fun change member =>
            kept.covered change (handled ▸ member) }⟩
  | @began msg change parsed =>
      refine ⟨ledger,
        { kept with
          honest := ?_
          markers := fun messageId => (kept.markers messageId).launch rfl
          counters := fun event => (kept.counters event).launch rfl }⟩
      intro id call found
      rcases Registry.cases_of_get_launch found with ⟨_, rfl⟩ | stored
      · refine ⟨parsed, ?_, ?_, ?_⟩
        · intro isSkipping
          cases isSkipping
        · intro messageId marks
          cases marks
        · intro counters isCounted
          cases isCounted
      · exact kept.honest stored
  | skipped found known =>
      refine ⟨ledger, kept_put kept ?_ ?_ ?_⟩
      · refine ⟨(kept.honest found).parsed, fun _ => known, ?_, ?_⟩
        · intro messageId marks
          cases marks
        · intro counters isCounted
          cases isCounted
      · intro messageId marks
        cases marks
      · intro event counts
        cases counts
  | marked found phase free fresh =>
      exact ⟨ledger, kept_of_mark kept found free fresh⟩
  | counted found phase free =>
      exact ⟨ledger, kept_of_count kept found phase free⟩
  | acknowledged found phase =>
      exact ⟨ledger, kept_of_acknowledge kept found phase⟩
  | @committed id call counters found phase =>
      exact ⟨ledger ++ [call.change],
        kept_of_commit kept found phase (processed_setStats _ _ _)
          (stats_setStats _ _ _)⟩
  | rolledBack =>
      exact ⟨ledger,
        { kept with
          honest := fun isFound =>
            kept.honest (Registry.get_of_get_finish isFound).2
          markers := fun messageId => (kept.markers messageId).finish
          counters := fun event => (kept.counters event).finish }⟩

theorem kept_of_run {labels : List (Label Value)} {final : State Value}
    (ran : run (step uuid decode) (State.empty Value) labels = some final) :
    ∃ ledger, Kept uuid decode final ledger := by
  have preserved :
      ∀ {state next : State Value} {label : Label Value},
        (∃ ledger, Kept uuid decode state ledger) →
          step uuid decode state label = some next →
            ∃ ledger, Kept uuid decode next ledger := by
    intro state next label held stepped
    obtain ⟨ledger, kept⟩ := held
    exact kept_of_transition kept (transition_of_step stepped)
  exact invariant_of_run preserved ⟨[], kept_empty⟩ ran

/-- Messages with one ID add the same to the statistics.  So they do when they
carry the same content. -/
def Coherent (uuid : UuidText) (decode : Value → Except String OrderEvent)
    (messages : List (Kafka.Message Value)) : Prop :=
  ∀ left ∈ changes uuid decode messages,
    ∀ right ∈ changes uuid decode messages,
      left.messageId = right.messageId → left = right

instance
    (uuid : UuidText) (decode : Value → Except String OrderEvent)
    (messages : List (Kafka.Message Value)) :
    Decidable (Coherent uuid decode messages) :=
  inferInstanceAs
    (Decidable
      (∀ left ∈ changes uuid decode messages,
        ∀ right ∈ changes uuid decode messages,
          left.messageId = right.messageId → left = right))

/-- The label delivers none but these messages. -/
def Label.Delivers
    (messages : List (Kafka.Message Value)) (label : Label Value) : Prop :=
  ∀ msg, label = .handle msg → msg ∈ messages

/-- The IDs of the messages that have had a committed call. -/
def committedIds (uuid : UuidText) (decode : Value → Except String OrderEvent)
    (state : State Value) : List UUID :=
  (changes uuid decode state.handled).map Change.messageId

/-- Every message at work or handled satisfies `holds`. -/
structure Among
    (holds : Kafka.Message Value → Prop) (state : State Value) : Prop where
  handled : ∀ msg ∈ state.handled, holds msg
  calls : ∀ {id call}, state.calls.get id = some call → holds call.msg

section Among

variable {holds : Kafka.Message Value → Prop}

theorem among_empty : Among holds (State.empty Value) where
  handled := by
    intro msg member
    cases member
  calls := by
    intro id call found
    cases found

theorem Among.mono {weaker : Kafka.Message Value → Prop}
    (among : Among holds state) (implies : ∀ msg, holds msg → weaker msg) :
    Among weaker state where
  handled := fun msg member => implies msg (among.handled msg member)
  calls := fun found => implies _ (among.calls found)

theorem Among.put (among : Among holds state) {id : Nat} {call : Call Value}
    (found : state.calls.get id = some call) (phase : Phase) :
    Among holds (state.put id (call.goto phase)) where
  handled := among.handled
  calls := by
    intro other value isFound
    rcases Registry.cases_of_get_put isFound with ⟨_, rfl⟩ | ⟨_, stored⟩
    · have same : (call.goto phase).msg = call.msg := rfl
      rw [same]
      exact among.calls found
    · exact among.calls stored

theorem Among.commit (among : Among holds state) {id : Nat} {call : Call Value}
    (found : state.calls.get id = some call) (db : Db) :
    Among holds (state.commit id call db) where
  handled := by
    intro msg member
    rcases List.mem_cons.mp member with rfl | old
    · exact among.calls found
    · exact among.handled msg old
  calls := fun isFound =>
    among.calls (Registry.get_of_get_finish isFound).2

theorem among_of_transition
    {next : State Value} {label : Label Value} (among : Among holds state)
    (delivers : ∀ msg, label = .handle msg → holds msg)
    (transition : Transition uuid decode state label next) :
    Among holds next := by
  cases transition with
  | failed => exact among
  | ignored nothing =>
      refine ⟨?_, among.calls⟩
      intro other member
      rcases List.mem_cons.mp member with rfl | old
      · exact delivers other rfl
      · exact among.handled other old
  | @began msg change parsed =>
      refine ⟨among.handled, ?_⟩
      intro id call found
      rcases Registry.cases_of_get_launch found with ⟨_, rfl⟩ | stored
      · exact delivers msg rfl
      · exact among.calls stored
  | skipped found known => exact among.put found .skipping
  | marked found phase free fresh => exact among.put found .marked
  | counted found phase free => exact among.put found _
  | acknowledged found phase => exact among.commit found state.db
  | committed found phase => exact among.commit found _
  | rolledBack =>
      exact ⟨among.handled, fun isFound =>
        among.calls (Registry.get_of_get_finish isFound).2⟩

end Among

theorem changes_mono {fewer more : List (Kafka.Message Value)}
    (includes : ∀ msg ∈ fewer, msg ∈ more) :
    ∀ change ∈ changes uuid decode fewer,
      change ∈ changes uuid decode more := by
  intro change member
  obtain ⟨msg, stored, parsed⟩ := List.mem_filterMap.mp member
  exact List.mem_filterMap.mpr ⟨msg, includes msg stored, parsed⟩

/-- A run over coherent messages has a ledger of one change for each ID that
has had a committed call. -/
theorem ledger_of_run {messages : List (Kafka.Message Value)}
    {labels : List (Label Value)} {final : State Value}
    (delivers : ∀ label ∈ labels, label.Delivers messages)
    (ran : run (step uuid decode) (State.empty Value) labels = some final) :
    ∃ ledger : List Change,
      (ledger.map Change.messageId).Nodup ∧
        (∀ change ∈ ledger, change ∈ changes uuid decode messages) ∧
        (∀ messageId, messageId ∈ ledger.map Change.messageId ↔
          messageId ∈ committedIds uuid decode final) ∧
        (∀ change ∈ changes uuid decode final.handled,
          change ∈ changes uuid decode messages) ∧
        ∀ event, final.db.stats event = total ledger event := by
  obtain ⟨ledger, kept⟩ := kept_of_run ran
  have among : Among (fun msg => msg ∈ messages) final :=
    invariant_of_restricted_run
      (fun held allowed stepped =>
        among_of_transition held allowed (transition_of_step stepped))
      among_empty (everyStep_of_mem delivers _) ran
  have includes :
      ∀ change ∈ changes uuid decode final.handled,
        change ∈ changes uuid decode messages :=
    changes_mono among.handled
  refine ⟨ledger, kept.distinct,
    fun change member => includes change (kept.included change member),
    ?_, includes, kept.totals⟩
  intro messageId
  constructor
  · intro member
    obtain ⟨change, stored, rfl⟩ := List.mem_map.mp member
    exact List.mem_map_of_mem (kept.included change stored)
  · intro member
    obtain ⟨change, stored, rfl⟩ := List.mem_map.mp member
    rw [← kept.processed]
    exact kept.covered change stored

/-- The statistics of a concert are the sum over the distinct messages with a
committed call, whatever the schedule; only a commit changes the tables. -/
theorem each_message_counts_once {messages : List (Kafka.Message Value)}
    (coherent : Coherent uuid decode messages) {labels : List (Label Value)}
    (delivers : ∀ label ∈ labels, label.Delivers messages) {final : State Value}
    (ran : run (step uuid decode) (State.empty Value) labels = some final) :
    (∀ event, final.db.stats event =
      total
        (distinctBy Change.messageId (changes uuid decode final.handled))
        event) ∧
    (∀ (otherLabels : List (Label Value)) (other : State Value),
      (∀ label ∈ otherLabels, label.Delivers messages) →
        run (step uuid decode) (State.empty Value) otherLabels = some other →
          (∀ messageId, messageId ∈ committedIds uuid decode final ↔
            messageId ∈ committedIds uuid decode other) →
              ∀ event, final.db.stats event = other.db.stats event) ∧
    (∀ (label : Label Value) (next : State Value),
      step uuid decode final label = some next →
        (∀ call, label ≠ .commit call) → next.db = final.db) := by
  obtain ⟨ledger, distinct, known, ids, includes, totals⟩ :=
    ledger_of_run delivers ran
  refine ⟨?_, ?_, ?_⟩
  · intro event
    rw [totals]
    apply total_of_perm
    apply perm_of_same_keys _ distinct
    · rw [map_key_distinctBy]
      exact List.nodup_dedup _
    · intro messageId
      rw [map_key_distinctBy, List.mem_dedup]
      exact ids messageId
    · intro first inLedger second inHandled
      exact coherent first (known first inLedger) second
        (includes second (mem_of_mem_distinctBy inHandled))
  · intro otherLabels other otherDelivers otherRan sameIds event
    obtain ⟨otherLedger, otherDistinct, otherKnown, otherIds, _,
      otherTotals⟩ := ledger_of_run otherDelivers otherRan
    rw [totals, otherTotals]
    apply total_of_perm
    apply perm_of_same_keys _ distinct otherDistinct
    · intro messageId
      rw [ids, otherIds]
      exact sameIds messageId
    · intro first inLedger second inOther
      exact coherent first (known first inLedger) second
        (otherKnown second inOther)
  · intro label next stepped noCommit
    cases transition_of_step stepped with
    | acknowledged found phase => rfl
    | committed found phase => exact absurd rfl (noCommit _)
    | failed => rfl
    | ignored nothing => rfl
    | began parsed => rfl
    | skipped found known => rfl
    | marked found phase free fresh => rfl
    | counted found phase free => rfl
    | rolledBack => rfl

end Calls

-- Two copies of a sale are delivered at once and a failure in between.  The
-- first copy is rolled back after it has counted, and is delivered again.
private def eventMessage (messageId : UUID) (type : OrderEventType)
    (amountCents : Int) : Kafka.Message OrderEvent where
  topic := "order-events"
  partition := 0
  offset := 0
  key := standardText.string 9
  value :=
    { messageId := standardText.string messageId
      type := type
      orderId := standardText.string 9
      userId := standardText.string 5
      eventId := standardText.string 1
      seatIds := [standardText.string 2, standardText.string 3]
      amountCents := amountCents
      failureReason := .unspecified }
  headers := []

private def deliveredMessages : List (Kafka.Message OrderEvent) :=
  [eventMessage 20 .created 500, eventMessage 21 .confirmed 500,
    eventMessage 22 .failed 700]

private def deliveryLabels : List (Label OrderEvent) :=
  [.handle (eventMessage 21 .confirmed 500),
    .handle (eventMessage 21 .confirmed 500),
    .handle (eventMessage 22 .failed 700), .mark 0, .mark 2, .count 0,
    .rollback 0, .mark 1, .count 2,
    .handle (eventMessage 21 .confirmed 500), .commit 2, .count 1, .commit 1,
    .mark 3, .commit 3, .handle (eventMessage 20 .created 500)]

theorem each_message_counts_once_after_a_rollback :
    Coherent standardText Except.ok deliveredMessages ∧
      (∀ label ∈ deliveryLabels, label.Delivers deliveredMessages) ∧
      ∃ final : State OrderEvent,
        run (step standardText Except.ok) (State.empty OrderEvent)
            deliveryLabels = some final ∧
          final.db.stats 1 = some ⟨2, 500, 1, 1⟩ ∧
          ∀ event, final.db.stats event =
            total
              (distinctBy Change.messageId
                (changes standardText Except.ok final.handled)) event := by
  have coherent : Coherent standardText Except.ok deliveredMessages := by
    decide +kernel
  have delivers :
      ∀ label ∈ deliveryLabels, label.Delivers deliveredMessages := by
    simp [deliveryLabels, deliveredMessages, Label.Delivers]
  have ends :
      (run (step standardText Except.ok) (State.empty OrderEvent)
          deliveryLabels).any
        (fun final =>
          decide (final.db.stats 1 = some ⟨2, 500, 1, 1⟩)) = true := by
    decide +kernel
  obtain ⟨final, ran, checked⟩ := (Option.any_eq_true _ _).mp ends
  exact ⟨coherent, delivers, final, ran, of_decide_eq_true checked,
    (each_message_counts_once coherent delivers ran).1⟩

end TicketWave.Analytics
