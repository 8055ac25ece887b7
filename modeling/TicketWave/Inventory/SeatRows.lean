import TicketWave.Inventory.SeatEvents

/-! # What the rows of the outbox say -/

namespace TicketWave.Inventory

open Library

variable {uuid : UuidText} {state next : State uuid}

theorem seat_of_effect (wellFormed : WellFormed state.db)
    (effect : Effect state next) {id : UUID} {row : SeatRow}
    (found : state.db.seat id = some row) :
    ∃ after, next.db.seat id = some after ∧ after.eventId = row.eventId := by
  cases effect with
  | nothing db _ => exact ⟨row, by rw [db, found], rfl⟩
  | created committed _ =>
      rcases createEvent_seat committed id with kept | ⟨absent, _⟩
      · exact ⟨row, by rw [kept, found], rfl⟩
      · rw [absent] at found
        cases found
  | @called _ _ method request _ done committed db _ =>
      have moved := (transact_ok wellFormed request.valid committed).1
      rw [db, moved.seat (Method.change_id method done.order), found,
        Option.map_some]
      refine ⟨_, rfl, ?_⟩
      split
      · exact Method.change_eventId method done.order row
      · rfl
  | swept committed _ =>
      rw [(sweepHolds_ok wellFormed committed).seat, found, Option.map_some]
      refine ⟨_, rfl, ?_⟩
      split
      · rfl
      · rfl

structure Told (uuid : UuidText) (db : Db) (row : Outbox.Row SeatEvent) :
    Prop where
  named : uuid.column row.payload.eventId = some row.key
  nonempty : row.payload.seatIds ≠ []
  lists :
    ∃ ids, uuid.columns row.payload.seatIds = some ids ∧
      ∀ id ∈ ids, ∃ seat, db.seat id = some seat ∧ seat.eventId = row.key
  state : ∃ status : SeatStatus, row.payload.state = status.state

theorem Told.mono
    {db next : Db} {row : Outbox.Row SeatEvent} (told : Told uuid db row)
    (stays :
      ∀ {id seat}, db.seat id = some seat →
        ∃ after, next.seat id = some after ∧ after.eventId = seat.eventId) :
    Told uuid next row where
  named := told.named
  nonempty := told.nonempty
  lists := by
    obtain ⟨ids, read, each⟩ := told.lists
    refine ⟨ids, read, ?_⟩
    intro id member
    obtain ⟨seat, found, isConcert⟩ := each id member
    obtain ⟨after, later, same⟩ := stays found
    exact ⟨after, later, same.trans isConcert⟩
  state := told.state

theorem Told.concert
    {db : Db} {row : Outbox.Row SeatEvent} (told : Told uuid db row)
    {id : UUID} {seat : SeatRow} (found : db.seat id = some seat)
    (lists : id ∈ listed uuid row) : seat.eventId = row.key := by
  obtain ⟨ids, read, each⟩ := told.lists
  have member : id ∈ ids := by
    rw [← filterMap_of_columns read]
    exact lists
  obtain ⟨other, alsoFound, isConcert⟩ := each id member
  rw [found] at alsoFound
  cases alsoFound
  exact isConcert

/-- A new row lists exactly the seats of its concert that changed. -/
theorem Reported.reports
    {before after : Db} {added : List (Outbox.Row SeatEvent)}
    (reported : Reported uuid before after added)
    {row : Outbox.Row SeatEvent} (member : row ∈ added) :
    Reports uuid before after row.key row ∧
      ∃ id, ChangedIn before after row.key id := by
  have changed := reported.needed row member
  obtain ⟨only, isOnly, reports⟩ := reported.once row.key changed
  have same : row ∈ [only] := by
    rw [← isOnly]
    exact List.mem_filter.mpr ⟨member, decide_eq_true rfl⟩
  rw [List.mem_singleton.mp same] at changed ⊢
  rw [List.mem_singleton.mp same] at reports
  exact ⟨reports, changed⟩

theorem told_of_effect (wellFormed : WellFormed state.db)
    (told : ∀ row ∈ state.db.outbox, Told uuid state.db row)
    (effect : Effect state next) :
    ∀ row ∈ next.db.outbox, Told uuid next.db row := by
  obtain ⟨added, reported⟩ := reported_of_effect wellFormed effect
  obtain ⟨alsoAdded, outbox, _, announced⟩ :=
    announced_of_effect wellFormed effect
  have same : alsoAdded = added :=
    List.append_cancel_left (outbox.symm.trans reported.appended)
  subst same
  intro row member
  rw [outbox] at member
  rcases List.mem_append.mp member with old | new
  · exact (told row old).mono fun found => seat_of_effect wellFormed effect found
  · obtain ⟨reports, changedId, changed⟩ := reported.reports new
    obtain ⟨ids, read, _, exactly⟩ := reports.lists
    have isListed : changedId ∈ ids := (exactly changedId).mpr changed
    refine ⟨reports.named, ?_, ⟨ids, read, ?_⟩, ?_⟩
    · intro empty
      rw [empty] at read
      cases read
      cases isListed
    · intro id inRow
      obtain ⟨seat, found, isConcert, _⟩ := (exactly id).mp inRow
      obtain ⟨after, later, kept⟩ := seat_of_effect wellFormed effect found
      exact ⟨after, later, kept.trans isConcert⟩
    · rcases announced changedId with ⟨_, states⟩ | ⟨silent, _⟩
      · obtain ⟨status, _, isState⟩ :=
          Option.map_eq_some_iff.mp (states row new)
        exact ⟨status, isState.symm⟩
      · refine absurd ?_ (silent row new)
        rw [listed, filterMap_of_columns read]
        exact isListed

section Spelling

variable {allowed : SeatRequest → Prop}

/-- The texts of the row come from an allowed request, or from the service
itself. -/
def Issued (uuid : UuidText) (allowed : SeatRequest → Prop)
    (row : Outbox.Row SeatEvent) : Prop :=
  (∃ req, allowed req ∧ row.payload.eventId = req.eventId ∧
      row.payload.seatIds = req.seatIds) ∨
    row.payload.eventId = uuid.string row.key ∧
      ∃ ids : List UUID, row.payload.seatIds = ids.map uuid.string

/-- Every seat request meets the condition. -/
def Requests (allowed : SeatRequest → Prop) : Label → Prop
  | .beginCall _ req => allowed req
  | _ => True

instance Requests.decidable [DecidablePred allowed] :
    ∀ label, Decidable (Requests allowed label)
  | .beginCall _ req => inferInstanceAs (Decidable (allowed req))
  | .tick _ => inferInstanceAs (Decidable True)
  | .createEvent _ _ _ => inferInstanceAs (Decidable True)
  | .commitCall _ _ => inferInstanceAs (Decidable True)
  | .redis _ _ => inferInstanceAs (Decidable True)
  | .reply _ => inferInstanceAs (Decidable True)
  | .drop _ => inferInstanceAs (Decidable True)
  | .sweepList => inferInstanceAs (Decidable True)
  | .sweepCheck _ _ => inferInstanceAs (Decidable True)
  | .sweepOpen _ => inferInstanceAs (Decidable True)
  | .sweepCommit _ _ => inferInstanceAs (Decidable True)

structure Heeds (allowed : SeatRequest → Prop) (state : State uuid) :
    Prop where
  begun :
    ∀ {id method request start},
      state.tasks.get id = some (.opened method request start) →
        allowed request.req
  issued : ∀ row ∈ state.db.outbox, Issued uuid allowed row

theorem heeds_empty : Heeds allowed (State.empty uuid) where
  begun := fun found => by cases found
  issued := nofun

variable {state next : State uuid} {label : Label}

theorem opened_of_transition (transition : Transition state label next)
    {id : Nat} {method : Method} {request : Accepted uuid} {start : Nat}
    (found : next.tasks.get id = some (.opened method request start)) :
    state.tasks.get id = some (.opened method request start) ∨
      label = .beginCall method request.req := by
  have ofPut :
      ∀ {key : Nat} {task : Task uuid},
        (state.tasks.put key task).get id =
            some (.opened method request start) →
          (∀ method request start, task ≠ .opened method request start) →
            state.tasks.get id = some (.opened method request start) := by
    intro key task got other
    rcases Registry.cases_of_get_put got with ⟨_, same⟩ | ⟨_, stored⟩
    · exact absurd same.symm (other method request start)
    · exact stored
  cases transition with
  | tick milliseconds => exact Or.inl found
  | eventCreated counted committed => exact Or.inl found
  | eventRefused => exact Or.inl found
  | callRefused refused => exact Or.inl found
  | callBegun begun accepted =>
      rcases Registry.cases_of_get_launch found with ⟨_, same⟩ | stored
      · cases same
        exact Or.inr rfl
      · exact Or.inl stored
  | callCommitted running committed =>
      exact Or.inl (ofPut found fun _ _ _ equal => nomatch equal)
  | callFailed running failed =>
      exact Or.inl (Registry.get_of_get_finish found).2
  | redis running => exact Or.inl (ofPut found fun _ _ _ equal => nomatch equal)
  | replied running => exact Or.inl (Registry.get_of_get_finish found).2
  | dropped running => exact Or.inl (Registry.get_of_get_finish found).2
  | sweepListed =>
      rcases Registry.cases_of_get_launch found with ⟨_, same⟩ | stored
      · cases same
      · exact Or.inl stored
  | seatExpired running gone =>
      exact Or.inl (ofPut found fun _ _ _ equal => nomatch equal)
  | seatKept running =>
      exact Or.inl (ofPut found fun _ _ _ equal => nomatch equal)
  | sweepSkipped running => exact Or.inl (Registry.get_of_get_finish found).2
  | sweepOpened running =>
      exact Or.inl (ofPut found fun _ _ _ equal => nomatch equal)
  | sweepCommitted running committed =>
      exact Or.inl (Registry.get_of_get_finish found).2
  | sweepFailed running => exact Or.inl (Registry.get_of_get_finish found).2

theorem issued_of_transition (wellFormed : WellFormed state.db)
    (heeds : Heeds allowed state) (transition : Transition state label next) :
    ∀ row ∈ next.db.outbox, Issued uuid allowed row := by
  intro row member
  cases transition with
  | eventCreated counted committed =>
      refine heeds.issued row ?_
      rw [← (createEvent_ok committed).2.1]
      exact member
  | @callCommitted id rowId method request start done running committed =>
      obtain ⟨event, performed⟩ :=
        (transact_eq_ok_iff wellFormed.seatIds request.valid).mp committed
      have grown : row ∈ done.db.outbox := member
      rw [performed.result] at grown
      rcases List.mem_append.mp grown with old | new
      · exact heeds.issued row old
      · rw [List.mem_singleton.mp new]
        exact Or.inl ⟨request.req, heeds.begun running, rfl, rfl⟩
  | @sweepCommitted id newId expired start db running committed =>
      have grown : row ∈ db.outbox := member
      rw [(sweepHolds_eq_ok wellFormed committed).1] at grown
      rcases List.mem_append.mp grown with old | new
      · exact heeds.issued row old
      · obtain ⟨group, _, rfl⟩ := List.mem_map.mp new
        exact Or.inr ⟨rfl, group.2, rfl⟩
  | _ => exact heeds.issued row member

theorem heeds_of_transition (wellFormed : WellFormed state.db)
    (heeds : Heeds allowed state) (requests : Requests allowed label)
    (transition : Transition state label next) : Heeds allowed next where
  begun := by
    intro id method request start found
    rcases opened_of_transition transition found with stored | begins
    · exact heeds.begun stored
    · rw [begins] at requests
      exact requests
  issued := issued_of_transition wellFormed heeds transition

theorem Issued.seats_canonical {row : Outbox.Row SeatEvent}
    (issued :
      Issued uuid (fun req => ∀ text ∈ req.seatIds, uuid.Canonical text) row) :
    ∀ text ∈ row.payload.seatIds, uuid.Canonical text := by
  rcases issued with ⟨req, canonical, _, seats⟩ | ⟨_, ids, seats⟩
  · rw [seats]
    exact canonical
  · rw [seats]
    intro text member
    obtain ⟨id, _, rfl⟩ := List.mem_map.mp member
    exact uuid.canonical_string id

end Spelling

/-- What holds of the outbox in every state that the service reaches. -/
structure Narrated (allowed : SeatRequest → Prop) (state : State uuid) :
    Prop where
  wellFormed : WellFormed state.db
  tells : Tells state
  told : ∀ row ∈ state.db.outbox, Told uuid state.db row
  heeds : Heeds allowed state

theorem narrated_empty {allowed : SeatRequest → Prop} :
    Narrated allowed (State.empty uuid) where
  wellFormed := wellFormed_empty
  tells := fun _ => Or.inl rfl
  told := nofun
  heeds := heeds_empty

theorem narrated_of_step {allowed : SeatRequest → Prop} {label : Label}
    (narrated : Narrated allowed state) (requests : Requests allowed label)
    (stepped : step state label = some next) : Narrated allowed next := by
  have transition := transition_of_step stepped
  have effect := transition.effect
  exact
    { wellFormed := wellFormed_of_effect narrated.wellFormed effect
      tells := tells_of_effect narrated.wellFormed narrated.tells effect
      told := told_of_effect narrated.wellFormed narrated.told effect
      heeds :=
        heeds_of_transition narrated.wellFormed narrated.heeds requests
          transition }

end TicketWave.Inventory
