import TicketWave.SeatMap.Page

/-!
# The seat map converges

A reply is harmless as long as every update that was committed after its list
was read is still to come.
-/

namespace TicketWave.SeatMap

open Library TicketWave.Inventory

variable {uuid : UuidText} {collation : String → String → Bool}

/-- The word for the state in a row. -/
def word (row : Outbox.Row SeatEvent) : String :=
  seatStateName row.payload.state

/-- Once the rows from the position on have been applied, the cached seat has
the status of the stored one. -/
structure Tracks
    (uuid : UuidText) (db : Db) (eventId : String) (position : Nat)
    (seat : SeatView) (id : UUID) : Prop where
  stored : ∃ row, db.seat id = some row ∧ uuid.column eventId = some row.eventId
  named : seat.id = uuid.string id
  catches :
    ∀ status, db.status id = some status →
      CatchesUp (concerns uuid id) word (db.outbox.drop position)
        seat.status (seatStatusName status)

/-- The list was read when the outbox had `taken` rows. -/
structure Snapshot
    (uuid : UuidText) (db : Db) (eventId : String) (taken : Nat)
    (seats : List SeatView) : Prop where
  readable : Readable uuid eventId
  within : taken ≤ db.outbox.length
  tracks :
    ∀ seat ∈ seats, ∃ id,
      Tracks uuid db eventId taken seat id ∧
        ∀ last,
          lastValue (concerns uuid id) word (db.outbox.take taken) =
              some last →
            last = seat.status

theorem lastValue_word (id : UUID) (rows : List (Outbox.Row SeatEvent)) :
    lastValue (concerns uuid id) word rows =
      (shown uuid rows id).map seatStateName := by
  unfold shown lastValue
  rw [Option.map_map]
  rfl

section Steps

variable {db : Db} {eventId : String} {seat : SeatView} {id : UUID}
  {state : Inventory.State uuid} {position : Nat} {seats : List SeatView}

/-- What a service step adds to the outbox tells the seat what has happened to
it. -/
theorem Tracks.effect {next : Inventory.State uuid}
    (wellFormed : WellFormed state.db) (effect : Effect state next)
    (within : position ≤ state.db.outbox.length)
    (tracks : Tracks uuid state.db eventId position seat id) :
    Tracks uuid next.db eventId position seat id := by
  obtain ⟨row, found, isConcert⟩ := tracks.stored
  obtain ⟨after, later, sameConcert⟩ := seat_of_effect wellFormed effect found
  obtain ⟨added, outbox, _, announced⟩ := announced_of_effect wellFormed effect
  refine ⟨⟨after, later, sameConcert ▸ isConcert⟩, tracks.named, ?_⟩
  intro status isStatus
  rw [outbox, List.drop_append_of_le_length within]
  rcases announced id with ⟨⟨new, isNew, lists⟩, states⟩ | ⟨silent, kept⟩
  · apply catchesUp_append
    apply lastValue_of_constant isNew (decide_eq_true lists)
    intro other isOther _
    have told := states other isOther
    rw [isStatus] at told
    rw [word, ← Option.some.inj told]
    exact seatStateName_state status
  · have before : state.db.status id = some status := by
      rcases kept with same | ⟨absent, _⟩
      · rw [← same]
        exact isStatus
      · rw [status_of_seat found] at absent
        cases absent
    refine (tracks.catches status before).append_silent ?_
    intro row member
    exact decide_eq_false (silent row member)

theorem Snapshot.effect {next : Inventory.State uuid} {taken : Nat}
    (wellFormed : WellFormed state.db) (effect : Effect state next)
    (snapshot : Snapshot uuid state.db eventId taken seats) :
    Snapshot uuid next.db eventId taken seats := by
  obtain ⟨added, outbox, _⟩ := announced_of_effect wellFormed effect
  refine ⟨snapshot.readable, ?_, ?_⟩
  · rw [outbox, List.length_append]
    exact Nat.le_add_right_of_le snapshot.within
  · intro seat member
    obtain ⟨id, tracks, last⟩ := snapshot.tracks seat member
    refine ⟨id, tracks.effect wellFormed effect snapshot.within, ?_⟩
    rw [outbox, List.take_append_of_le_length snapshot.within]
    exact last

theorem snapshot_of_read (wellFormed : WellFormed state.db)
    (tells : Tells state)
    (listed : listSeats uuid collation state.db eventId = .ok seats) :
    Snapshot uuid state.db eventId state.db.outbox.length seats := by
  refine ⟨readable_iff_ok.mpr ⟨seats, listed⟩, Nat.le_refl _, ?_⟩
  intro seat member
  obtain ⟨row, stored, isConcert, rfl⟩ := mem_of_listSeats listed member
  have found : state.db.seat row.id = some row :=
    lookup_of_mem wellFormed.seatIds stored
  have isStatus : state.db.status row.id = some row.status :=
    status_of_seat found
  refine ⟨row.id, ⟨⟨row, found, isConcert⟩, rfl, ?_⟩, ?_⟩
  · intro status alsoStatus
    rw [isStatus] at alsoStatus
    cases alsoStatus
    rw [List.drop_length]
    rfl
  · intro last isLast
    rw [List.take_length, lastValue_word] at isLast
    obtain ⟨state, isShown, rfl⟩ := Option.map_eq_some_iff.mp isLast
    have current := tells row.id
    rw [isShown, isStatus] at current
    rw [← Option.some.inj current]
    exact seatStateName_state row.status

theorem Tracks.apply {row : Outbox.Row SeatEvent}
    (tracks : Tracks uuid db eventId position seat id)
    (next : db.outbox[position]? = some row) :
    Tracks uuid db eventId (position + 1)
      { seat with
        status :=
          if concerns uuid id row = true then word row else seat.status }
      id where
  stored := tracks.stored
  named := tracks.named
  catches := by
    intro status isStatus
    have catches := tracks.catches status isStatus
    obtain ⟨bound, isRow⟩ := List.getElem?_eq_some_iff.mp next
    rw [List.drop_eq_getElem_cons bound, isRow] at catches
    exact catches.apply

/-- A list that was read at or after the position may be put in place of the
cached one. -/
theorem Snapshot.tracks_at {taken : Nat}
    (snapshot : Snapshot uuid db eventId taken seats)
    (told : ∀ row ∈ db.outbox, Told uuid db row)
    (inTime :
      ∀ row ∈ (db.outbox.take position).drop taken,
        uuid.column eventId ≠ some row.key) (member : seat ∈ seats) :
    ∃ id, Tracks uuid db eventId position seat id := by
  obtain ⟨id, tracks, last⟩ := snapshot.tracks seat member
  refine ⟨id, tracks.stored, tracks.named, ?_⟩
  intro status isStatus
  have catches := tracks.catches status isStatus
  by_cases later : position ≤ taken
  · exact catches.again last later
  · have split :
        db.outbox.drop taken =
          (db.outbox.take position).drop taken ++ db.outbox.drop position := by
      by_cases short : db.outbox.length ≤ position
      · rw [List.take_of_length_le short, List.drop_eq_nil_of_le short,
          List.append_nil]
      · conv_lhs => rw [← List.take_append_drop position db.outbox]
        rw [List.drop_append_of_le_length]
        rw [List.length_take]
        omega
    rw [split] at catches
    refine catches.skip ?_
    intro row between
    have isRow : row ∈ db.outbox :=
      List.mem_of_mem_take (List.mem_of_mem_drop between)
    obtain ⟨seatRow, found, isConcert⟩ := tracks.stored
    apply decide_eq_false
    intro lists
    have same := (told row isRow).concert found lists
    rw [same] at isConcert
    exact inTime row between isConcert

end Steps

/-- The seats of the row are spelled as the service spells them. -/
def CanonicalSeats (uuid : UuidText) (req : SeatRequest) : Prop :=
  ∀ text ∈ req.seatIds, uuid.Canonical text

variable {db : Db} {row : Outbox.Row SeatEvent} {page : Page uuid} {id : Nat}

theorem string_mem_iff (told : Told uuid db row)
    (canonical : ∀ text ∈ row.payload.seatIds, uuid.Canonical text)
    (id : UUID) :
    uuid.string id ∈ row.payload.seatIds ↔ concerns uuid id row = true := by
  obtain ⟨ids, read, _⟩ := told.lists
  rw [concerns, decide_eq_true_iff, listed, filterMap_of_columns read,
    ← UuidText.map_string_of_canonical canonical read,
    List.mem_map_of_injective uuid.string_injective]

/-- The stream brings the row as an update of the seats it lists. -/
theorem receive_eq (blank : uuid.column "" = none) (told : Told uuid db row)
    (cache : Option (List SeatView)) :
    receive cache row = applyUpdate cache (Realtime.updateOf row) := by
  have isState : word row ∈ states := by
    obtain ⟨status, isStatus⟩ := told.state
    rw [word, isStatus]
    cases status <;> decide
  have parsed :
      parseUpdate (Realtime.updateOf row) = some (Realtime.updateOf row) :=
    if_pos isState
  unfold receive
  rw [Realtime.handler_eq blank told, Option.bind_some, parsed]

theorem applied_eq (told : Told uuid db row)
    (canonical : ∀ text ∈ row.payload.seatIds, uuid.Canonical text)
    {seat : SeatView} {id : UUID} (named : seat.id = uuid.string id) :
    (if
        seat.id ∈ (Realtime.updateOf row).seatIds ∧
          seat.status ≠ (Realtime.updateOf row).state then
        { seat with status := (Realtime.updateOf row).state }
      else seat) =
      { seat with
        status :=
          if concerns uuid id row = true then word row else seat.status } := by
  have listedIff :
      seat.id ∈ (Realtime.updateOf row).seatIds ↔
        concerns uuid id row = true := by
    rw [named]
    exact string_mem_iff told canonical id
  by_cases concerned : concerns uuid id row = true
  · rw [if_pos concerned]
    by_cases same : seat.status = word row
    · rw [if_neg (fun both => both.2 same), ← same]
    · exact if_pos ⟨listedIff.mpr concerned, same⟩
  · rw [if_neg (fun both => concerned (listedIff.mp both.1)), if_neg concerned]

/-- The reply that arrives leaves every later update of the event to come, or
another fetch is under way. -/
def InTime (page : Page uuid) : Label → Prop
  | .arrive id =>
      ∀ position ∈ page.stream.position,
        ∀ taken ∈ (page.fetches.get id).bind Fetch.taken,
          (page.fetches.finish id).entries ≠ [] ∨
            ∀ row ∈ (page.outbox.take position).drop taken,
              page.shows row = false
  | _ => True

/-- Every seat request spells its seats as the lists do. -/
def Spelled (_page : Page uuid) : Label → Prop
  | .service label => Requests (CanonicalSeats uuid) label
  | _ => True

instance InTime.decidable (page : Page uuid) :
    ∀ label, Decidable (InTime page label)
  | .arrive id =>
      inferInstanceAs
        (Decidable
          (∀ position ∈ page.stream.position,
            ∀ taken ∈ (page.fetches.get id).bind Fetch.taken,
              (page.fetches.finish id).entries ≠ [] ∨
                ∀ row ∈ (page.outbox.take position).drop taken,
                  page.shows row = false))
  | .service _ => inferInstanceAs (Decidable True)
  | .fetch => inferInstanceAs (Decidable True)
  | .read _ => inferInstanceAs (Decidable True)
  | .subscribe _ => inferInstanceAs (Decidable True)
  | .opens => inferInstanceAs (Decidable True)
  | .deliver => inferInstanceAs (Decidable True)
  | .disconnect => inferInstanceAs (Decidable True)

instance : DecidablePred (CanonicalSeats uuid) := fun req =>
  inferInstanceAs
    (Decidable (∀ text ∈ req.seatIds, uuid.Canonical text))

instance Spelled.decidable (page : Page uuid) :
    ∀ label, Decidable (Spelled page label)
  | .service label =>
      inferInstanceAs (Decidable (Requests (CanonicalSeats uuid) label))
  | .fetch => inferInstanceAs (Decidable True)
  | .read _ => inferInstanceAs (Decidable True)
  | .arrive _ => inferInstanceAs (Decidable True)
  | .subscribe _ => inferInstanceAs (Decidable True)
  | .opens => inferInstanceAs (Decidable True)
  | .deliver => inferInstanceAs (Decidable True)
  | .disconnect => inferInstanceAs (Decidable True)

structure Sound (page : Page uuid) : Prop where
  narrated : Narrated (CanonicalSeats uuid) page.inventory
  answered :
    ∀ {id taken seats},
      page.fetches.get id = some (.answered taken (.ok seats)) →
        Snapshot uuid page.inventory.db page.eventId taken seats
  refused :
    ∀ {id taken err},
      page.fetches.get id = some (.answered taken (.error err)) →
        ¬ Readable uuid page.eventId
  readable : ∀ {seats}, page.cache = some seats → Readable uuid page.eventId
  within :
    ∀ {position},
      page.stream = .subscribed position ∨ page.stream = .opened position →
        position ≤ page.outbox.length
  cached :
    ∀ {position},
      page.stream = .opened position →
        page.fetches.entries ≠ [] ∨
          ∀ seats, page.cache = some seats → ∀ seat ∈ seats,
            ∃ id, Tracks uuid page.inventory.db page.eventId position seat id

theorem sound_new (eventId : String) : Sound (Page.new uuid eventId) where
  narrated := narrated_empty
  answered := fun found => by cases found
  refused := fun found => by cases found
  readable := fun isCached => by cases isCached
  within := by
    rintro position (isSubscribed | isOpened)
    · cases isSubscribed
    · cases isOpened
  cached := fun isOpened => by cases isOpened

theorem sound_of_service {label : Inventory.Label}
    {inventory : Inventory.State uuid} (sound : Sound page)
    (requests : Requests (CanonicalSeats uuid) label)
    (stepped : Inventory.step page.inventory label = some inventory) :
    Sound { page with inventory := inventory } := by
  have effect := (Inventory.transition_of_step stepped).effect
  have wellFormed := sound.narrated.wellFormed
  obtain ⟨added, outbox, _⟩ := announced_of_effect wellFormed effect
  refine
    { narrated := narrated_of_step sound.narrated requests stepped
      answered := fun found => (sound.answered found).effect wellFormed effect
      refused := sound.refused
      readable := sound.readable
      within := ?_
      cached := ?_ }
  · intro position isAt
    show position ≤ inventory.db.outbox.length
    rw [outbox, List.length_append]
    exact Nat.le_add_right_of_le (sound.within isAt)
  · intro position isOpened
    have within : position ≤ page.inventory.db.outbox.length :=
      sound.within (Or.inr isOpened)
    refine (sound.cached isOpened).imp_right ?_
    intro tracks seats isCached seat member
    obtain ⟨id, tracked⟩ := tracks seats isCached seat member
    exact ⟨id, tracked.effect wellFormed effect within⟩

theorem sound_of_arrival {taken : Nat} {seats : List SeatView}
    (sound : Sound page) (inTime : InTime page (.arrive id))
    (answered : page.fetches.get id = some (.answered taken (.ok seats))) :
    Sound
      { page with
        fetches := page.fetches.finish id
        cache := some seats } where
  narrated := sound.narrated
  answered := fun found =>
    sound.answered (Registry.get_of_get_finish found).2
  refused := fun found =>
    sound.refused (Registry.get_of_get_finish found).2
  readable := fun _ => (sound.answered answered).readable
  within := sound.within
  cached := by
    intro position isOpened
    have isAt : page.stream.position = some position :=
      congrArg Stream.position isOpened
    have isTaken : (page.fetches.get id).bind Fetch.taken = some taken := by
      rw [answered]
      rfl
    refine (inTime position isAt taken isTaken).imp_right ?_
    intro behind others isCached seat member
    cases isCached
    refine (sound.answered answered).tracks_at sound.narrated.told ?_ member
    intro row between
    exact of_decide_eq_false (behind row between)

theorem sound_of_delivery {position : Nat} (blank : uuid.column "" = none)
    (sound : Sound page) (opened : page.stream = .opened position)
    (next : page.outbox[position]? = some row) :
    Sound
      { page with
        stream := .opened (position + 1)
        cache :=
          if page.shows row then receive page.cache row else page.cache } := by
  have isRow : row ∈ page.inventory.db.outbox := List.mem_of_getElem? next
  have told := sound.narrated.told row isRow
  have canonical := (sound.narrated.heeds.issued row isRow).seats_canonical
  refine
    { narrated := sound.narrated
      answered := sound.answered
      refused := sound.refused
      readable := ?_
      within := ?_
      cached := ?_ }
  · intro seats isCached
    cases isOld : page.cache with
    | some old => exact sound.readable isOld
    | none =>
        have empty : receive none row = none := by
          rw [receive_eq blank told]
          rfl
        simp only [isOld, empty, ite_self] at isCached
        cases isCached
  · rintro other (isSubscribed | isOpened)
    · cases isSubscribed
    · cases isOpened
      exact (List.getElem?_eq_some_iff.mp next).1
  · rintro other ⟨⟩
    refine (sound.cached opened).imp_right ?_
    intro tracks seats isCached seat member
    by_cases isShown : page.shows row = true
    · have received :
          applyUpdate page.cache (Realtime.updateOf row) = some seats := by
        rw [← receive_eq blank told]
        rw [← isCached]
        exact (if_pos isShown).symm
      obtain ⟨old, isOld, rfl⟩ := Option.map_eq_some_iff.mp received
      obtain ⟨before, wasMember, rfl⟩ := List.mem_map.mp member
      obtain ⟨id, tracked⟩ := tracks old isOld before wasMember
      refine ⟨id, ?_⟩
      rw [applied_eq told canonical tracked.named]
      exact tracked.apply next
    · have same : page.cache = some seats := by
        rw [← isCached]
        exact (if_neg isShown).symm
      obtain ⟨id, tracked⟩ := tracks seats same seat member
      have applied := tracked.apply next
      have apart : ¬ concerns uuid id row = true := by
        intro concerned
        obtain ⟨stored, found, isConcert⟩ := tracked.stored
        rw [told.concert found (of_decide_eq_true concerned)] at isConcert
        exact isShown (decide_eq_true isConcert)
      rw [if_neg apart] at applied
      exact ⟨id, applied⟩

theorem Sound.launch (sound : Sound page) {stream : Stream}
    (within :
      ∀ {position},
        stream = .subscribed position ∨ stream = .opened position →
          position ≤ page.outbox.length) :
    Sound
      { page with
        stream := stream
        fetches := page.fetches.launch .asked } where
  narrated := sound.narrated
  answered := by
    intro id taken seats found
    rcases Registry.cases_of_get_launch found with ⟨_, same⟩ | stored
    · cases same
    · exact sound.answered stored
  refused := by
    intro id taken err found
    rcases Registry.cases_of_get_launch found with ⟨_, same⟩ | stored
    · cases same
    · exact sound.refused stored
  readable := sound.readable
  within := within
  cached := fun _ => Or.inl (List.cons_ne_nil _ _)

theorem sound_of_read (sound : Sound page)
    (asked : page.fetches.get id = some .asked) :
    Sound
      { page with
        fetches :=
          page.fetches.put id
            (.answered page.outbox.length
              (listSeats uuid collation page.inventory.db page.eventId)) } where
  narrated := sound.narrated
  answered := by
    intro other taken seats found
    rcases Registry.cases_of_get_put found with ⟨_, same⟩ | ⟨_, stored⟩
    · injection same with isTaken isReply
      rw [isTaken]
      exact snapshot_of_read sound.narrated.wellFormed sound.narrated.tells
        isReply.symm
    · exact sound.answered stored
  refused := by
    intro other taken err found
    rcases Registry.cases_of_get_put found with ⟨_, same⟩ | ⟨_, stored⟩
    · injection same with _ isReply
      intro readable
      obtain ⟨seats, isOk⟩ := readable_iff_ok.mp readable
      rw [isOk] at isReply
      cases isReply
    · exact sound.refused stored
  readable := sound.readable
  within := sound.within
  cached := by
    intro position isOpened
    exact Or.inl
      (List.ne_nil_of_mem
        (Registry.get_eq_some_iff.mp (Registry.get_put_self asked)))

theorem sound_of_refusal {taken : Nat} {err : Status} (sound : Sound page)
    (answered : page.fetches.get id = some (.answered taken (.error err))) :
    Sound { page with fetches := page.fetches.finish id } where
  narrated := sound.narrated
  answered := fun found =>
    sound.answered (Registry.get_of_get_finish found).2
  refused := fun found =>
    sound.refused (Registry.get_of_get_finish found).2
  readable := sound.readable
  within := sound.within
  cached := by
    intro position isOpened
    right
    intro seats isCached
    exact absurd (sound.readable isCached) (sound.refused answered)

theorem sound_of_transition {next : Page uuid} {label : Label}
    (blank : uuid.column "" = none) (sound : Sound page)
    (inTime : InTime page label) (spelled : Spelled page label)
    (transition : Transition collation page label next) : Sound next := by
  cases transition with
  | served stepped => exact sound_of_service sound spelled stepped
  | fetched => exact sound.launch sound.within
  | read asked => exact sound_of_read sound asked
  | replaced answered => exact sound_of_arrival sound inTime answered
  | failed answered => exact sound_of_refusal sound answered
  | subscribed within =>
      refine ⟨sound.narrated, sound.answered, sound.refused, sound.readable, ?_,
        fun isOpened => by cases isOpened⟩
      rintro position (isSubscribed | isOpened)
      · cases isSubscribed
        exact within
      · cases isOpened
  | opened subscribed =>
      apply sound.launch
      rintro position (isSubscribed | isOpened)
      · cases isSubscribed
      · cases isOpened
        exact sound.within (Or.inl subscribed)
  | delivered opened next => exact sound_of_delivery blank sound opened next
  | disconnected =>
      refine ⟨sound.narrated, sound.answered, sound.refused, sound.readable, ?_,
        fun isOpened => by cases isOpened⟩
      rintro position (isSubscribed | isOpened)
      · cases isSubscribed
      · cases isOpened

/-- No fetch is under way, and every update has been delivered. -/
def Page.Quiet (page : Page uuid) : Prop :=
  page.fetches.entries = [] ∧
    ∃ position,
      page.stream = .opened position ∧
        ∀ row ∈ page.outbox.drop position, page.shows row = false

theorem cached_seats_converge {eventId : String} {labels : List Label}
    {page : Page uuid} (blank : uuid.column "" = none)
    (inTime :
      EveryStep (Page.step collation) InTime (Page.new uuid eventId) labels)
    (spelled :
      EveryStep (Page.step collation) Spelled (Page.new uuid eventId) labels)
    (ran : run (Page.step collation) (Page.new uuid eventId) labels = some page)
    (quiet : page.Quiet) :
    ∀ seats, page.cache = some seats → ∀ seat ∈ seats,
      ∃ row ∈ page.inventory.db.seats,
        seat.id = uuid.string row.id ∧
          seat.status = seatStatusName row.status := by
  have sound : Sound page :=
    invariant_of_restricted_run
      (fun held allowed stepped =>
        sound_of_transition blank held allowed.1 allowed.2
          (transition_of_step stepped))
      (sound_new eventId) (everyStep_and inTime spelled) ran
  obtain ⟨nobody, position, isOpened, delivered⟩ := quiet
  have tracks := (sound.cached isOpened).resolve_left fun some => some nobody
  intro seats isCached seat member
  obtain ⟨id, tracked⟩ := tracks seats isCached seat member
  obtain ⟨row, found, isConcert⟩ := tracked.stored
  have isSeat : row.id = id := key_of_lookup found
  refine ⟨row, mem_of_lookup found, isSeat ▸ tracked.named, ?_⟩
  refine (tracked.catches row.status (status_of_seat found)).eq_of_silent ?_
  intro told isRow
  apply decide_eq_false
  intro lists
  have same :=
    (sound.narrated.told told (List.mem_of_mem_drop isRow)).concert found
      lists
  have unseen : uuid.column page.eventId ≠ some told.key :=
    of_decide_eq_false (delivered told isRow)
  rw [same] at isConcert
  exact unseen isConcert

-- The concert 1 has the seat 171.  The page loads its list and the stream
-- opens.  In `overlapping` the order 9 takes the seat before the list is read
-- again, and the update comes behind the reply.  In `overtaken` the list is
-- read first and its reply comes last.
private def loaded : List Label :=
  [.service (.createEvent ⟨"Concert", 1⟩ 1 [171]), .fetch, .read 0,
    .arrive 0, .subscribe 0, .opens]

private def taken (seat : String) : List Label :=
  [.service
      (.beginCall .reserveSeats ⟨standardString 1, [seat], standardString 9⟩),
    .service (.commitCall 0 10)]

private def overlapping : List Label :=
  loaded ++ taken (standardString 171) ++ [.read 1, .arrive 1, .deliver]

private def overtaken : List Label :=
  loaded ++ [.read 1] ++ taken (standardString 171) ++ [.deliver, .arrive 1]

/-- The seat is reserved under its capital spelling. -/
private def capitals : List Label :=
  loaded ++ [.read 1, .arrive 1] ++
    taken "00000000-0000-0000-0000-0000000000AB" ++ [.deliver]

private def start : Page standardText :=
  Page.new standardText (standardString 1)

private abbrev move : Page standardText → Label → Option (Page standardText) :=
  Page.step fun _ _ => true

/-- A quiet page that shows the seat with the word, while it is stored as
held. -/
private def ends (shown : String) (page : Page standardText) : Bool :=
  decide
    (page.fetches.entries = [] ∧ page.stream = .opened 1 ∧
      page.outbox.length = 1 ∧
      page.inventory.db.status 171 = some .held ∧
      page.cache =
        some [{ id := standardString 171, label := "Seat 1", status := shown }])

private theorem quiet_of_ends {shown : String} {page : Page standardText}
    (isEnd : ends shown page = true) : page.Quiet := by
  obtain ⟨nobody, opened, length, _⟩ := of_decide_eq_true isEnd
  refine ⟨nobody, 1, opened, ?_⟩
  rw [List.drop_eq_nil_of_le length.le]
  intro row member
  cases member

theorem cached_seats_converge_behind_a_reply :
    ∃ page,
      run move start overlapping = some page ∧ page.Quiet ∧
        ∃ seats, page.cache = some seats ∧ seats.length = 1 ∧
          ∀ seat ∈ seats,
            ∃ row ∈ page.inventory.db.seats,
              seat.id = standardText.string row.id ∧
                seat.status = seatStatusName row.status := by
  have reached :
      (run move start overlapping).any (ends "held") = true := by
    decide +kernel
  have inTime : EveryStep move InTime start overlapping := by
    decide +kernel
  have spelled : EveryStep move Spelled start overlapping := by
    decide +kernel
  obtain ⟨page, ran, isEnd⟩ := (Option.any_eq_true _ _).mp reached
  have quiet := quiet_of_ends isEnd
  obtain ⟨_, _, _, _, cached⟩ := of_decide_eq_true isEnd
  exact ⟨page, ran, quiet, _, cached, rfl,
    cached_seats_converge (by decide) inTime spelled ran quiet _ cached⟩

/-- A reply that was read before an update and arrives behind it takes the
update back, and an update under another spelling finds no seat. -/
theorem late_replies_and_capitals_leave_a_wrong_map :
    (∃ page,
      run move start overtaken = some page ∧ page.Quiet ∧
        EveryStep move Spelled start overtaken ∧
        ends "available" page = true) ∧
      ∃ page,
        run move start capitals = some page ∧ page.Quiet ∧
          EveryStep move InTime start capitals ∧
          ends "available" page = true := by
  have late : (run move start overtaken).any (ends "available") = true := by
    decide +kernel
  have unseen : (run move start capitals).any (ends "available") = true := by
    decide +kernel
  obtain ⟨latePage, lateRan, lateEnd⟩ := (Option.any_eq_true _ _).mp late
  obtain ⟨page, ran, isEnd⟩ := (Option.any_eq_true _ _).mp unseen
  exact ⟨⟨latePage, lateRan, quiet_of_ends lateEnd, by decide +kernel, lateEnd⟩,
    page, ran, quiet_of_ends isEnd, by decide +kernel, isEnd⟩

end TicketWave.SeatMap
